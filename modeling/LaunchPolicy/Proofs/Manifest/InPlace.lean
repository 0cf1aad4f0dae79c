import LaunchPolicy.Proofs.Manifest.Annotatable
import LaunchPolicy.Proofs.Manifest.Annotated

/-!
The annotation as a change of a document in place: mappings are made on the way down and checked
after they are made. What makes the steps fail is met before anything is changed, so the steps leave
the annotated document or the one that there was.
-/

namespace LaunchPolicy

/-! Steps on a document -/

/-- Steps that change a document, and with a failure leave it as they have changed it so far. -/
abbrev InPlace := ExceptT Failure (StateM Value)

namespace InPlace

variable {α β : Type} {document : Value} {path : List String}

def run (steps : InPlace α) (document : Value) : Except Failure α × Value := StateT.run steps document

/-- Goes on only where there is a mapping. -/
def require (path : List String) (failure : Failure) : InPlace Unit := do
  match (← get).at? path with
  | some (.map _) => return
  | _ => throw failure

/-- Makes an empty mapping where what is there counts as absent. -/
def makeWhere (absent : Option Value → Bool) (path : List String) : InPlace Unit := do
  if absent ((← get).at? path) then modify (Value.setAt path (.map []))

def assign (path : List String) (new : Value) : InPlace Unit := modify (Value.setAt path new)

theorem run_bind (steps : InPlace α) (next : α → InPlace β) (document : Value) :
    (steps >>= next).run document =
      match steps.run document with
      | (.ok a, after) => (next a).run after
      | (.error failure, after) => (.error failure, after) := by
  rcases result : steps.run document with ⟨r, after⟩
  change StateT.bind steps (ExceptT.bindCont next) document = _
  simp only [StateT.bind, show steps document = (r, after) from result, bind]
  cases r <;> rfl

theorem run_require (path : List String) (failure : Failure) (document : Value) :
    (require path failure).run document =
      match document.at? path with
      | some (.map _) => (.ok (), document)
      | _ => (.error failure, document) := by
  change InPlace.run (match document.at? path with
    | some (.map _) => _
    | _ => _) document = _
  split <;> rfl

theorem run_make_where (absent : Option Value → Bool) (path : List String) (document : Value) :
    (makeWhere absent path).run document =
      (.ok (), if absent (document.at? path) then Value.setAt path (.map []) document else document) := by
  change InPlace.run (if absent (document.at? path) = true then _ else _) document = _
  split <;> rfl

@[simp] theorem run_assign (path : List String) (new document : Value) :
    (assign path new).run document = (.ok (), Value.setAt path new document) := rfl

end InPlace

namespace Manifest

open InPlace (run_bind run_require run_make_where)
open Value (at_own_field at_field mappings_on_the_way)
open Yaml.Graph (annotationPath annotationFields)

variable {document : Value} {pod metadata fields : Fields} {path : FieldPath} {policy : String}

/-- Finds the pod, which is nowhere made. -/
def descendInPlace (done : List String) : List String → InPlace Unit
  | [] => return
  | name :: names => do
      InPlace.require (done ++ [name])
        (.policy (PolicyError.atField (.ofFields (done ++ [name])) (.notShaped "pod" .mapping)))
      descendInPlace (done ++ [name]) names

/-- Annotates the pod that has metadata at a place. Annotations are made when they are absent or null. -/
def annotateMetadataInPlace (place : List String) (policy : String) : InPlace Unit := do
  let annotations := place ++ ["annotations"]
  InPlace.makeWhere (fun found => found.getD .null = .null) annotations
  InPlace.require annotations
    (.policy (PolicyError.atField (.ofFields annotations) .annotationsNotMapping))
  InPlace.assign (annotations ++ [policyAnnotationKey]) (.text policy)

/-- Annotates the pod at a place. Metadata are made only when they are absent. -/
def annotatePodInPlace (place : List String) (policy : String) : InPlace Unit := do
  let metadata := place ++ ["metadata"]
  InPlace.makeWhere Option.isNone metadata
  InPlace.require metadata (.policy (PolicyError.atField (.ofFields metadata) .metadataNotMapping))
  annotateMetadataInPlace metadata policy

def annotateInPlace (kind : WorkloadKind) (policy : String) : InPlace Unit := do
  descendInPlace [] kind.templatePath
  InPlace.require kind.templatePath (.data .noFields)
  annotatePodInPlace kind.templatePath policy

/-- All of a change, or none of it. -/
def wholly (change : Value → Except Failure Value) (document : Value) : Except Failure Unit × Value :=
  match change document with
  | .ok after => (.ok (), after)
  | .error failure => (.error failure, document)

theorem of_fields_concat (names : List String) (name : String) :
    FieldPath.ofFields (names ++ [name]) = (FieldPath.ofFields names).field name := by
  simp [FieldPath.ofFields, FieldPath.field]

theorem run_descend_in_place (done : List String) (here : document.at? done = some (.map fields))
    (names : List String) :
    (descendInPlace done names).run document =
      (((Workload.descend (.notShaped "pod" .mapping) (.ofFields done) names fields).mapError
        Failure.policy).map fun _ => (), document) := by
  induction names generalizing done fields with
  | nil => rfl
  | cons name names ih =>
      have next : document.at? (done ++ [name]) = fields.get? (.text name) := at_field here name
      have path := of_fields_concat done name
      rw [descendInPlace, run_bind, run_require, next, Workload.descend, path]
      cases found : fields.get? (.text name) with
      | none => rfl
      | some v =>
          cases v with
          | map inner =>
              rw [← path]
              exact ih _ (next.trans found)
          | _ => rfl

/-- The end of steps that change one mapping of a document. -/
def putBack (place : List String) (document : Value) : Read Fields → Except Failure Unit × Value
  | .ok changed => (.ok (), Value.setAt place (.map changed) document)
  | .error e => (.error (.policy e), document)

theorem run_annotate_metadata_in_place {place : List String}
    (here : document.at? place = some (.map metadata)) (policy : String) :
    (annotateMetadataInPlace place policy).run document =
      putBack place document (annotateMetadata metadata (.ofFields place) policy) := by
  have found := at_field here "annotations"
  have put (new : Value) : Value.setAt (place ++ ["annotations"]) new document =
      Value.setAt place (.map (metadata.put (.text "annotations") new)) document :=
    Value.set_at_append place ["annotations"] new here
  have path := of_fields_concat place "annotations"
  rw [annotateMetadataInPlace, run_bind, run_make_where, found, annotateMetadata]
  by_cases absent : (metadata.get? (.text "annotations")).getD .null = .null
  -- Null is overwritten by a mapping just as one is made where there is nothing.
  · simp only [absent, decide_true, if_true, run_bind, run_require, Value.at_set_at, InPlace.run_assign,
      Value.set_at_set_at_below]
    rw [put]
    rfl
  · simp only [absent, decide_false, Bool.false_eq_true, if_false, run_bind, run_require, found]
    cases known : metadata.get? (.text "annotations") with
    | none => exact absurd rfl (known ▸ absent)
    | some v =>
        rw [known, Option.getD_some] at absent
        cases v with
        | map annotations =>
            simp only [InPlace.run_assign, Value.set_at_append _ _ _ (found.trans known)]
            rw [put]
            rfl
        | scalar s =>
            rw [path]
            cases s with
            | null => exact absurd rfl absent
            | _ => rfl
        | _ =>
            rw [path]
            rfl

/-- What the steps below a pod do is done to the pod. -/
theorem run_annotate_pod_in_place {place : List String} (here : document.at? place = some (.map pod))
    (policy : String) :
    (annotatePodInPlace place policy).run document =
      putBack place document (annotatePod pod (.ofFields place) policy) := by
  have found := at_field here "metadata"
  have put (new : Value) : Value.setAt (place ++ ["metadata"]) new document =
      Value.setAt place (.map (pod.put (.text "metadata") new)) document :=
    Value.set_at_append place ["metadata"] new here
  have path := of_fields_concat place "metadata"
  rw [annotatePodInPlace, run_bind, run_make_where, found, annotatePod]
  cases known : pod.get? (.text "metadata") with
  | none =>
      have made := Value.at_set_at (place ++ ["metadata"]) (.map []) document
      simp only [Option.isNone_none, if_true, run_bind, run_require, made,
        run_annotate_metadata_in_place made]
      exact congrArg (Prod.mk _) ((Value.set_at_set_at _ _ _ document).trans (put _))
  | some v =>
      rw [known] at found
      simp only [Option.isNone_some, Bool.false_eq_true, if_false, run_bind, run_require, found]
      cases v with
      | map metadata =>
          simp only [run_annotate_metadata_in_place found, Option.getD_some, path]
          cases annotateMetadata metadata ((FieldPath.ofFields place).field "metadata") policy with
          | error e => rfl
          | ok changed => exact congrArg (Prod.mk _) (put (.map changed))
      | _ =>
          rw [path]
          rfl

/-- The pod is found, changed and put back. -/
theorem annotate_at_eq (path : FieldPath) (names : List String) (fields : Fields) :
    annotateAt policy path names fields = do
      let pod ← Workload.descend (.notShaped "pod" .mapping) path names fields
      let changed ← annotatePod pod (names.foldl FieldPath.field path) policy
      return (Value.setAt names (.map changed) (.map fields)).ownFields := by
  induction names generalizing path fields with
  | nil =>
      change annotatePod fields path policy = (annotatePod fields path policy >>= pure)
      rw [bind_pure]
  | cons name names ih =>
      rw [annotateAt, Workload.descend]
      cases found : fields.get? (.text name) with
      | none => rfl
      | some v =>
          cases v with
          | map inner =>
              simp only [ih, bind_assoc, pure_bind, Value.own_fields_set_at, List.foldl_cons, Value.setAt,
                Value.get?, found, Option.getD_some]
              rfl
          | _ => rfl

theorem fold_field_eq (names : List String) : names.foldl FieldPath.field {} = .ofFields names := by
  induction names using List.reverseRecOn with
  | nil => rfl
  | append_singleton names name ih => rw [List.foldl_concat, ih, of_fields_concat]

theorem annotate_value_map (fields : Fields) (kind : WorkloadKind) (policy : String) :
    annotateValue (.map fields) kind policy =
      ((do
        let pod ← Workload.descend (.notShaped "pod" .mapping) {} kind.templatePath fields
        let changed ← annotatePod pod (.ofFields kind.templatePath) policy
        return Value.setAt kind.templatePath (.map changed) (.map fields) : Read Value).mapError .policy) := by
  rw [annotateValue, annotate, annotate_at_eq, fold_field_eq]
  cases Workload.descend (.notShaped "pod" .mapping) {} kind.templatePath fields with
  | error e => rfl
  | ok pod =>
      simp only [bind, Except.bind]
      cases annotatePod pod (.ofFields kind.templatePath) policy with
      | error e => rfl
      | ok changed => exact congrArg Except.ok (Value.own_fields_set_at _ changed _)

/-- The steps leave the annotated document, or the one that there was. -/
theorem run_annotate_in_place (document : Value) (kind : WorkloadKind) (policy : String) :
    (annotateInPlace kind policy).run document =
      wholly (fun document => annotateValue document kind policy) document := by
  cases document with
  | map fields =>
      have descended : (descendInPlace [] kind.templatePath).run (.map fields) =
          (((Workload.descend (.notShaped "pod" .mapping) {} kind.templatePath fields).mapError
            Failure.policy).map fun _ => (), .map fields) :=
        run_descend_in_place [] rfl kind.templatePath
      rw [annotateInPlace, run_bind, descended, wholly, annotate_value_map]
      cases found : Workload.descend (.notShaped "pod" .mapping) {} kind.templatePath fields with
      | error e => rfl
      | ok pod =>
          have here := Workload.descend_ok_iff.mp found
          simp only [Except.mapError, Except.map, run_bind, run_require, here,
            run_annotate_pod_in_place here]
          simp only [bind, Except.bind]
          cases annotatePod pod (.ofFields kind.templatePath) policy <;> rfl
  | _ => cases kind <;> rfl

/-- What may be at a place where a mapping is used, and made when it is missing. -/
def Fillable (found : Option Value) : Prop := found = none ∨ ∃ fields, found = some (.map fields)

theorem annotate_metadata_ok_iff {changed : Fields} :
    annotateMetadata metadata path policy = .ok changed ↔
      ((Value.map metadata).at? ["annotations"] = some .null ∨
        Fillable ((Value.map metadata).at? ["annotations"])) ∧
      .map changed = Value.setAt ["annotations", policyAnnotationKey] (.text policy) (.map metadata) := by
  have found := at_own_field metadata "annotations"
  have set : Value.setAt ["annotations", policyAnnotationKey] (.text policy) (.map metadata) =
      .map (setField metadata "annotations" (Value.setAt [policyAnnotationKey] (.text policy)
        ((metadata.get? (.text "annotations")).getD .null))) := rfl
  have made : Value.setAt [policyAnnotationKey] (.text policy) .null =
      .object [(policyAnnotationKey, .text policy)] := rfl
  have changed (annotations : Fields) :
      Value.setAt [policyAnnotationKey] (.text policy) (.map annotations) =
        .map (setField annotations policyAnnotationKey (.text policy)) := rfl
  rw [annotateMetadata, found, set, Value.map.injEq]
  cases metadata.get? (.text "annotations") with
  | none => simp [made, Fillable, eq_comm]
  | some v =>
      cases v with
      | map annotations => simp [changed, Fillable, eq_comm]
      | scalar s => cases s <;> simp [made, Fillable, eq_comm]
      | _ => simp [Fillable]

theorem annotate_pod_ok_iff {changed : Fields} :
    annotatePod pod path policy = .ok changed ↔
      Fillable ((Value.map pod).at? ["metadata"]) ∧
      ((Value.map pod).at? ["metadata", "annotations"] = some .null ∨
        Fillable ((Value.map pod).at? ["metadata", "annotations"])) ∧
      .map changed = Value.setAt annotationFields (.text policy) (.map pod) := by
  have found := at_own_field pod "metadata"
  have below : (Value.map pod).at? ["metadata", "annotations"] =
      (pod.get? (.text "metadata")).bind fun metadata => metadata.at? ["annotations"] := rfl
  have set : Value.setAt annotationFields (.text policy) (.map pod) =
      .map (setField pod "metadata" (Value.setAt ["annotations", policyAnnotationKey] (.text policy)
        ((pod.get? (.text "metadata")).getD .null))) := rfl
  rw [annotatePod, found, below, set, Value.map.injEq]
  cases pod.get? (.text "metadata") with
  | none =>
      change Except.ok (setField pod "metadata" (Value.setAt ["annotations", policyAnnotationKey]
        (.text policy) .null)) = Except.ok changed ↔ _
      simp [Fillable, eq_comm]
  | some v =>
      cases v with
      | map metadata =>
          change (annotateMetadata metadata (path.field "metadata") policy >>= fun inner =>
            .ok (setField pod "metadata" (.map inner))) = .ok changed ↔ _
          rw [Outcome.bind_ok_iff, Option.bind_some, Option.getD_some]
          constructor
          · rintro ⟨inner, annotated, done⟩
            obtain ⟨fillable, set⟩ := annotate_metadata_ok_iff.mp annotated
            obtain rfl := Except.ok.inj done
            exact ⟨.inr ⟨metadata, rfl⟩, fillable, by rw [set]⟩
          · rintro ⟨-, fillable, rfl⟩
            exact ⟨_, annotate_metadata_ok_iff.mpr ⟨fillable, rfl⟩, rfl⟩
      | _ => simp [Fillable]

/-- The pod of a document is a mapping, as is everything on the way to it; its metadata are one or are
absent, and so are its annotations, which may be null as well. -/
structure Annotatable (kind : WorkloadKind) (document : Value) : Prop where
  pod : ∀ front, front <+: kind.templatePath → ∃ fields, document.at? front = some (.map fields)
  metadata : Fillable (document.at? (kind.templatePath ++ ["metadata"]))
  annotations : document.at? (kind.templatePath ++ ["metadata", "annotations"]) = some .null ∨
    Fillable (document.at? (kind.templatePath ++ ["metadata", "annotations"]))

/-- A document is annotated just when it can be, by a value that is set. -/
theorem annotate_value_ok_iff {kind : WorkloadKind} {after : Value} :
    annotateValue document kind policy = .ok after ↔
      Annotatable kind document ∧ after = Value.setAt (annotationPath kind) (.text policy) document := by
  cases document with
  | map fields =>
      have below {pod : Fields} (here : (Value.map fields).at? kind.templatePath = some (.map pod))
          (more : List String) :
          (Value.map fields).at? (kind.templatePath ++ more) = (Value.map pod).at? more := by
        rw [Value.at_append, here, Option.bind_some]
      rw [annotate_value_map, Outcome.map_error_ok_iff, annotationPath]
      constructor
      · intro done
        obtain ⟨pod, descended, done⟩ := Outcome.bind_ok_iff.mp done
        obtain ⟨changed, annotated, done⟩ := Outcome.bind_ok_iff.mp done
        obtain rfl := Except.ok.inj done
        have here := Workload.descend_ok_iff.mp descended
        obtain ⟨metadata, annotations, set⟩ := annotate_pod_ok_iff.mp annotated
        rw [set, Value.set_at_append _ _ _ here]
        exact ⟨⟨mappings_on_the_way here, below here _ ▸ metadata, below here _ ▸ annotations⟩, rfl⟩
      · rintro ⟨can, rfl⟩
        obtain ⟨pod, here⟩ := can.pod kind.templatePath (List.prefix_refl _)
        have annotated : annotatePod pod (.ofFields kind.templatePath) policy =
            .ok (Value.setAt annotationFields (.text policy) (.map pod)).ownFields :=
          annotate_pod_ok_iff.mpr ⟨below here _ ▸ can.metadata, below here _ ▸ can.annotations, rfl⟩
        refine Outcome.bind_ok_iff.mpr ⟨pod, Workload.descend_ok_iff.mpr here,
          Outcome.bind_ok_iff.mpr ⟨_, annotated, ?_⟩⟩
        rw [Value.set_at_append _ _ _ here]
        rfl
  | _ =>
      constructor
      · intro done
        cases kind <;> contradiction
      · rintro ⟨can, -⟩
        obtain ⟨fields, same⟩ := can.pod [] List.nil_prefix
        exact absurd same (by simp [Value.at?])

/-- Where a document can be annotated, nothing but null is in the way of the annotation. -/
theorem Annotatable.assigned {kind : WorkloadKind} (can : Annotatable kind document) (new : Value) :
    Value.Assigned new (annotationPath kind) document (Value.setAt (annotationPath kind) new document) := by
  obtain ⟨pod, here⟩ := can.pod kind.templatePath (List.prefix_refl _)
  apply Value.Assigned.in_mapping here
  rcases can.metadata with none | ⟨metadata, found⟩
  · rw [at_field here] at none
    exact .field (by rw [none, Option.getD_none]) (Value.assigned_null new _)
  · have annotations := can.annotations
    rw [show kind.templatePath ++ ["metadata", "annotations"] =
      kind.templatePath ++ ["metadata"] ++ ["annotations"] by simp, at_field found] at annotations
    rw [at_field here] at found
    refine .field (by rw [found, Option.getD_some]) ?_
    rcases annotations with null | none | ⟨inner, there⟩
    · exact .field (by rw [null, Option.getD_some]) (Value.assigned_null new _)
    · exact .field (by rw [none, Option.getD_none]) (Value.assigned_null new _)
    · exact .field (by rw [there, Option.getD_some]) (.field rfl (.here _))

/-- A document that is annotated can be annotated. -/
theorem annotatable_set_at (kind : WorkloadKind) (new document : Value) :
    Annotatable kind (Value.setAt (annotationPath kind) new document) where
  pod := by
    apply mappings_on_the_way
    rw [annotationPath, Value.at_set_at_front]
    rfl
  metadata := by
    rw [annotationPath, annotationFields, List.append_cons, Value.at_set_at_front]
    exact .inr ⟨_, rfl⟩
  annotations := by
    rw [annotationPath, annotationFields, show kind.templatePath ++ ["metadata", "annotations",
      policyAnnotationKey] = kind.templatePath ++ ["metadata", "annotations"] ++ [policyAnnotationKey] by
        simp, Value.at_set_at_front]
    exact .inr (.inr ⟨_, rfl⟩)

/-! The policy makes no difference to whether, and with which error, a document cannot be annotated. -/

theorem annotate_pod_end (pod : Fields) (path : FieldPath) (policy other : String) :
    Outcome.SameEnd (annotatePod pod path policy) (annotatePod pod path other) := by
  rw [annotatePod, annotatePod]
  split
  · rename_i metadata _
    have ends : Outcome.SameEnd (annotateMetadata metadata (path.field "metadata") policy)
        (annotateMetadata metadata (path.field "metadata") other) := by
      rw [annotateMetadata, annotateMetadata]
      split
      · exact .ok trivial
      · exact .ok trivial
      · exact .error _
    exact ends.bind fun _ _ _ => .ok trivial
  · exact .error _

theorem annotate_value_end (document : Value) (kind : WorkloadKind) (policy other : String) :
    Outcome.SameEnd (annotateValue document kind policy) (annotateValue document kind other) := by
  cases document with
  | map fields =>
      rw [annotate_value_map, annotate_value_map]
      apply Outcome.Agree.map_error
      exact Outcome.Agree.bind_same fun pod => (annotate_pod_end pod _ policy other).bind fun _ _ _ => .ok trivial
  | _ => cases kind <;> exact .error _

/-- A policy takes the place of one that was set before. -/
theorem annotate_value_again (document : Value) (kind : WorkloadKind) (policy other : String) :
    (annotateValue document kind other >>= fun middle => annotateValue middle kind policy) =
      annotateValue document kind policy := by
  have ends := annotate_value_end document kind other policy
  cases first : annotateValue document kind other with
  | error e =>
      rw [first] at ends
      generalize annotateValue document kind policy = second at ends
      cases ends
      rfl
  | ok middle =>
      obtain ⟨can, rfl⟩ := annotate_value_ok_iff.mp first
      have again : annotateValue (Value.setAt (annotationPath kind) (.text other) document) kind policy =
          .ok (Value.setAt (annotationPath kind) (.text policy) document) :=
        annotate_value_ok_iff.mpr ⟨annotatable_set_at kind _ document, (Value.set_at_set_at _ _ _ _).symm⟩
      exact again.trans (annotate_value_ok_iff.mpr ⟨can, rfl⟩).symm

/-! Documents that workloads are read from -/

/-- The errors of a pod that is there. -/
def OfMetadata (e : PolicyError) : Prop :=
  ∃ place, e = PolicyError.atField place .metadataNotMapping ∨
    e = PolicyError.atField place .annotationsNotMapping

theorem annotate_pod_fails (pod : Fields) (path : FieldPath) (policy : String) :
    Outcome.FailsOnly OfMetadata (annotatePod pod path policy) := by
  rw [annotatePod]
  split
  · apply Outcome.FailsOnly.bind
    · rw [annotateMetadata]
      split
      · exact Outcome.fails_only_ok _
      · exact Outcome.fails_only_ok _
      · exact Outcome.fails_only_error ⟨_, .inr rfl⟩
    · intro changed
      exact Outcome.fails_only_ok _
  · exact Outcome.fails_only_error ⟨_, .inl rfl⟩

/-- A document that a workload is read from has the pod that the policy is for. -/
theorem annotate_extracted {workload : Workload} {cluster : Option ClusterSettings}
    (read : Workload.ofDocument document cluster = .ok workload) (policy : String) :
    Outcome.FailsOnly (fun failure => ∃ e, failure = .policy e ∧ OfMetadata e)
      (annotateValue document workload.kind policy) := by
  obtain ⟨fields, spec, rfl, -, here, -⟩ := Workload.of_document_ok read
  obtain ⟨pod, there⟩ := mappings_on_the_way here workload.kind.templatePath (List.prefix_append _ _)
  intro failure failed
  rw [annotate_value_map, Outcome.map_error_error_iff] at failed
  obtain ⟨e, failed, rfl⟩ := failed
  refine ⟨e, rfl, ?_⟩
  rcases Outcome.bind_error_iff.mp failed with missing | ⟨found, -, failed⟩
  · exact absurd (missing.symm.trans (Workload.descend_ok_iff.mpr there)) (by simp)
  · rcases Outcome.bind_error_iff.mp failed with failed | ⟨changed, -, failed⟩
    · exact annotate_pod_fails _ _ _ e failed
    · contradiction

end Manifest

namespace Yaml.Graph

/-- A document without repetitions is annotated as its tree is. -/
theorem Unshared.annotate_value {g : Graph} (unshared : g.Unshared) (isMap : g.isMap g.root = true)
    (kind : WorkloadKind) (policy : String) :
    Outcome.Agree (fun after changed => after.tree = changed)
      ((g.annotate kind policy).mapError .policy) (Manifest.annotateValue g.tree kind policy) := by
  obtain ⟨fields, view⟩ := (is_map_iff_view g.root (g.contents.size + 4)).mp isMap
  have tree : g.tree = .map fields := (unshared.view_eq_tree (Nat.le_add_right _ 4)).symm.trans view
  have ends := annotate_end unshared.closed (Nat.le_add_left 4 _) view kind policy
  have value : Manifest.annotateValue g.tree kind policy =
      ((Manifest.annotate fields kind policy).map .map).mapError .policy := by
    rw [tree, Manifest.annotateValue]
  cases annotated : Manifest.annotate fields kind policy with
  | error e =>
      rw [value, annotated]
      rw [annotated] at ends
      generalize g.annotate kind policy = done at ends
      cases ends
      exact .error _
  | ok changed =>
      have made : Manifest.annotateValue g.tree kind policy = .ok (.map changed) := by
        rw [value, annotated]
        rfl
      cases done : g.annotate kind policy with
      | error e =>
          rw [annotated, done] at ends
          contradiction
      | ok after =>
          rw [made, (Manifest.annotate_value_ok_iff.mp made).2]
          exact .ok (unshared.annotate_tree isMap done)

end Yaml.Graph

namespace Manifest

open Yaml.Graph (annotationPath)

/-- The policy gets into a document as a whole or not at all. -/
theorem annotation_all_or_nothing (document : Value) (kind : WorkloadKind) (policy : String) :
    (annotateInPlace kind policy).run document =
      wholly (fun document => annotateValue document kind policy) document ∧
    ((∃ after, annotateValue document kind policy = .ok after) ↔ Annotatable kind document) ∧
    (∀ after, annotateValue document kind policy = .ok after →
      Value.Assigned (.text policy) (annotationPath kind) document after ∧
        (kind ≠ .pod → after.get? "metadata" = document.get? "metadata")) ∧
    (∀ other, (annotateValue document kind other >>= fun middle => annotateValue middle kind policy) =
      annotateValue document kind policy) ∧
    (∀ cluster world session workload after,
      (Workload.extract document cluster).run world session = (.ok workload, after) →
      workload.kind = kind → ∀ place, annotateValue document kind policy ≠
        .error (.policy (PolicyError.atField place (.notShaped "pod" .mapping)))) ∧
    (∀ g : Yaml.Graph, g.Unshared → g.isMap g.root = true → g.tree = document →
      Outcome.Agree (fun after changed => after.tree = changed)
        ((g.annotate kind policy).mapError .policy) (annotateValue document kind policy)) := by
  refine ⟨run_annotate_in_place document kind policy, ⟨?_, ?_⟩, ?_,
    annotate_value_again document kind policy, ?_, ?_⟩
  · rintro ⟨after, done⟩
    exact (annotate_value_ok_iff.mp done).1
  · intro can
    exact ⟨_, annotate_value_ok_iff.mpr ⟨can, rfl⟩⟩
  · intro after done
    obtain ⟨can, rfl⟩ := annotate_value_ok_iff.mp done
    refine ⟨can.assigned _, fun templated => ?_⟩
    have path : kind.templatePath = ["spec", "template"] := by
      cases kind <;> first | rfl | contradiction
    rw [annotationPath, path, List.cons_append, Value.get_set_at, if_neg (by decide)]
  · intro cluster world session workload after extracted same place failed
    obtain ⟨found, read, ran⟩ := Compile.run_of_policy_bind_ok_iff.mp extracted
    rw [Compile.run_note_bind] at ran
    obtain rfl : found = workload := Except.ok.inj (congrArg Prod.fst ran)
    obtain ⟨e, misshapen, place, missing⟩ := annotate_extracted read policy _ (same ▸ failed)
    obtain rfl := Failure.policy.inj misshapen
    simp [PolicyError.atField] at missing
  · rintro g unshared isMap rfl
    exact unshared.annotate_value isMap kind policy

/-- A deployment of which the pod's annotations are null. -/
def unannotatedDeployment : Value :=
  .object [("kind", .text "Deployment"), ("metadata", .object [("name", .text "web")]),
    ("spec", .object [("template",
      .object [("metadata", .object [("annotations", .null), ("name", .text "web")])])])]

theorem null_annotations_made : ∃ after,
    annotateValue unannotatedDeployment .deployment "sealed" = .ok after ∧
      after.at? ["spec", "template", "metadata"] =
        some (.object [("annotations", .object [(policyAnnotationKey, .text "sealed")]),
          ("name", .text "web")]) ∧
      Value.Assigned (.text "sealed") (annotationPath .deployment) unannotatedDeployment after ∧
      after.get? "metadata" = unannotatedDeployment.get? "metadata" := by
  obtain ⟨-, -, framed, -⟩ := annotation_all_or_nothing unannotatedDeployment .deployment "sealed"
  have done : annotateValue unannotatedDeployment .deployment "sealed" =
      .ok (Value.setAt (annotationPath .deployment) (.text "sealed") unannotatedDeployment) := by decide
  obtain ⟨assigned, own⟩ := framed _ done
  exact ⟨_, done, by decide, assigned, own (by decide)⟩

end Manifest

end LaunchPolicy
