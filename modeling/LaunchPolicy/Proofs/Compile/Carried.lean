import LaunchPolicy.Proofs.Compile.Recompile

/-!
The policies that documents carry. An annotated document keeps its kind, however often its mappings are
used, so that whoever reads the manifests again finds the annotation of every supported document, and in
it the policy.
-/

namespace LaunchPolicy

open Compile Yaml

namespace Yaml.Graph

variable {g after : Graph} {policy : String} {kind : WorkloadKind}

/-- Annotating leaves the texts whose paths have no name in common with the annotation's. -/
theorem text_at_annotated {names : List String} {s : Text} (isMap : g.isMap g.root = true)
    (done : g.annotate kind policy = .ok after)
    (apart : ∀ name ∈ annotationPath kind, name ∉ names) (text : g.textAt? names = some s) :
    after.textAt? names = some s := by
  obtain ⟨front, holder, name, value, more, split, grafts⟩ := annotate_at_ok isMap done
  have set : name ∈ annotationPath kind := by simp [annotationPath, split]
  rw [textAt?] at text
  split at text
  · rename_i found
    obtain rfl := Option.some.inj text
    obtain ⟨leaf, followed, here⟩ := Option.bind_eq_some_iff.mp found
    obtain ⟨fields, holderMap, -⟩ := grafts.sets.here
    have leafKept : leaf ≠ holder := by
      rintro rfl
      exact absurd (here.symm.trans holderMap) (by simp)
    rw [textAt?, grafts.sets.root, grafts.sets.follow_of_not_mem (apart name set) followed,
      Option.bind_some, grafts.sets.others leaf (lt_size_of_content here) leafKept, here]
  · contradiction

theorem text_at_of_get {depth : Nat} {name : String} {s : Text}
    (read : (g.view depth).get? name = some (.text s)) : g.textAt? [name] = some s := by
  have whole : (g.below (depth + 1) g.root).at? [name] = some (.text s) := by
    rw [Value.at?]
    exact Option.bind_eq_some_iff.mpr ⟨_, read, rfl⟩
  obtain ⟨leaf, followed, here⟩ := follow_of_below whole
  rw [textAt?, followed, Option.bind_some, here]

end Yaml.Graph

/-- The policy that a manifest carries, if there are policies for its kind. -/
def carried? (manifest : Value) : Option String :=
  match WorkloadKind.ofDocument? manifest with
  | none => none
  | some kind =>
      match manifest.at? (Graph.annotationPath kind) with
      | some (.scalar (.text (.string policy))) => some policy
      | _ => none

namespace WorkloadCompiler

variable {compiler : WorkloadCompiler} {world : World} {session after : Session}

theorem kind_of_annotated {kind : WorkloadKind} {policy : String} {document annotated : Graph}
    (supported : WorkloadKind.ofDocument? (ManifestDocument.view document) = some kind)
    (done : ManifestDocument.annotate kind policy document = .ok annotated) :
    WorkloadKind.ofDocument? (ManifestDocument.view annotated) = some kind := by
  obtain ⟨fields, view, -⟩ := WorkloadKind.of_document_eq_some_iff.mp supported
  have isMap : document.isMap document.root = true := Graph.is_map_of_view view
  rw [WorkloadKind.ofDocument?] at supported
  split at supported
  · rename_i name named
    have kept := Graph.text_at_annotated isMap (Outcome.map_error_ok_iff.mp done)
      (by cases kind <;> decide) (Graph.text_at_of_get named)
    have read : (ManifestDocument.view annotated).at? ["kind"] = some (.text name) :=
      Graph.at_view_of_text_at kept (by decide)
    rw [Value.at?] at read
    obtain ⟨named, found, same⟩ := Option.bind_eq_some_iff.mp read
    obtain rfl := Option.some.inj same
    rw [WorkloadKind.ofDocument?, found]
    exact supported
  · contradiction

theorem carried_of_annotated {kind : WorkloadKind} {policy : String} {document annotated : Graph}
    (supported : WorkloadKind.ofDocument? (ManifestDocument.view document) = some kind)
    (done : ManifestDocument.annotate kind policy document = .ok annotated) :
    carried? (ManifestDocument.view annotated) = some policy := by
  have there : (ManifestDocument.view annotated).at? (Graph.annotationPath kind) =
      some (.text policy) :=
    Graph.at_view_of_text_at (annotated_carries supported done) (annotation_path_length kind)
  rw [carried?, kind_of_annotated supported done]
  simp only [there]

theorem stream_document_carries {index : Nat} {document : Graph}
    {outcome : Graph × Option PolicyDocument}
    (ran : (compiler.streamDocument index document).run world session = (.ok outcome, after)) :
    carried? (ManifestDocument.view outcome.1) = outcome.2.map PolicyDocument.encoded ∧
      ∀ policy, outcome.2 = some policy →
        (PolicyDocument.ofBase64 world.machine policy.encoded = .ok policy ↔ policy.Unjoined) := by
  rcases stream_document_ok ran with ⟨rfl, other, -⟩ |
    ⟨workload, policy, annotated, middle, rfl, made, done, -⟩
  · exact ⟨by simp [carried?, other], by simp⟩
  · obtain ⟨supported, sound⟩ := of_manifest_ok made
    refine ⟨carried_of_annotated supported done, ?_⟩
    rintro _ ⟨⟩
    exact sound.typed.of_base64_iff (sound.typed.to_base64 world.machine sound.has_numerals)

/-- Documents that read as those of a result carry its policies, in their order, and from there they are
decoded unless one of them has halves that stand like a pair. -/
theorem policies_carried {documents again : List Graph} {result : StreamResult Graph}
    (ran : (compiler.stream documents).run world session = (.ok result, after))
    (same : again.map ManifestDocument.view = result.documents.map ManifestDocument.view) :
    (again.map ManifestDocument.view).filterMap carried? = result.policies.map PolicyDocument.encoded ∧
      ((result.policies.map PolicyDocument.encoded).mapM (PolicyDocument.ofBase64 world.machine) =
        .ok result.policies ↔ ∀ policy ∈ result.policies, policy.Unjoined) := by
  obtain ⟨outcomes, passes, written, made⟩ := stream_ok ran
  rw [same, written, made]
  clear same written made ran
  rw [Outcome.map_m_ok_iff, List.forall₂_map_left_iff]
  induction passes with
  | nil => exact ⟨rfl, by simp⟩
  | @cons _ _ _ _ outcome _ _ first _ ih =>
      obtain ⟨index, first⟩ := first
      obtain ⟨carries, decodes⟩ := stream_document_carries first
      obtain ⟨carried, decoded⟩ := ih
      rw [List.map_cons, List.map_cons, List.filterMap_cons, List.filterMap_cons, carries]
      cases found : outcome.2 with
      | none => exact ⟨carried, decoded⟩
      | some policy =>
          exact ⟨congrArg (policy.encoded :: ·) carried, by
            rw [List.forall₂_cons, List.forall_mem_cons, decodes policy found, decoded]⟩

end WorkloadCompiler

end LaunchPolicy
