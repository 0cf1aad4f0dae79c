import LaunchPolicy.Manifest.SharedAnnotation
import LaunchPolicy.Proofs.Outcome
import LaunchPolicy.Proofs.Yaml.Whole

/-!
How a policy gets into a document. One mapping on the way to the annotation, the holder, has its
field set to a new value, and nothing else is changed, whatever else the values of the document are
used for. Where the holder has one place, the tree of the document changes at the annotation alone.
-/

namespace LaunchPolicy.Yaml.Graph

variable {g middle after : Graph} {policy : String} {path : FieldPath}

/-- The fields that an annotation may set. -/
def annotationFields : List String := ["metadata", "annotations", policyAnnotationKey]

theorem content_add_of_lt {id : Nat} (known : id < g.contents.size) (content : Content) :
    (g.add content).1.content? id = g.content? id := by
  obtain ⟨old, here⟩ := content_of_lt known
  rw [content_add_known here, here]

theorem size_add (g : Graph) (content : Content) :
    (g.add content).1.contents.size = g.contents.size + 1 := by
  simp [add]

theorem root_set_field (g : Graph) (id : Nat) (name : String) (value : Nat) :
    (g.setField id name value).root = g.root := by
  rw [setField]
  split <;> rfl

theorem size_set_field (g : Graph) (id : Nat) (name : String) (value : Nat) :
    (g.setField id name value).contents.size = g.contents.size := by
  rw [setField]
  split
  · simp [set]
  · rfl

theorem set_new_sets {id : Nat} (isMap : g.isMap id = true) (name : String) (content : Content) :
    SetsField g (g.setNew id name content) id name g.contents.size where
  root := root_set_field _ id name _
  here := by
    obtain ⟨fields, here⟩ := is_map_iff.mp isMap
    exact ⟨fields, here, content_set_field_here (content_add_known here content) name _⟩
  others other known different :=
    (content_set_field_other different name _).trans (content_add_of_lt known content)
  new := Nat.le_refl _
  grows := by
    rw [setNew, size_set_field, size_add]
    exact Nat.le_succ _

theorem content_set_new {id : Nat} (isMap : g.isMap id = true) (name : String) (content : Content) :
    (g.setNew id name content).content? g.contents.size = some content :=
  (content_set_field_other (Ne.symm (ne_next_of_is_map isMap content)) name _).trans
    (content_add content)

/-- A value that is added first is new as well. -/
theorem SetsField.of_add {content : Content} {holder value : Nat} {name : String}
    (sets : SetsField (g.add content).1 after holder name value) (known : holder < g.contents.size) :
    SetsField g after holder name value where
  root := sets.root
  here := by
    obtain ⟨fields, here, set⟩ := sets.here
    exact ⟨fields, (content_add_of_lt known content).symm.trans here, set⟩
  others id bound different := by
    rw [sets.others id (by rw [size_add]; omega) different, content_add_of_lt bound]
  new := by
    have new := sets.new
    rw [size_add] at new
    omega
  grows := by
    have grows := sets.grows
    rw [size_add] at grows
    omega

/-- A change to the value that was set is a change of the same field. -/
theorem SetsField.trans {holder value inner : Nat} {name innerName : String}
    (first : SetsField g middle holder name value)
    (second : SetsField middle after value innerName inner) : SetsField g after holder name value := by
  obtain ⟨fields, here, set⟩ := first.here
  have known := lt_size_of_content here
  have other : holder ≠ value := Nat.ne_of_lt (Nat.lt_of_lt_of_le known first.new)
  have same : ∀ id, id < g.contents.size → after.content? id = middle.content? id := fun id bound =>
    second.others id (Nat.lt_of_lt_of_le bound first.grows)
      (Nat.ne_of_lt (Nat.lt_of_lt_of_le bound first.new))
  exact {
    root := second.root.trans first.root
    here := ⟨fields, here, (same holder known).trans set⟩
    others := fun id bound different => (same id bound).trans (first.others id bound different)
    new := first.new
    grows := Nat.le_trans first.grows second.grows }

/-- Mappings of a single field one in the other, and the policy in the innermost, all of them with
numbers from a bound on. -/
inductive Spells (g : Graph) (policy : String) (bound : Nat) : Nat → List String → Prop
  | policy {id : Nat} (new : bound ≤ id) (here : g.content? id = some (policyContent policy)) :
      Spells g policy bound id []
  | field {id inner : Nat} {name : String} {more : List String} (new : bound ≤ id)
      (here : g.content? id = some (.map [({ scalar := .text name }, inner)]))
      (rest : Spells g policy bound inner more) : Spells g policy bound id (name :: more)

theorem Spells.weaken {bound lower id : Nat} {more : List String}
    (spells : g.Spells policy bound id more) (le : lower ≤ bound) : g.Spells policy lower id more := by
  induction spells with
  | policy new here => exact .policy (Nat.le_trans le new) here
  | field new here _ ih => exact .field (Nat.le_trans le new) here ih

/-- The holder is at the end of the front of a path, and its field is set to the policy under the
names that remain, for which there were no mappings. -/
structure Grafts (g after : Graph) (policy : String) (id : Nat) (front : List String) (holder : Nat)
    (name : String) (value : Nat) (more : List String) : Prop where
  way : g.follow? id front = some holder
  sets : SetsField g after holder name value
  spells : after.Spells policy g.contents.size value more
  made : more ≠ [] → ∀ old, g.field? holder name = some old → g.content? old = some (.scalar .null)

/-- A policy is set at the end of a path from a value. -/
def Annotates (g after : Graph) (policy : String) (id : Nat) (names : List String) : Prop :=
  ∃ front holder name value more, names = front ++ name :: more ∧
    g.Grafts after policy id front holder name value more

theorem Annotates.cons {id inner : Nat} {name : String} {names : List String}
    (found : g.field? id name = some inner) (annotates : g.Annotates after policy inner names) :
    g.Annotates after policy id (name :: names) := by
  obtain ⟨front, holder, last, value, more, rfl, grafts⟩ := annotates
  exact ⟨name :: front, holder, last, value, more, rfl,
    { grafts with way := by rw [follow?, found]; exact grafts.way }⟩

private theorem created_annotations {metadata : Nat} (isMap : g.isMap metadata = true)
    (none : ∀ old, g.field? metadata "annotations" = some old →
      g.content? old = some (.scalar .null)) :
    let added := g.add (policyContent policy)
    g.Grafts (added.1.setNew metadata "annotations"
      (.map [({ scalar := .text policyAnnotationKey }, added.2)])) policy metadata [] metadata
      "annotations" added.1.contents.size [policyAnnotationKey] := by
  intro added
  obtain ⟨fields, here⟩ := is_map_iff.mp isMap
  have still : added.1.isMap metadata = true := is_map_add_known isMap (policyContent policy)
  have sets := set_new_sets still "annotations" (.map [({ scalar := .text policyAnnotationKey }, added.2)])
  have kept := sets.others added.2 (by rw [size_add]; exact Nat.lt_succ_self _)
    (Ne.symm (ne_next_of_is_map isMap _))
  exact {
    way := rfl
    sets := sets.of_add (lt_size_of_content here)
    spells := .field (by rw [size_add]; exact Nat.le_succ _) (content_set_new still "annotations" _)
      (.policy (Nat.le_refl _) (kept.trans (content_add (policyContent policy))))
    made := fun _ => none }

theorem annotate_metadata_ok {metadata : Nat} (isMap : g.isMap metadata = true)
    (done : annotateMetadata g metadata path policy = .ok after) :
    g.Annotates after policy metadata ["annotations", policyAnnotationKey] := by
  rw [annotateMetadata] at done
  split at done
  · rename_i absent
    obtain rfl := Except.ok.inj done
    exact ⟨[], metadata, "annotations", _, _, rfl, created_annotations isMap (by simp [absent])⟩
  · rename_i annotations found
    split at done
    · rename_i null
      obtain rfl := Except.ok.inj done
      refine ⟨[], metadata, "annotations", _, _, rfl, created_annotations isMap fun old this => ?_⟩
      obtain rfl := Option.some.inj (found.symm.trans this)
      exact null
    · rename_i fields here
      obtain rfl := Except.ok.inj done
      have annotationsMap := is_map_iff.mpr ⟨fields, here⟩
      refine Annotates.cons found
        ⟨[], annotations, policyAnnotationKey, g.contents.size, [], rfl, ?_⟩
      exact {
        way := rfl
        sets := set_new_sets annotationsMap policyAnnotationKey (policyContent policy)
        spells := .policy (Nat.le_refl _) (content_set_new annotationsMap policyAnnotationKey _)
        made := fun more => absurd rfl more }
    · contradiction

theorem annotate_pod_ok {pod : Nat} (isMap : g.isMap pod = true)
    (done : annotatePod g pod path policy = .ok after) :
    g.Annotates after policy pod annotationFields := by
  rw [annotatePod] at done
  split at done
  · rename_i absent
    -- the new metadata is empty, so its annotations are made
    have here := content_set_new isMap "metadata" (.map [])
    have fresh : (g.setNew pod "metadata" (.map [])).field? g.contents.size "annotations" = none := by
      rw [field?, here]
      rfl
    change annotateMetadata (g.setNew pod "metadata" (.map [])) g.contents.size _ policy = _ at done
    rw [annotateMetadata, fresh] at done
    obtain rfl := Except.ok.inj done
    have metadataMap := is_map_iff.mpr ⟨[], here⟩
    have made := set_new_sets isMap "metadata" (.map [])
    have inner := @created_annotations _ policy _ metadataMap (by simp [fresh])
    obtain ⟨fields, known, set⟩ := inner.sets.here
    obtain rfl : fields = [] := by simpa [here] using known.symm
    refine ⟨[], pod, "metadata", g.contents.size, ["annotations", policyAnnotationKey], rfl, ?_⟩
    exact {
      way := rfl
      sets := made.trans inner.sets
      spells := .field (Nat.le_refl _) set (inner.spells.weaken made.grows)
      made := by simp [absent] }
  · rename_i metadata found
    split at done
    · rename_i metadataMap
      exact (annotate_metadata_ok metadataMap done).cons found
    · contradiction

theorem annotate_at_ok {id : Nat} {names : List String} (isMap : g.isMap id = true)
    (done : annotateAt g policy id path names = .ok after) :
    g.Annotates after policy id (names ++ annotationFields) := by
  induction names generalizing id path with
  | nil => exact annotate_pod_ok isMap done
  | cons name names ih =>
      rw [annotateAt] at done
      split at done
      · rename_i inner found
        split at done
        · rename_i innerMap
          exact (ih innerMap done).cons found
        · exact absurd done (by simp [Manifest.misshapen])
      · exact absurd done (by simp [Manifest.misshapen])

def annotationPath (kind : WorkloadKind) : List String := kind.templatePath ++ annotationFields

theorem annotation_path_nodup (kind : WorkloadKind) : (annotationPath kind).Nodup := by
  cases kind <;> decide

/-! What stands at the annotation -/

theorem Spells.follow {bound id : Nat} {more : List String}
    (spells : g.Spells policy bound id more) :
    ∃ leaf, g.follow? id more = some leaf ∧ g.content? leaf = some (policyContent policy) := by
  induction spells with
  | policy _ here => exact ⟨_, rfl, here⟩
  | @field id inner name more _ here _ ih =>
      obtain ⟨leaf, followed, there⟩ := ih
      have only : g.field? id name = some inner :=
        field_eq_some_iff.mpr ⟨_, here, by simp [Yaml.field?, Scalar.same_key_text]⟩
      exact ⟨leaf, by rw [follow?, only]; exact followed, there⟩

theorem follow_append (id : Nat) (names more : List String) :
    g.follow? id (names ++ more) = (g.follow? id names).bind fun inner => g.follow? inner more := by
  induction names generalizing id with
  | nil => rfl
  | cons name names ih => cases found : g.field? id name <;> simp [follow?, found, ih]

/-- A field that is not set leads where it led. -/
theorem SetsField.field_of_ne {holder value id inner : Nat} {name other : String}
    (sets : SetsField g after holder name value) (different : name ≠ other)
    (found : g.field? id other = some inner) : after.field? id other = some inner := by
  obtain ⟨fields, here, found⟩ := field_eq_some_iff.mp found
  by_cases same : id = holder
  · subst same
    obtain ⟨known, hereToo, set⟩ := sets.here
    obtain rfl : fields = known := by simpa [here] using hereToo
    exact field_eq_some_iff.mpr ⟨_, set, by rw [field_put_field, if_neg different, found]⟩
  · exact field_eq_some_iff.mpr
      ⟨fields, (sets.others id (lt_size_of_content here) same).trans here, found⟩

theorem SetsField.follow_of_not_mem {holder value id inner : Nat} {name : String}
    {names : List String} (sets : SetsField g after holder name value) (new : name ∉ names)
    (followed : g.follow? id names = some inner) : after.follow? id names = some inner := by
  induction names generalizing id with
  | nil => exact followed
  | cons first names ih =>
      obtain ⟨different, new⟩ := List.ne_and_not_mem_of_not_mem_cons new
      obtain ⟨next, found, followed⟩ := Option.bind_eq_some_iff.mp followed
      rw [follow?, sets.field_of_ne different found]
      exact ih new followed

theorem annotate_ok {kind : WorkloadKind} (isMap : g.isMap g.root = true)
    (done : g.annotate kind policy = .ok after) :
    after.textAt? (annotationPath kind) = some (.string policy) := by
  obtain ⟨front, holder, name, value, more, split, grafts⟩ := annotate_at_ok isMap done
  have distinct := annotation_path_nodup kind
  rw [annotationPath, split, List.nodup_append] at distinct
  have new : name ∉ front := fun member => distinct.2.2 name member name List.mem_cons_self rfl
  have way := grafts.sets.follow_of_not_mem new grafts.way
  obtain ⟨fields, here, set⟩ := grafts.sets.here
  have field : after.field? holder name = some value :=
    field_eq_some_iff.mpr ⟨_, set, by rw [field_put_field, if_pos rfl]⟩
  obtain ⟨leaf, followed, there⟩ := grafts.spells.follow
  rw [textAt?, grafts.sets.root, annotationPath, split, follow_append, way, Option.bind_some,
    follow?, field, Option.bind_some, followed, Option.bind_some, there]
  rfl

/-! The document read as a tree -/

theorem Spells.view {bound id : Nat} {more : List String}
    (spells : g.Spells policy bound id more) {depth : Nat} (deep : more.length ≤ depth) :
    (g.views depth).getD id .null = Value.setAt more (.text policy) .null := by
  induction spells generalizing depth with
  | policy _ here => exact view_of_content here depth
  | @field id inner name more _ here _ ih =>
      obtain ⟨depth, rfl⟩ := Nat.exists_eq_add_of_le' (Nat.le_trans (Nat.le_add_left 1 _) deep)
      have read : g.below (depth + 1) inner = Value.setAt more (.text policy) .null :=
        ih (by simpa using deep)
      rw [view_of_content here, Content.view, List.map_cons, List.map_nil, read]
      rfl

theorem view_null {id : Nat} (here : g.content? id = some (.scalar .null)) (depth : Nat) :
    (g.views depth).getD id .null = .null := view_of_content here depth

/-- The field that is set read as null before, unless it was to be set to the policy itself. -/
theorem Grafts.value_read {id holder value : Nat} {front more : List String} {name : String}
    (grafts : g.Grafts after policy id front holder name value more) {depth : Nat}
    (deep : more.length ≤ depth) :
    (after.views depth).getD value .null = Value.setAt more (.text policy)
      ((((g.views (depth + 1)).getD holder .null).get? name).getD .null) := by
  rw [grafts.spells.view deep]
  cases more with
  | nil => rfl
  | cons next more =>
      cases found : g.field? holder name with
      | some old => rw [get_view found, Option.getD_some, view_null (grafts.made (by simp) old found)]
      | none =>
          obtain ⟨fields, here, -⟩ := grafts.sets.here
          have absent : Yaml.field? fields name = none := by simpa [field?, here] using found
          rw [view_of_content here, get_view_map, absent]
          rfl

/-- The tree of a document whose holder has one place changes at the end of the path alone. -/
theorem Grafts.view_eq_set_at {id holder value : Nat} {front more : List String} {name : String}
    {place : List Step} (grafts : g.Grafts after policy id front holder name value more)
    (closed : g.Closed) (sole : g.SolePlace holder) (found : g.place? g.root place = some id)
    {depth : Nat} (deep : (front ++ name :: more).length ≤ depth) :
    (after.views depth).getD id .null =
      Value.setAt (front ++ name :: more) (.text policy) ((g.views depth).getD id .null) := by
  induction front generalizing id place depth with
  | nil =>
      obtain rfl := Option.some.inj grafts.way
      obtain ⟨depth, rfl⟩ := Nat.exists_eq_add_of_le' (Nat.le_trans (Nat.le_add_left 1 _) deep)
      rw [grafts.sets.view_holder closed sole found, grafts.value_read (by simpa using deep)]
      rfl
  | cons step front ih =>
      obtain ⟨inner, next, way⟩ := Option.bind_eq_some_iff.mp grafts.way
      obtain ⟨depth, rfl⟩ := Nat.exists_eq_add_of_le' (Nat.le_trans (Nat.le_add_left 1 _) deep)
      obtain ⟨i, part⟩ := part_of_field next
      have innerGrafts : g.Grafts after policy inner front holder name value more :=
        { grafts with way }
      rw [grafts.sets.view_toward closed sole found next (reaches_of_follow way),
        ih innerGrafts (place_concat found part) (by simpa using deep), List.cons_append,
        Value.setAt, get_view next]
      rfl

/-! Documents without repetitions -/

theorem part_of_single {name : String} {inner part : Nat} {step : Step}
    (next : (Content.map [({ scalar := .text name }, inner)]).part? step = some part) :
    step = .value 0 ∧ part = inner := by
  cases step with
  | value i => cases i <;> simp_all [Content.part?]
  | key i => cases i <;> simp [Content.part?] at next
  | _ => simp [Content.part?] at next

namespace Spells

variable {bound id inner : Nat} {more others : List String}

/-- The values of a chain that spells out names lie one below the other. -/
theorem place (spells : g.Spells policy bound id more) {steps : List Step}
    (found : g.place? id steps = some inner) :
    steps = List.replicate steps.length (.value 0) ∧
      g.Spells policy bound inner (more.drop steps.length) ∧ steps.length ≤ more.length := by
  induction steps generalizing id more with
  | nil =>
      obtain rfl := Option.some.inj found
      exact ⟨rfl, spells, Nat.zero_le _⟩
  | cons step steps ih =>
      obtain ⟨part, next, led⟩ := Option.bind_eq_some_iff.mp found
      cases spells with
      | policy _ here => exact absurd next (by simp [part?, here, policyContent, Content.part?])
      | field _ here rest =>
          rw [part?, here, Option.bind_some] at next
          obtain ⟨rfl, rfl⟩ := part_of_single next
          obtain ⟨same, restHere, le⟩ := ih rest led
          refine ⟨?_, restHere, Nat.succ_le_succ le⟩
          rw [List.length_cons, List.replicate_succ, ← same]

/-- A value spells out one list of names at most. -/
theorem unique (spells : g.Spells policy bound id more) (also : g.Spells policy bound id others) :
    more = others := by
  induction spells generalizing others with
  | policy _ here =>
      cases also with
      | policy => rfl
      | field _ there => exact absurd (here.symm.trans there) (by simp [policyContent])
  | field _ here _ ih =>
      cases also with
      | policy _ there => exact absurd (here.symm.trans there) (by simp [policyContent])
      | @field _ inner name more _ there rest =>
          have same := here.symm.trans there
          simp only [Option.some.injEq, Content.map.injEq, List.cons.injEq, Prod.mk.injEq,
            Key.mk.injEq, Scalar.text.injEq, Text.string.injEq, and_true] at same
          obtain ⟨rfl, rfl⟩ := same
          rw [ih rest]

theorem bounds (spells : g.Spells policy bound id more) : bound ≤ id ∧ id < g.contents.size := by
  cases spells with
  | policy new here => exact ⟨new, lt_size_of_content here⟩
  | field new here => exact ⟨new, lt_size_of_content here⟩

theorem loose (spells : g.Spells policy bound id more) : g.Loose bound id := by
  intro steps inner found
  obtain ⟨same, rest, le⟩ := spells.place found
  obtain ⟨new, known⟩ := rest.bounds
  refine ⟨new, known, fun other otherFound => ?_⟩
  obtain ⟨otherSame, otherRest, otherLe⟩ := spells.place otherFound
  have lengths := congrArg List.length (rest.unique otherRest)
  simp only [List.length_drop] at lengths
  rw [same, otherSame, show steps.length = other.length by omega]

end Spells

/-- The annotated document has no repetitions either, and its tree has the policy at the path. -/
theorem Unshared.annotate (unshared : g.Unshared) {kind : WorkloadKind} (isMap : g.isMap g.root = true)
    (done : g.annotate kind policy = .ok after) :
    after.Unshared ∧ ∀ depth, (annotationPath kind).length ≤ depth →
      after.view depth = Value.setAt (annotationPath kind) (.text policy) (g.view depth) := by
  obtain ⟨front, holder, name, value, more, split, grafts⟩ := annotate_at_ok isMap done
  have loose := grafts.spells.loose
  refine ⟨⟨grafts.sets.is_tree unshared.closed unshared.isTree loose,
    grafts.sets.closed unshared.closed loose⟩, fun depth deep => ?_⟩
  rw [annotationPath, split] at deep ⊢
  rw [Graph.view, grafts.sets.root]
  exact grafts.view_eq_set_at unshared.closed (unshared.isTree holder) (place_root g) deep

theorem Unshared.annotate_tree (unshared : g.Unshared) {kind : WorkloadKind}
    (isMap : g.isMap g.root = true) (done : g.annotate kind policy = .ok after) :
    after.tree = Value.setAt (annotationPath kind) (.text policy) g.tree := by
  obtain ⟨annotated, views⟩ := unshared.annotate isMap done
  have deep := views (g.contents.size + after.contents.size + (annotationPath kind).length) (by omega)
  rwa [annotated.view_eq_tree (by omega), unshared.view_eq_tree (by omega)] at deep

/-! Documents that are annotated already -/

theorem is_map_of_field {id inner : Nat} {name : String} (found : g.field? id name = some inner) :
    g.isMap id = true := by
  obtain ⟨fields, here, -⟩ := field_eq_some_iff.mp found
  exact is_map_iff.mpr ⟨fields, here⟩

theorem is_map_of_follow {id leaf : Nat} {names : List String} (leads : names ≠ [])
    (followed : g.follow? id names = some leaf) : g.isMap id = true := by
  cases names with
  | nil => contradiction
  | cons name names =>
      obtain ⟨inner, found, -⟩ := Option.bind_eq_some_iff.mp followed
      exact is_map_of_field found

/-- A text that is read at the end of a path stands there. -/
theorem follow_of_below {depth id : Nat} {names : List String} {s : Text}
    (read : (g.below depth id).at? names = some (.text s)) :
    ∃ leaf, g.follow? id names = some leaf ∧ g.content? leaf = some (.scalar (.text s)) := by
  induction names generalizing depth id with
  | nil =>
      rcases g.below_cases depth id with absent | ⟨content, shallower, here, view⟩
      · exact absurd read (by simp [absent, Value.at?])
      · rw [view] at read
        cases content with
        | scalar t =>
            obtain rfl : t = .text s := by simpa [Content.view, Value.at?] using read
            exact ⟨id, rfl, here⟩
        | _ => exact absurd read (by simp [Content.view, Value.at?])
  | cons name names ih =>
      obtain ⟨inner, found, read⟩ := Option.bind_eq_some_iff.mp read
      rcases g.below_cases depth id with absent | ⟨content, shallower, here, view⟩
      · exact absurd found (by simp [absent, Value.get?])
      · rw [view] at found
        cases content with
        | map fields =>
            rw [get_view_map] at found
            obtain ⟨part, next, rfl⟩ := Option.map_eq_some_iff.mp found
            obtain ⟨leaf, followed, there⟩ := ih read
            have field : g.field? id name = some part := field_eq_some_iff.mpr ⟨fields, here, next⟩
            exact ⟨leaf, by rw [follow?, field]; exact followed, there⟩
        | _ => exact absurd found (by simp [Content.view, Value.get?])

theorem annotate_at_again {id leaf : Nat} {names : List String}
    (followed : g.follow? id (names ++ annotationFields) = some leaf) (policy : String) :
    ∃ after, g.annotateAt policy id path names = .ok after := by
  induction names generalizing id path with
  | nil =>
      obtain ⟨metadata, found, followed⟩ := Option.bind_eq_some_iff.mp followed
      obtain ⟨annotations, foundToo, followed⟩ := Option.bind_eq_some_iff.mp followed
      obtain ⟨value, annotated, -⟩ := Option.bind_eq_some_iff.mp followed
      obtain ⟨fields, here⟩ := is_map_iff.mp (is_map_of_field annotated)
      simp only [annotateAt, annotatePod, found, is_map_of_field foundToo, if_true, annotateMetadata,
        foundToo, here]
      exact ⟨_, rfl⟩
  | cons name names ih =>
      obtain ⟨inner, found, followed⟩ := Option.bind_eq_some_iff.mp followed
      have innerMap : g.isMap inner = true := is_map_of_follow (by simp [annotationFields]) followed
      simp only [annotateAt, found, innerMap, if_true]
      exact ih followed

/-- A document that reads as annotated can be annotated again. -/
theorem annotate_again {kind : WorkloadKind} {depth : Nat} {s : Text}
    (read : (g.view depth).at? (annotationPath kind) = some (.text s)) (policy : String) :
    ∃ after, g.annotate kind policy = .ok after := by
  have whole : (g.below (depth + 1) g.root).at? (annotationPath kind) = some (.text s) := read
  obtain ⟨leaf, followed, -⟩ := follow_of_below whole
  exact annotate_at_again followed policy

end LaunchPolicy.Yaml.Graph
