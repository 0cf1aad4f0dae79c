import LaunchPolicy.Manifest.Annotation
import LaunchPolicy.Proofs.Manifest.Path
import LaunchPolicy.Proofs.Manifest.Workload

/-!
The fields that errors name. The path of an error leads from the root of the manifest to a mapping
or a list, and its last step to a field or an item that is as bad as the error says.
-/

namespace LaunchPolicy

open Manifest
open Outcome (FailsOnly fails_only_ok fails_only_error)

/-- A value has a shape. -/
def Shape.Fits : Shape → Value → Prop
  | .mapping, .map _ => True
  | .sequence, .list _ => True
  | .string, .text _ => True
  | .bool, .bool _ => True
  | _, _ => False

namespace Shape

variable {v : Value}

theorem fits_mapping_iff : mapping.Fits v ↔ ∃ fields, v = .map fields := by
  cases v <;> simp [Fits]

theorem fits_sequence_iff : sequence.Fits v ↔ ∃ items, v = .list items := by
  cases v <;> simp [Fits]

theorem fits_string_iff : string.Fits v ↔ ∃ s, v = .text s := by
  cases v with
  | scalar s => cases s <;> simp [Fits]
  | _ => simp [Fits]

theorem fits_bool_iff : bool.Fits v ↔ ∃ b, v = .bool b := by
  cases v with
  | scalar s => cases s <;> simp [Fits]
  | _ => simp [Fits]

end Shape

/-- What a problem says of the last step of its path and of what is there; only a field that must be
there can be blamed for its absence. -/
def ManifestProblem.Violated (document : Fields) (last : PathStep) (found : Option Value) :
    ManifestProblem → Prop
  | .notShaped what shape =>
      (∀ name, last = .field name → what = name) ∧
        match found with
        | none => shape = .string
        | some v => ¬ shape.Fits v
  | .itemNotText _ | .kindNotText => ∃ v, found = some v ∧ ¬ Shape.string.Fits v
  | .unsupportedKind kind =>
      found.getD (.text "") = .text kind ∧ ∀ supported : WorkloadKind, supported.name ≠ kind
  | .noPodSpec => ∀ v, found = some v → ¬ Shape.mapping.Fits v
  | .volumeNotMapping | .metadataNotMapping | .annotationsNotMapping =>
      ∃ v, found = some v ∧ ¬ Shape.mapping.Fits v
  | .referenceNotMapping reference =>
      last = .field reference ∧ ∃ v, found = some v ∧ ¬ Shape.mapping.Fits v
  | .unsupportedReference sources =>
      ∃ fields, found = some (.map fields) ∧ Scalar.sorted? (fields.map (·.1)) = some sources ∧
        ∀ supported ∈ "configMapKeyRef" :: ContainerEntry.launchTimeReferences,
          Fields.contains fields (.text supported) = false
  | .volumeNotFound name =>
      found = some (.text name) ∧ ∃ kind, WorkloadKind.ofManifest document = .ok kind ∧
        ∀ item ∈ podItems (.map document) kind "volumes", item.get? "name" ≠ some (.text name)
  | .unknownPropagation mode =>
      found = some (.text mode) ∧ mode ∉ (["None", "HostToContainer", "Bidirectional"] : List Text)
  | .unreadable _ => False

namespace ManifestError

/-- The path that the report of an error gives. -/
def fieldPath? (wording : Wording) (e : ManifestError) : Option String :=
  match (e.report wording).attributes.lookup ("field_path" : Text) with
  | some (.text (.string path)) => some path
  | _ => none

/-- The path of an error, read from the root of the document, leads to a place in it, and what is
there is as bad as the error says. -/
def Blames (document : Fields) (e : ManifestError) : Prop :=
  ∃ text before last holder, (∀ wording, e.fieldPath? wording = some text) ∧
    FieldPath.ofText? text = some (before ++ [last]) ∧
    (Value.map document).resolve? before = some holder ∧ holder.HasPlace last ∧
    e.problem.Violated document last (holder.step? last)

theorem field_path_report (wording : Wording) {problem : ManifestProblem} (path : FieldPath)
    (ordinary : ∀ kind, problem ≠ .unsupportedKind kind) :
    fieldPath? wording ⟨problem, some path⟩ = some path.text := by
  cases problem with
  | unsupportedKind kind => exact absurd rfl (ordinary kind)
  | _ => rfl

end ManifestError

/-- An error of a manifest names the field at fault; any other error is none of its fields. -/
def PolicyError.BlamesField (document : Fields) (error : PolicyError) : Prop :=
  ∀ e, error = .manifest e → e.Blames document

/-- A path leads from the root of a document to a value, by steps that its text tells apart. -/
structure Located (document : Fields) (path : FieldPath) (v : Value) : Prop where
  fromRoot : path.start = ""
  plain : ∀ step ∈ path.steps, step.Plain
  leads : (Value.map document).resolve? path.steps = some v

namespace Located

variable {document fields inner : Fields} {path : FieldPath} {v found : Value} {items : List Value}
  {key : String} {shape : Shape} {problem : ManifestProblem} {α : Type}

theorem root (document : Fields) : Located document {} (.map document) := ⟨rfl, by simp, rfl⟩

theorem push (here : Located document path v) (step : PathStep) (plain : step.Plain)
    (leads : v.step? step = some found) : Located document (path.push step) found where
  fromRoot := here.fromRoot
  plain := by
    intro other member
    rcases List.mem_append.mp member with before | last
    · exact here.plain other before
    · exact List.mem_singleton.mp last ▸ plain
  leads := by rw [FieldPath.push, Value.resolve_push, here.leads, Option.bind_some, leads]

theorem field (here : Located document path (.map fields)) (plain : PathStep.Plain (.field key))
    (leads : fields.get? (.text key) = some found) : Located document (path.field key) found :=
  here.push (.field key) plain leads

theorem item {index : Nat} (here : Located document path (.list items))
    (leads : items[index]? = some found) : Located document (path.item index) found :=
  here.push (.item index) trivial leads

/-- An error at one step from a place of the document. -/
theorem blames (here : Located document path v) (step : PathStep) (plain : step.Plain)
    (place : v.HasPlace step) (violated : problem.Violated document step (v.step? step))
    (ordinary : ∀ kind, problem ≠ .unsupportedKind kind) :
    (PolicyError.atField (path.push step) problem).BlamesField document := by
  intro e raised
  obtain rfl := PolicyError.manifest.inj raised
  have whole : (path.push step) = { steps := path.steps ++ [step] } := by
    rw [FieldPath.push, here.fromRoot]
  have allPlain : ∀ other ∈ path.steps ++ [step], other.Plain := by
    intro other member
    rcases List.mem_append.mp member with before | last
    · exact here.plain other before
    · exact List.mem_singleton.mp last ▸ plain
  refine ⟨(path.push step).text, path.steps, step, v, ?_, ?_, here.leads, place, violated⟩
  · intro wording
    exact ManifestError.field_path_report wording _ ordinary
  · rw [whole]
    exact FieldPath.of_text_text allPlain

/-- Fields of mappings, one inside the other. -/
theorem of_fields {names : List String} (plain : ∀ name ∈ names, PathStep.Plain (.field name))
    (found : (Value.map document).at? names = some v) : Located document (.ofFields names) v where
  fromRoot := rfl
  plain := by
    intro step member
    obtain ⟨name, within, rfl⟩ := List.mem_map.mp member
    exact plain name within
  leads := by rw [FieldPath.ofFields, Value.resolve_fields, found]

/-! Fields of a mapping -/

/-- A field of another shape than it must have is blamed for it, and so is a text that is missing. -/
theorem misshapen (here : Located document path (.map fields)) (plain : PathStep.Plain (.field key))
    (unfit : match fields.get? (.text key) with
      | none => shape = .string
      | some v => ¬ shape.Fits v) :
    FailsOnly (PolicyError.BlamesField document)
      (Manifest.misshapen (path.field key) key shape : Read α) := by
  apply fails_only_error
  refine here.blames (.field key) plain trivial ⟨?_, unfit⟩ (by simp)
  rintro name same
  exact PathStep.field.inj same

theorem present_misshapen (here : Located document path (.map fields))
    (plain : PathStep.Plain (.field key)) (present : present? fields key = some v)
    (unfit : ¬ shape.Fits v) :
    FailsOnly (PolicyError.BlamesField document)
      (Manifest.misshapen (path.field key) key shape : Read α) := by
  apply here.misshapen plain
  rw [present_of_get present]
  exact unfit

theorem mapping (here : Located document path (.map fields)) (plain : PathStep.Plain (.field key)) :
    FailsOnly (PolicyError.BlamesField document) (mapping? fields key (path.field key)) := by
  rw [mapping?]
  split
  · exact fails_only_ok _
  · exact fails_only_ok _
  · rename_i v other present
    refine here.present_misshapen plain present fun fits => ?_
    obtain ⟨inner, rfl⟩ := Shape.fits_mapping_iff.mp fits
    exact other inner rfl

theorem sequence (here : Located document path (.map fields)) (plain : PathStep.Plain (.field key)) :
    FailsOnly (PolicyError.BlamesField document) (Manifest.sequence fields key (path.field key)) := by
  rw [Manifest.sequence]
  split
  · exact fails_only_ok _
  · exact fails_only_ok _
  · rename_i v other present
    refine here.present_misshapen plain present fun fits => ?_
    obtain ⟨items, rfl⟩ := Shape.fits_sequence_iff.mp fits
    exact other items rfl

theorem string (here : Located document path (.map fields)) (plain : PathStep.Plain (.field key)) :
    FailsOnly (PolicyError.BlamesField document) (Manifest.string fields key (path.field key)) := by
  rw [Manifest.string]
  split
  · exact fails_only_ok _
  · rename_i missing
    apply here.misshapen plain
    cases found : fields.get? (.text key) with
    | none => rfl
    | some v =>
        intro fits
        obtain ⟨s, rfl⟩ := Shape.fits_string_iff.mp fits
        exact missing s (by rw [present?, found])

theorem optional_string (here : Located document path (.map fields))
    (plain : PathStep.Plain (.field key)) :
    FailsOnly (PolicyError.BlamesField document)
      (Manifest.optionalString fields key (path.field key)) := by
  rw [Manifest.optionalString]
  split
  · exact fails_only_ok _
  · exact fails_only_ok _
  · rename_i v other present
    refine here.present_misshapen plain present fun fits => ?_
    obtain ⟨s, rfl⟩ := Shape.fits_string_iff.mp fits
    exact other s rfl

theorem flag (here : Located document path (.map fields)) (plain : PathStep.Plain (.field key)) :
    FailsOnly (PolicyError.BlamesField document) (Manifest.flag fields key (path.field key)) := by
  rw [Manifest.flag]
  split
  · exact fails_only_ok _
  · exact fails_only_ok _
  · rename_i v other present
    refine here.present_misshapen plain present fun fits => ?_
    obtain ⟨b, rfl⟩ := Shape.fits_bool_iff.mp fits
    exact other b rfl

/-! Items of a list -/

/-- A list that has an item stands in the document where it is read. -/
theorem list (here : Located document path (.map fields)) (plain : PathStep.Plain (.field key))
    (read : Manifest.sequence fields key (path.field key) = .ok items) {index : Nat}
    (within : items[index]? = some found) : Located document (path.field key) (.list items) := by
  rw [Manifest.sequence] at read
  split at read
  · obtain rfl := Except.ok.inj read
    simp at within
  · rename_i listed present
    obtain rfl := Except.ok.inj read
    exact here.field plain (present_of_get present)
  · contradiction

theorem each_item (here : Located document path (.map fields)) (plain : PathStep.Plain (.field key))
    {read : FieldPath → Value → Read α}
    (each : ∀ items index item, Located document (path.field key) (.list items) →
      items[index]? = some item →
      FailsOnly (PolicyError.BlamesField document) (read ((path.field key).item index) item)) :
    FailsOnly (PolicyError.BlamesField document) (do
      Manifest.eachItem (path.field key) (← Manifest.sequence fields key (path.field key)) read) := by
  intro e failed
  rcases Outcome.bind_error_iff.mp failed with failed | ⟨items, listed, failed⟩
  · exact here.sequence plain e failed
  · obtain ⟨⟨item, index⟩, member, failed⟩ := Outcome.map_m_error failed
    have within := List.mem_zipIdx_iff_getElem?.mp member
    exact each items index item (here.list plain listed within) within e failed

/-- An error at an item of a list. -/
theorem item_blames {index : Nat} (here : Located document path (.list items))
    (within : items[index]? = some v) (violated : problem.Violated document (.item index) (some v))
    (ordinary : ∀ kind, problem ≠ .unsupportedKind kind) :
    (PolicyError.atField (path.item index) problem).BlamesField document := by
  have place : (Value.list items).HasPlace (.item index) := (List.getElem?_eq_some_iff.mp within).1
  refine here.blames (.item index) trivial place ?_ ordinary
  rw [Value.step?, within]
  exact violated

theorem strings (here : Located document path (.map fields)) (plain : PathStep.Plain (.field key)) :
    FailsOnly (PolicyError.BlamesField document) (Manifest.strings fields key (path.field key)) := by
  refine here.each_item plain fun items index item list within => ?_
  split
  · exact fails_only_ok _
  · rename_i other
    refine fails_only_error (list.item_blames within ⟨item, rfl, fun fits => ?_⟩ (by simp))
    obtain ⟨s, rfl⟩ := Shape.fits_string_iff.mp fits
    exact other s rfl

/-- An item that is no mapping where it must be one. -/
theorem item_misshapen {index : Nat} (here : Located document path (.list items))
    (within : items[index]? = some v) (unfit : ∀ inner, v ≠ .map inner) (what : String) :
    FailsOnly (PolicyError.BlamesField document)
      (Manifest.misshapen (path.item index) what .mapping : Read α) := by
  refine fails_only_error (here.item_blames within ⟨by simp, fun fits => ?_⟩ (by simp))
  obtain ⟨inner, rfl⟩ := Shape.fits_mapping_iff.mp fits
  exact unfit inner rfl

end Located

end LaunchPolicy
