import LaunchPolicy.Proofs.Image.Inspection
import LaunchPolicy.Proofs.Json.Closed

/-!
The configuration of an image is read back from its tree: what is declared is written and found again,
and what is not is written as something that counts as nothing.
-/

namespace LaunchPolicy.ImageConfig

variable {kind : Scalar → Prop} {v : Value} {image : ImageConfig}

/-- What is written stands for itself, if it counts or is nothing. -/
theorem stands_written {v : Value} {written : Value → Prop} {nothing : Prop} (holds : written v)
    (empty : v.truthy = false → nothing) : Stands ((some v).filter Value.truthy) written nothing := by
  cases counts : v.truthy with
  | true => simpa [Option.filter, counts, Stands] using holds
  | false => simpa [Option.filter, counts, Stands] using empty counts

theorem texts_not_truthy {items : List Text} (empty : (Value.texts items).truthy = false) : items = [] := by
  cases items with
  | nil => rfl
  | cons item items => contradiction

/-- The section that a configuration is written as. -/
def sectionOf (image : ImageConfig) : Fields :=
  [(.text "Entrypoint", .texts image.entrypoint), (.text "Cmd", .texts image.cmd),
    (.text "WorkingDir", .text image.workingDir), (.text "Env", .texts image.env),
    (.text "Volumes", .object (image.volumes.map fun volume => (volume, .map [])))]

theorem section_tells (image : ImageConfig) : Tells image.sectionOf image := by
  have told {name : String} {v : Value} {written : Value → Prop} {nothing : Prop}
      (here : image.sectionOf.get? (.text name) = some v) (holds : written v)
      (empty : v.truthy = false → nothing) : Stands (Fields.counted? image.sectionOf name) written nothing := by
    rw [Fields.counted?, here]
    exact stands_written holds empty
  constructor
  · exact told rfl rfl fun empty => by simpa [Value.truthy, Scalar.truthy] using empty
  · refine told rfl ⟨_, rfl, ?_⟩ fun empty => ?_
    · simp [Function.comp_def]
    · simpa [Value.object, Value.truthy] using empty
  · exact told rfl rfl texts_not_truthy
  · exact told rfl rfl texts_not_truthy
  · exact told rfl rfl texts_not_truthy

theorem of_value_to_value (image : ImageConfig) : ofValue image.toValue = .ok image :=
  of_map_ok_iff.mpr ⟨image.sectionOf, rfl, section_tells image⟩

/-- What a field of a JSON value stands for is a JSON value in it, or nothing. -/
theorem stands_elim {config : Fields} (consists : (Value.map config).Consists kind) {name : String}
    {written : Value → Prop} {nothing goal : Prop} (stands : Stands (config.counted? name) written nothing)
    (holds : ∀ v, v.Consists kind → written v → goal) (empty : nothing → goal) : goal := by
  cases counted : config.counted? name with
  | none =>
      rw [counted] at stands
      exact empty stands
  | some v =>
      rw [counted] at stands
      exact holds v (consists.get (counted_get counted)) stands

/-- The volumes that are read from a JSON value are keys of a mapping, and so they are distinct. -/
theorem volumes_consist {config : Fields} (consists : (Value.map config).Consists kind) (told : Tells config image) :
    image.volumes.Nodup ∧ ∀ volume ∈ image.volumes, kind (.text volume) := by
  refine stands_elim consists told.volumes ?_ fun none => by simp [none]
  rintro v tree ⟨fields, rfl, keys⟩
  obtain ⟨named, form, distinct, each⟩ := tree.named
  obtain rfl := Value.map.inj form
  have same : (named.map (·.1)).map Scalar.text = image.volumes.map Scalar.text := by
    simpa [Function.comp_def] using keys
  have names : named.map (·.1) = image.volumes :=
    List.map_injective_iff.mpr (fun _ _ equal => Scalar.text.inj equal) same
  rw [← names]
  exact ⟨distinct, List.forall_mem_map.mpr fun field member => (each field member).1⟩

theorem of_value_consists (closed : Scalar.IsClosed kind) (consists : v.Consists kind)
    (read : ofValue v = .ok image) : image.toValue.Consists kind := by
  cases v with
  | map fields =>
      obtain ⟨config, hasSection, told⟩ := of_map_ok_iff.mp read
      have tree := section_consists consists hasSection
      have listed {name : String} {texts : List Text}
          (stands : Stands (config.counted? name) (· = .texts texts) (texts = [])) :
          (Value.texts texts).Consists kind :=
        stands_elim tree stands (fun v tree same => same ▸ tree) fun none => none ▸ .list (by simp)
      have directory : (Value.text image.workingDir).Consists kind :=
        stands_elim tree told.workingDir (fun v tree same => same ▸ tree) fun none =>
          none ▸ .scalar (closed.string "")
      obtain ⟨distinct, keys⟩ := volumes_consist tree told
      have volumes : (Value.object (image.volumes.map fun volume => (volume, .map []))).Consists kind := by
        refine (Value.consists_object_iff _).mpr ⟨by simpa [Function.comp_def] using distinct, ?_⟩
        exact List.forall_mem_map.mpr fun volume member => ⟨keys volume member, Value.empty_consists kind⟩
      simp [toValue, Value.consists_object_iff, closed.string, listed told.entrypoint, listed told.cmd,
        listed told.env, directory, volumes]
  | _ => contradiction

end LaunchPolicy.ImageConfig
