import LaunchPolicy.Policy.Document
import LaunchPolicy.Proofs.Json.Numeral

/-!
Documents whose fields have their declared types. The rules that a guest compares as text are
texts, every container has its own name, and the identities of users have numerals that can be
read.
-/

namespace LaunchPolicy

def Value.IsText (v : Value) : Prop := ∃ s, v = .text s

@[simp] theorem Value.text_is_text (s : Text) : (Value.text s).IsText := ⟨s, rfl⟩

theorem Value.is_text_iff (v : Value) : v.IsText ↔ v.text?.isSome = true := by
  constructor
  · rintro ⟨s, rfl⟩
    rfl
  · intro text
    match v with
    | .text s => exact ⟨s, rfl⟩

theorem Value.texts_of_typed {values : List Value} (typed : ∀ v ∈ values, v.IsText) :
    ∃ texts : List Text, values = texts.map .text := by
  induction values with
  | nil => exact ⟨[], rfl⟩
  | cons v values ih =>
      obtain ⟨⟨s, rfl⟩, rest⟩ := List.forall_mem_cons.mp typed
      obtain ⟨texts, rfl⟩ := ih rest
      exact ⟨s :: texts, rfl⟩

instance (v : Value) : Decidable v.IsText := decidable_of_iff _ v.is_text_iff.symm

/-- Every field that a guest compares as text is one. -/
structure ProcessSpec.Typed (process : ProcessSpec) : Prop where
  cwd : process.cwd.IsText
  args : ∀ arg ∈ process.args, arg.IsText
  env : ∀ rule ∈ process.env, rule.IsText

structure Mount.Typed (mount : Mount) : Prop where
  destination : mount.destination.IsText
  source : mount.source.IsText
  type : mount.type.IsText

instance (mount : Mount) : Decidable mount.Typed :=
  decidable_of_iff (mount.destination.IsText ∧ mount.source.IsText ∧ mount.type.IsText)
    ⟨fun ⟨destination, source, type⟩ => ⟨destination, source, type⟩,
      fun ⟨destination, source, type⟩ => ⟨destination, source, type⟩⟩

structure LaunchSpec.Typed (spec : LaunchSpec) : Prop where
  version : spec.ociVersion.IsText
  process : spec.process.Typed
  mounts : ∀ mount ∈ spec.mounts, mount.Typed

structure ContainerPolicy.Typed (policy : ContainerPolicy) : Prop where
  spec : policy.spec.Typed
  layers : ∀ layer ∈ policy.custom.layers, layer.IsText

/-- The fields of a document have their types, and no name is there twice. -/
structure PolicyDocument.Typed (document : PolicyDocument) : Prop where
  version : document.version.IsText
  distinct : document.names.Nodup
  policies : ∀ entry ∈ document.containers, entry.2.Typed

/-- The numerals of the user are short enough to be read. -/
def User.HasNumerals (user : User) : Prop := Json.HasNumeral user.uid ∧ Json.HasNumeral user.gid

def PolicyDocument.HasNumerals (document : PolicyDocument) : Prop :=
  ∀ entry ∈ document.containers, entry.2.spec.process.user.HasNumerals

end LaunchPolicy
