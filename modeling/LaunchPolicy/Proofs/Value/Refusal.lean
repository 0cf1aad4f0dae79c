import LaunchPolicy.Proofs.Value.Depth
import LaunchPolicy.Value.Refusal

/-!
What is refused of a value: it has a part that is refused, or too many levels.
-/

namespace LaunchPolicy

namespace Refusal

variable (refusal : Refusal)

theorem items_fault_eq (room : Nat) (items : List Value) :
    refusal.itemsFault? room items = items.findSome? (refusal.fault? room) := by
  induction items with
  | nil => rfl
  | cons item items ih =>
      rw [itemsFault?, List.findSome?_cons, ih]
      cases refusal.fault? room item <;> rfl

theorem fields_fault_eq (room : Nat) (fields : Fields) :
    refusal.fieldsFault? room fields =
      fields.findSome? fun field => refusal.scalar field.1 <|> refusal.fault? room field.2 := by
  induction fields with
  | nil => rfl
  | cons field fields ih =>
      rw [fieldsFault?, List.findSome?_cons, ih]
      cases refusal.scalar field.1 <;> cases refusal.fault? room field.2 <;> rfl

@[simp] theorem fault_scalar (room : Nat) (s : Scalar) : refusal.fault? room (.scalar s) = refusal.scalar s := by
  cases room <;> rfl

/-- A value is refused for a scalar, for a set, or for its levels. -/
theorem fault_is {holds : Fault → Prop} (scalar : ∀ s fault, refusal.scalar s = some fault → holds fault)
    (set : ∀ members fault, refusal.set members = some fault → holds fault) (deep : holds .tooDeep)
    {room : Nat} {v : Value} {fault : Fault} (refused : refusal.fault? room v = some fault) : holds fault := by
  have either {first second : Option Fault} (some : (first <|> second) = some fault) :
      first = .some fault ∨ second = .some fault := by
    cases first with
    | none => exact .inr some
    | some other => exact .inl some
  induction room generalizing v with
  | zero =>
      cases v with
      | scalar s => exact scalar s fault refused
      | _ => exact Option.some.inj refused ▸ deep
  | succ room ih =>
      cases v with
      | scalar s => exact scalar s fault refused
      | set members => exact set members fault refused
      | pair first second => exact (either refused).elim ih ih
      | list items =>
          rw [fault?, items_fault_eq] at refused
          obtain ⟨item, -, refused⟩ := List.exists_of_findSome?_eq_some refused
          exact ih refused
      | map fields =>
          rw [fault?, fields_fault_eq] at refused
          obtain ⟨field, -, refused⟩ := List.exists_of_findSome?_eq_some refused
          exact (either refused).elim (scalar _ fault) ih

end Refusal

theorem Scalar.text_fault_eq {s : Scalar} {fault : Fault} (failed : s.textFault? = some fault) :
    fault = .badValue := by
  rw [textFault?] at failed
  split at failed
  · contradiction
  · exact (Option.some.inj failed).symm

/-- A value has no text for a numeral that is too long, or for its levels. -/
theorem Value.text_fault_cases {v : Value} {room : Nat} {fault : Fault}
    (failed : v.textFault? room = some fault) : fault = .badValue ∨ fault = .tooDeep := by
  have known (s : Scalar) (fault : Fault) (failed : s.textFault? = some fault) :
      fault = .badValue ∨ fault = .tooDeep := .inl (Scalar.text_fault_eq failed)
  have set (members : List Scalar) (fault : Fault) (failed : members.findSome? Scalar.textFault? = some fault) :
      fault = .badValue ∨ fault = .tooDeep := by
    obtain ⟨member, -, failed⟩ := List.exists_of_findSome?_eq_some failed
    exact .inl (Scalar.text_fault_eq failed)
  exact messageRefusal.fault_is known set (.inr rfl) failed

end LaunchPolicy
