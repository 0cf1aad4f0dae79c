import LaunchPolicy.Value.Basic

/-!
How deep a value is: how many of its collections stand within each other.
-/

namespace LaunchPolicy.Value

mutual

def depth : Value → Nat
  | .scalar _ => 0
  | .list items => itemsDepth items + 1
  | .pair first second => max (depth first) (depth second) + 1
  | .set _ => 1
  | .map fields => fieldsDepth fields + 1

def itemsDepth : List Value → Nat
  | [] => 0
  | item :: items => max (depth item) (itemsDepth items)

def fieldsDepth : List (Scalar × Value) → Nat
  | [] => 0
  | (_, value) :: fields => max (depth value) (fieldsDepth fields)

end

theorem items_depth_le_iff {items : List Value} {bound : Nat} :
    itemsDepth items ≤ bound ↔ ∀ item ∈ items, item.depth ≤ bound := by
  induction items with
  | nil => simp [itemsDepth]
  | cons item items ih => rw [itemsDepth, Nat.max_le, ih, List.forall_mem_cons]

theorem fields_depth_le_iff {fields : Fields} {bound : Nat} :
    fieldsDepth fields ≤ bound ↔ ∀ field ∈ fields, field.2.depth ≤ bound := by
  induction fields with
  | nil => simp [fieldsDepth]
  | cons field fields ih => rw [fieldsDepth, Nat.max_le, ih, List.forall_mem_cons]

/-- A list has room for its items on the level below it. -/
theorem list_depth_le_iff {items : List Value} {room : Nat} :
    (Value.list items).depth ≤ room ↔ ∃ below, room = below + 1 ∧ ∀ item ∈ items, item.depth ≤ below := by
  rw [depth]
  constructor
  · intro deep
    obtain ⟨below, rfl⟩ := Nat.exists_eq_add_of_le' (Nat.le_trans (Nat.le_add_left 1 _) deep)
    exact ⟨below, rfl, items_depth_le_iff.mp (Nat.le_of_succ_le_succ deep)⟩
  · rintro ⟨below, rfl, each⟩
    exact Nat.succ_le_succ (items_depth_le_iff.mpr each)

theorem map_depth_le_iff {fields : Fields} {room : Nat} :
    (Value.map fields).depth ≤ room ↔
      ∃ below, room = below + 1 ∧ ∀ field ∈ fields, field.2.depth ≤ below := by
  rw [depth]
  constructor
  · intro deep
    obtain ⟨below, rfl⟩ := Nat.exists_eq_add_of_le' (Nat.le_trans (Nat.le_add_left 1 _) deep)
    exact ⟨below, rfl, fields_depth_le_iff.mp (Nat.le_of_succ_le_succ deep)⟩
  · rintro ⟨below, rfl, each⟩
    exact Nat.succ_le_succ (fields_depth_le_iff.mpr each)

theorem list_depth_le_succ_iff {items : List Value} {below : Nat} :
    (Value.list items).depth ≤ below + 1 ↔ ∀ item ∈ items, item.depth ≤ below := by
  simp [list_depth_le_iff]

theorem object_depth_le_iff {fields : List (Text × Value)} {room : Nat} :
    (Value.object fields).depth ≤ room ↔
      ∃ below, room = below + 1 ∧ ∀ field ∈ fields, field.2.depth ≤ below := by
  rw [object, map_depth_le_iff]
  simp only [List.forall_mem_map]

theorem object_depth_le_succ_iff {fields : List (Text × Value)} {below : Nat} :
    (Value.object fields).depth ≤ below + 1 ↔ ∀ field ∈ fields, field.2.depth ≤ below := by
  simp [object_depth_le_iff]

theorem scalar_depth_le (s : Scalar) (bound : Nat) : (Value.scalar s).depth ≤ bound := Nat.zero_le bound

end LaunchPolicy.Value
