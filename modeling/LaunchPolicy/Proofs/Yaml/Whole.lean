import LaunchPolicy.Proofs.Yaml.Tree

/-!
Documents as whole trees. Where every value has one place, a document is read completely at its
full depth: a deeper reading adds nothing, and a shallower one is the whole tree cut off.
-/

namespace LaunchPolicy

namespace Value

/-- Changes the parts of a collection. The two values of a pair are parts of its list. -/
def mapParts (change : Value → Value) : Value → Value
  | .list items => .list (items.map fun
      | .pair first second => .pair (change first) (change second)
      | item => change item)
  | .map fields => .map (fields.map fun field => (field.1, change field.2))
  | v => v

/-- A tree down to a depth, with null for what is below. -/
def cut : Nat → Value → Value
  | 0 => fun _ => .null
  | depth + 1 => mapParts (cut depth)

end Value

namespace Yaml

theorem Content.view_ne_pair (content : Content) (parts : Nat → Value) (first second : Value) :
    content.view parts ≠ .pair first second := by
  cases content <;> simp [Content.view]

theorem Content.view_map_parts (content : Content) {parts : Nat → Value}
    (single : ∀ id first second, parts id ≠ .pair first second) (change : Value → Value) :
    content.view (fun id => change (parts id)) = (content.view parts).mapParts change := by
  cases content with
  | scalar s => rfl
  | set members => rfl
  | map fields => simp [Content.view, Value.mapParts]
  | pairs entries => simp [Content.view, Value.mapParts]
  | list items =>
      simp only [Content.view, Value.mapParts, List.map_map, Value.list.injEq]
      apply List.map_congr_left
      intro item _
      simp only [Function.comp_apply]
      split
      · rename_i first second same
        exact absurd same (single item first second)
      · rfl

namespace Graph

variable {g other : Graph}

theorem below_ne_pair (depth id : Nat) (first second : Value) : g.below depth id ≠ .pair first second := by
  rcases g.below_cases depth id with absent | ⟨content, shallower, -, read⟩
  · simp [absent]
  · rw [read]
    exact content.view_ne_pair _ first second

/-- A reading is any deeper one cut off. -/
theorem below_eq_cut {depth deeper : Nat} (le : depth ≤ deeper) (id : Nat) :
    g.below depth id = (g.below deeper id).cut depth := by
  induction depth generalizing deeper id with
  | zero => rfl
  | succ depth ih =>
      obtain ⟨deeper, rfl⟩ := Nat.exists_eq_add_of_le' (Nat.le_trans (Nat.le_add_left 1 _) le)
      have le : depth ≤ deeper := by omega
      rw [below, below, Value.cut]
      cases here : g.content? id with
      | none =>
          rw [view_at_absent here, view_at_absent here]
          rfl
      | some content =>
          rw [view_of_content here, view_of_content here, ← content.view_map_parts (below_ne_pair deeper)]
          congr 1
          funext part
          exact ih le part

/-- Paths from a value are shorter than a bound, and lead to values that are there. -/
def Within (g : Graph) (bound id : Nat) : Prop :=
  ∀ path inner, g.place? id path = some inner → path.length < bound ∧ inner < g.contents.size

theorem Within.known {bound id : Nat} (within : g.Within bound id) : id < g.contents.size :=
  (within [] id rfl).2

theorem Within.part {bound id part : Nat} {step : Step} (within : g.Within (bound + 1) id)
    (next : g.part? id step = some part) : g.Within bound part := by
  intro path inner found
  have whole : g.place? id (step :: path) = some inner := by rw [place?, next]; exact found
  have bounds := within (step :: path) inner whole
  rw [List.length_cons] at bounds
  exact ⟨by omega, bounds.2⟩

/-- Beyond the longest path nothing is left to be read. -/
theorem Within.below_eq {bound id : Nat} (within : g.Within bound id) {depth deeper : Nat}
    (enough : bound ≤ depth) (alsoEnough : bound ≤ deeper) : g.below depth id = g.below deeper id := by
  induction bound generalizing id depth deeper with
  | zero => exact absurd (within [] id rfl).1 (Nat.not_lt_zero _)
  | succ bound ih =>
      -- a depth that is enough for the paths from here leaves one that is enough below
      obtain ⟨depth, rfl⟩ := Nat.exists_eq_add_of_le' (Nat.le_trans (Nat.le_add_left 1 _) enough)
      obtain ⟨deeper, rfl⟩ := Nat.exists_eq_add_of_le' (Nat.le_trans (Nat.le_add_left 1 _) alsoEnough)
      obtain ⟨content, here⟩ := content_of_lt within.known
      rw [below, below, view_of_content here, view_of_content here]
      apply Content.view_congr
      intro step part next
      have next : g.part? id step = some part := by rw [part?, here]; exact next
      exact ih (within.part next) (by omega) (by omega)

/-- The whole tree of a document without cycles. -/
def tree (g : Graph) : Value := g.view g.fullDepth

/-- A document of which no value has two places. -/
structure Unshared (g : Graph) : Prop where
  isTree : g.IsTree
  closed : g.Closed

namespace Unshared

variable (unshared : g.Unshared)

include unshared

theorem within : g.Within g.contents.size g.root :=
  fun path inner found => ⟨unshared.isTree.length_lt unshared.closed found,
    unshared.closed path inner found⟩

theorem below_eq_tree {depth : Nat} (enough : g.contents.size ≤ depth) :
    g.below depth g.root = g.tree :=
  unshared.within.below_eq enough (Nat.le_succ _)

theorem view_eq_tree {depth : Nat} (enough : g.contents.size ≤ depth) : g.view depth = g.tree :=
  unshared.below_eq_tree (Nat.le_succ_of_le enough)

theorem view_eq_cut (depth : Nat) : g.view depth = g.tree.cut (depth + 1) := by
  have deep := unshared.below_eq_tree (Nat.le_add_left g.contents.size (depth + 1))
  have shallow : g.view depth = g.below (depth + 1) g.root := rfl
  rw [shallow, ← deep]
  exact below_eq_cut (Nat.le_add_right _ _) g.root

end Unshared

end Graph

end Yaml

end LaunchPolicy
