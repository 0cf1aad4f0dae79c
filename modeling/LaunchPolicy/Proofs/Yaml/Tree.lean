import LaunchPolicy.Proofs.Yaml.Place
import Mathlib.Data.Fintype.Card

/-!
Documents whose values have one place each. No path in such a document is as long as there are
values, and a field that is set to a new tree leaves a tree.
-/

namespace LaunchPolicy.Yaml

namespace Content

/-- The numbered parts of a collection with the steps that lead to them. -/
def links : Content → List (Step × Nat)
  | .scalar _ => []
  | .list items => items.zipIdx.map fun (item, i) => (.item i, item)
  | .pairs entries => entries.zipIdx.flatMap fun (entry, i) => [(.first i, entry.1), (.second i, entry.2)]
  | .set members => members.zipIdx.filterMap fun (member, i) => member.id.map (Step.key i, ·)
  | .map fields => fields.zipIdx.flatMap fun (field, i) =>
      field.1.id.toList.map (Step.key i, ·) ++ [(.value i, field.2)]

theorem link_of_part {content : Content} {step : Step} {part : Nat}
    (next : content.part? step = some part) : (step, part) ∈ content.links := by
  cases content with
  | scalar s => contradiction
  | list items =>
      cases step with
      | item i => exact List.mem_map.mpr ⟨(part, i), List.mk_mem_zipIdx_iff_getElem?.mpr next, rfl⟩
      | _ => contradiction
  | pairs entries =>
      cases step with
      | first i =>
          obtain ⟨entry, here, rfl⟩ := Option.map_eq_some_iff.mp next
          exact List.mem_flatMap.mpr
            ⟨(entry, i), List.mk_mem_zipIdx_iff_getElem?.mpr here, by simp⟩
      | second i =>
          obtain ⟨entry, here, rfl⟩ := Option.map_eq_some_iff.mp next
          exact List.mem_flatMap.mpr
            ⟨(entry, i), List.mk_mem_zipIdx_iff_getElem?.mpr here, by simp⟩
      | _ => contradiction
  | set members =>
      cases step with
      | key i =>
          obtain ⟨member, here, numbered⟩ := Option.bind_eq_some_iff.mp next
          exact List.mem_filterMap.mpr
            ⟨(member, i), List.mk_mem_zipIdx_iff_getElem?.mpr here, by simp [numbered]⟩
      | _ => contradiction
  | map fields =>
      cases step with
      | key i =>
          obtain ⟨field, here, numbered⟩ := Option.bind_eq_some_iff.mp next
          exact List.mem_flatMap.mpr
            ⟨(field, i), List.mk_mem_zipIdx_iff_getElem?.mpr here, by simp [numbered]⟩
      | value i =>
          obtain ⟨field, here, rfl⟩ := Option.map_eq_some_iff.mp next
          exact List.mem_flatMap.mpr
            ⟨(field, i), List.mk_mem_zipIdx_iff_getElem?.mpr here, by simp⟩
      | _ => contradiction

end Content

namespace Graph

variable {g after : Graph}

def links (g : Graph) : List ((Nat × Step) × Nat) :=
  g.contents.toList.zipIdx.flatMap fun (content, id) =>
    content.links.map fun link => ((id, link.1), link.2)

theorem link_of_part {id part : Nat} {step : Step} (next : g.part? id step = some part) :
    ((id, step), part) ∈ g.links := by
  obtain ⟨content, here, next⟩ := Option.bind_eq_some_iff.mp next
  rw [content?, ← Array.getElem?_toList] at here
  exact List.mem_flatMap.mpr ⟨(content, id), List.mk_mem_zipIdx_iff_getElem?.mpr here,
    List.mem_map.mpr ⟨(step, part), Content.link_of_part next, rfl⟩⟩

/-- Every value of a document has one place. -/
def IsTree (g : Graph) : Prop := ∀ id, g.SolePlace id

/-- A document is a tree when its links lead to different values and none leads to the root. -/
theorem is_tree_of_nodup (sole : (g.root :: g.links.map (·.2)).Nodup) : g.IsTree := by
  obtain ⟨rootless, distinct⟩ := List.nodup_cons.mp sole
  have notRoot : ∀ id step, g.part? id step ≠ some g.root := fun id step next =>
    rootless (List.mem_map.mpr ⟨_, link_of_part next, rfl⟩)
  have same : ∀ {id other part step otherStep}, g.part? id step = some part →
      g.part? other otherStep = some part → (id, step) = (other, otherStep) := by
    intro id other part step otherStep next otherNext
    have linked := List.inj_on_of_nodup_map distinct (link_of_part next) (link_of_part otherNext) rfl
    exact (Prod.mk.inj linked).1
  intro id path
  induction path using List.reverseRecOn generalizing id with
  | nil =>
      intro other found otherFound
      obtain rfl := Option.some.inj found
      induction other using List.reverseRecOn with
      | nil => rfl
      | append_singleton other step _ =>
          obtain ⟨last, -, next⟩ := place_concat_iff.mp otherFound
          exact absurd next (notRoot last step)
  | append_singleton path step ih =>
      intro other found otherFound
      obtain ⟨middle, found, next⟩ := place_concat_iff.mp found
      induction other using List.reverseRecOn with
      | nil =>
          obtain rfl := Option.some.inj otherFound
          exact absurd next (notRoot middle step)
      | append_singleton other otherStep _ =>
          obtain ⟨otherMiddle, otherLed, otherNext⟩ := place_concat_iff.mp otherFound
          obtain ⟨rfl, rfl⟩ := Prod.mk.inj (same next otherNext)
          rw [ih middle other found otherLed]

theorem place_root (g : Graph) : g.place? g.root [] = some g.root := rfl

theorem place_take {id inner : Nat} {path : List Step} (found : g.place? id path = some inner)
    (count : Nat) : ∃ middle, g.place? id (path.take count) = some middle := by
  rw [← List.take_append_drop count path, place_append] at found
  obtain ⟨middle, front, -⟩ := Option.bind_eq_some_iff.mp found
  exact ⟨middle, front⟩

/-- A path in a tree passes a value at most once. -/
theorem IsTree.length_lt (tree : g.IsTree) (closed : g.Closed) {id : Nat} {path : List Step}
    (found : g.place? g.root path = some id) : path.length < g.contents.size := by
  choose passed placed using place_take found
  let numbered : Fin (path.length + 1) → Fin g.contents.size := fun count =>
    ⟨passed count, closed _ _ (placed count)⟩
  have injective : Function.Injective numbered := by
    intro count other same
    have met : passed count = passed other := congrArg Fin.val same
    have paths := tree _ _ _ (placed count) (met ▸ placed other)
    have lengths := congrArg List.length paths
    simp only [List.length_take] at lengths
    apply Fin.ext
    omega
  have bound := Fintype.card_le_of_injective numbered injective
  rw [Fintype.card_fin, Fintype.card_fin] at bound
  exact bound

/-! A field set to a new tree -/

/-- The values that a value contains have numbers from a bound on, and one place in it each. -/
def Loose (g : Graph) (bound value : Nat) : Prop :=
  ∀ path inner, g.place? value path = some inner →
    bound ≤ inner ∧ inner < g.contents.size ∧ ∀ other, g.place? value other = some inner → path = other

variable {holder value : Nat} {name : String}

theorem SetsField.part_eq (sets : SetsField g after holder name value) :
    ∃ i, ∀ step, after.part? holder step =
      if step = .value i then some value else g.part? holder step := by
  obtain ⟨fields, here, set⟩ := sets.here
  obtain ⟨i, parts⟩ := put_field_parts fields name value
  refine ⟨i, fun step => ?_⟩
  rw [part?, set, part?, here]
  exact parts step

/-- A place after the change was one before it, or is in the new value. -/
theorem SetsField.place_cases (sets : SetsField g after holder name value) (closed : g.Closed)
    {i : Nat} (parts : ∀ step, after.part? holder step =
      if step = .value i then some value else g.part? holder step)
    {front path : List Step} {id inner : Nat} (start : g.place? g.root front = some id)
    (found : after.place? id path = some inner) :
    g.place? id path = some inner ∨
      ∃ toward rest, path = toward ++ .value i :: rest ∧ g.place? id toward = some holder ∧
        after.place? value rest = some inner := by
  induction path generalizing front id with
  | nil => exact .inl found
  | cons step path ih =>
      obtain ⟨part, next, found⟩ := Option.bind_eq_some_iff.mp found
      by_cases changed : id = holder ∧ step = .value i
      · obtain ⟨rfl, rfl⟩ := changed
        rw [parts, if_pos rfl] at next
        obtain rfl := Option.some.inj next
        exact .inr ⟨[], path, rfl, rfl, found⟩
      · have kept : g.part? id step = some part := by
          by_cases here : id = holder
          · subst here
            rw [← next, parts, if_neg fun same => changed ⟨rfl, same⟩]
          · rw [← next, part?, part?, sets.others id (closed _ _ start) here]
        rcases ih (place_concat start kept) found with before | ⟨toward, rest, rfl, led, inside⟩
        · exact .inl (by rw [place?, kept]; exact before)
        · exact .inr ⟨step :: toward, rest, rfl, by rw [place?, kept]; exact led, inside⟩

theorem SetsField.closed (sets : SetsField g after holder name value) (closed : g.Closed)
    (loose : after.Loose g.contents.size value) : after.Closed := by
  intro path id found
  obtain ⟨i, parts⟩ := sets.part_eq
  rw [sets.root] at found
  rcases sets.place_cases closed parts (place_root g) found with before | ⟨_, rest, -, -, inside⟩
  · exact Nat.lt_of_lt_of_le (closed path id before) sets.grows
  · exact (loose rest id inside).2.1

theorem SetsField.is_tree (sets : SetsField g after holder name value) (closed : g.Closed)
    (tree : g.IsTree) (loose : after.Loose g.contents.size value) : after.IsTree := by
  obtain ⟨i, parts⟩ := sets.part_eq
  intro id path other found otherFound
  rw [sets.root] at found otherFound
  have old := sets.place_cases closed parts (place_root g) found
  have otherOld := sets.place_cases closed parts (place_root g) otherFound
  -- a value that was known is not in the new one
  have apart : ∀ path rest, g.place? g.root path = some id → after.place? value rest ≠ some id :=
    fun path rest before inside =>
      absurd (closed path id before) (Nat.not_lt.mpr (loose rest id inside).1)
  rcases old with before | ⟨toward, rest, rfl, led, inside⟩
  · rcases otherOld with otherBefore | ⟨_, rest, -, -, inside⟩
    · exact tree id path other before otherBefore
    · exact absurd inside (apart path rest before)
  · rcases otherOld with otherBefore | ⟨otherToward, otherRest, rfl, otherLed, otherInside⟩
    · exact absurd inside (apart other rest otherBefore)
    · rw [tree holder toward otherToward led otherLed, (loose rest id inside).2.2 otherRest otherInside]

end Graph

end LaunchPolicy.Yaml
