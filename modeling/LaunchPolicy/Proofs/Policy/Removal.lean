import LaunchPolicy.Proofs.Deletion
import LaunchPolicy.Proofs.Policy.Substitution

/-!
Removing environment rules. A request is for the last rule of its name among the rules as they were
before the merge, and its place is not found again when earlier requests have moved the rules. Requests
from the back to the front remove what they ask for; from the front to the back all but the first
remove a rule of another name.
-/

namespace LaunchPolicy.Env

open Deletion

/-- The places of the rules that are asked to go, in the order of the requests. -/
def requested (rules overrides : List Text) : List Nat :=
  (overrides.filter (!hasValue ·)).filterMap (lastPosition? rules)

theorem fold_remove_eq (index removals rules : List Text) :
    removals.foldl (remove index) rules =
      deleteAll (removals.filterMap (lastPosition? index)) rules := by
  induction removals generalizing rules with
  | nil => rfl
  | cons wanted removals ih =>
      rw [List.foldl_cons, ih, remove]
      cases found : lastPosition? index wanted with
      | none => rw [List.filterMap_cons_none found]
      | some place =>
          rw [List.filterMap_cons_some found]
          rfl

/-- A merge substitutes and appends first, then it removes. -/
theorem merge_eq_delete_all (rules overrides : List Text) :
    merge rules overrides =
      deleteAll (requested rules overrides) (merge rules (overrides.filter hasValue)) := by
  rw [merge_valued rules (valued_of_filter overrides), merge, fold_remove_eq, fold_substitute_eq]
  rfl

/-- Overrides without the requests for names that no rule has. -/
def pertinent (rules overrides : List Text) : List Text :=
  overrides.filter fun override => hasValue override || decide (override ∈ rules.map name)

theorem pertinent_valued (rules overrides : List Text) :
    (pertinent rules overrides).filter hasValue = overrides.filter hasValue := by
  rw [pertinent, List.filter_filter]
  apply List.filter_congr
  intro override _
  cases hasValue override <;> rfl

theorem requested_pertinent (rules overrides : List Text) :
    requested rules (pertinent rules overrides) = requested rules overrides := by
  have requests : (pertinent rules overrides).filter (!hasValue ·) =
      (overrides.filter (!hasValue ·)).filter fun override => decide (override ∈ rules.map name) := by
    rw [pertinent, List.filter_filter, List.filter_filter]
    apply List.filter_congr
    intro override _
    cases hasValue override <;> simp
  rw [requested, requests, List.filterMap_filter, requested]
  apply List.filterMap_congr
  intro override _
  split
  · rfl
  · rename_i unknown
    exact ((last_position_eq_none_iff rules override).mpr (by simpa using unknown)).symm

theorem merge_pertinent (rules overrides : List Text) :
    merge rules (pertinent rules overrides) = merge rules overrides := by
  rw [merge_eq_delete_all, pertinent_valued, requested_pertinent, ← merge_eq_delete_all]

/-- Behind the last rule of a name no rule of that name stands after the substitutions either. -/
theorem name_behind_requested {rules removals overrides : List Text}
    (valued : ∀ rule ∈ overrides, hasValue rule = true) {place further : Nat} {own other : Text}
    (member : place ∈ requested rules removals) (there : rules[place]? = some own)
    (behind : (merge rules overrides)[place + (further + 1)]? = some other) :
    name other ≠ name own := by
  obtain ⟨wanted, -, position⟩ := List.mem_filterMap.mp member
  obtain ⟨front, rule, back, rfl, rfl, rfl, last⟩ := last_position_split position
  obtain rfl : rule = own := by simpa using there
  have names : (merge (front ++ rule :: back) overrides).map name =
      front.map name ++ name rule ::
        (back.map name ++ (fresh (front ++ rule :: back) overrides).map name) := by
    rw [names_merge _ valued]
    simp
  have found : ((merge (front ++ rule :: back) overrides).map name)[front.length + (further + 1)]? =
      some (name other) := by
    rw [List.getElem?_map, behind]
    rfl
  rw [names, List.getElem?_append_right (by simp), List.length_map, Nat.add_sub_cancel_left,
    List.getElem?_cons_succ] at found
  intro same
  rcases List.mem_append.mp (List.mem_of_getElem? found) with inside | new
  · exact last (same ▸ inside)
  · obtain ⟨override, listed, otherName⟩ := List.mem_map.mp new
    have unknown := (List.mem_filter.mp listed).2
    rw [otherName, same] at unknown
    simp at unknown

/-- The removals of a merge. Each request deletes one rule of the substituted list or none. Requests
from the back to the front delete the rules at their places; from the front to the back each deletes
the rule that is as many places behind its own as there were requests before, if there is one. -/
theorem removals_by_place (rules overrides : List Text) :
    let places := requested rules overrides
    let substituted := merge rules (overrides.filter hasValue)
    Deletes places substituted (merge rules overrides) ∧
      (merge rules overrides).Sublist substituted ∧
      substituted.length ≤ (merge rules overrides).length + places.length ∧
      merge rules overrides = merge rules (pertinent rules overrides) ∧
      (places.Pairwise (· > ·) → merge rules overrides = without (· ∈ places) substituted) ∧
      (places.Pairwise (· < ·) →
        merge rules overrides = without (· ∈ shifted places) substituted ∧
        (∀ handled, deleteAll (places.take handled) substituted =
          without (· ∈ shifted (places.take handled)) substituted) ∧
        ∀ earlier place own deleted, 0 < earlier → places[earlier]? = some place →
          rules[place]? = some own → substituted[place + earlier]? = some deleted →
          name deleted ≠ name own) := by
  intro places substituted
  have whole : merge rules overrides = deleteAll places substituted :=
    merge_eq_delete_all rules overrides
  have deletes : Deletes places substituted (merge rules overrides) :=
    whole ▸ deletes_delete_all places substituted
  refine ⟨deletes, deletes.sublist, deletes.length_le, (merge_pertinent rules overrides).symm, ?_, ?_⟩
  · intro descending
    rw [whole]
    exact delete_all_descending descending substituted
  · intro ascending
    refine ⟨?_, ?_, ?_⟩
    · rw [whole]
      exact delete_all_ascending ascending substituted
    · intro handled
      have part := ascending.sublist (List.take_sublist handled places)
      exact delete_all_ascending part substituted
    · intro earlier place own deleted positive listed there behind
      obtain ⟨further, rfl⟩ := Nat.exists_eq_succ_of_ne_zero (Nat.ne_of_gt positive)
      exact name_behind_requested (valued_of_filter overrides) (List.mem_of_getElem? listed) there behind

/-- From the back to the front both rules go, from the front to the back the second request meets the
third rule. -/
theorem requests_in_order :
    (requested ["A=1", "B=2", "C=3"] ["B", "A"]).Pairwise (· > ·) ∧
      merge ["A=1", "B=2", "C=3"] ["B", "A"] = [.string "C=3"] ∧
      (requested ["A=1", "B=2", "C=3"] ["A", "B"]).Pairwise (· < ·) ∧
      merge ["A=1", "B=2", "C=3"] ["A", "B"] = [.string "B=2"] := by
  have backward : (requested ["A=1", "B=2", "C=3"] ["B", "A"]).Pairwise (· > ·) := by decide
  have forward : (requested ["A=1", "B=2", "C=3"] ["A", "B"]).Pairwise (· < ·) := by decide
  obtain ⟨-, -, -, -, descending, -⟩ := removals_by_place ["A=1", "B=2", "C=3"] ["B", "A"]
  obtain ⟨-, -, -, -, -, ascending⟩ := removals_by_place ["A=1", "B=2", "C=3"] ["A", "B"]
  exact ⟨backward, (descending backward).trans (by decide), forward,
    (ascending forward).1.trans (by decide)⟩

end LaunchPolicy.Env
