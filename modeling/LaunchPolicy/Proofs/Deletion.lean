import Mathlib.Data.List.Basic

/-!
Deleting items of a list at places that were found beforehand. Each deletion moves the items behind
it by one place, so which items go depends on the order: from the back every place is still right,
from the front the place of each request is off by the number of requests before it.
-/

namespace LaunchPolicy.Deletion

variable {α : Type}

/-- Deletes at one place after the other, each in the list as it then is. -/
def deleteAll (places : List Nat) (items : List α) : List α := places.foldl List.eraseIdx items

/-- A list without the items at some of its places. -/
def without (dropped : Nat → Bool) (items : List α) : List α :=
  (items.zipIdx.filter fun item => !dropped item.2).map Prod.fst

/-- Places that were found in one list, as places of it when each is reached after the deletions
before it. -/
def shifted (places : List Nat) : List Nat := places.mapIdx fun earlier place => place + earlier

/-- Each request deletes the item at its place, or nothing when the list ends before. -/
inductive Deletes : List Nat → List α → List α → Prop
  | done (items : List α) : Deletes [] items items
  | inside (front : List α) (item : α) (back : List α) {places : List Nat} {left : List α}
      (rest : Deletes places (front ++ back) left) :
      Deletes (front.length :: places) (front ++ item :: back) left
  | beyond {items : List α} {place : Nat} (ended : items.length ≤ place) {places : List Nat}
      {left : List α} (rest : Deletes places items left) : Deletes (place :: places) items left

theorem deletes_delete_all (places : List Nat) (items : List α) :
    Deletes places items (deleteAll places items) := by
  induction places generalizing items with
  | nil => exact .done items
  | cons place places ih =>
      change Deletes (place :: places) items (deleteAll places (items.eraseIdx place))
      by_cases inside : place < items.length
      · have parts : items.take place ++ items[place] :: items.drop (place + 1) = items := by
          rw [List.getElem_cons_drop, List.take_append_drop]
        have length : (items.take place).length = place := List.length_take_of_le (Nat.le_of_lt inside)
        have rest := ih (items.eraseIdx place)
        rw [List.eraseIdx_eq_take_drop_succ] at rest
        have deletes := Deletes.inside (items.take place) items[place] (items.drop (place + 1)) rest
        rw [length, parts, ← List.eraseIdx_eq_take_drop_succ] at deletes
        exact deletes
      · have ended : items.length ≤ place := Nat.le_of_not_lt inside
        rw [List.eraseIdx_of_length_le ended]
        exact Deletes.beyond ended (ih items)

theorem Deletes.sublist {places : List Nat} {items left : List α}
    (deletes : Deletes places items left) : left.Sublist items := by
  induction deletes with
  | done items => exact List.Sublist.refl items
  | inside front item back rest ih =>
      exact ih.trans (List.Sublist.append_left (List.sublist_cons_self item back) front)
  | beyond ended rest ih => exact ih

theorem Deletes.length_le {places : List Nat} {items left : List α}
    (deletes : Deletes places items left) : items.length ≤ left.length + places.length := by
  induction deletes with
  | done items => exact Nat.le_refl _
  | inside front item back rest ih =>
      rw [List.length_append] at ih
      rw [List.length_append, List.length_cons, List.length_cons]
      omega
  | beyond ended rest ih =>
      rw [List.length_cons]
      omega

theorem without_cons (dropped : Nat → Bool) (item : α) (items : List α) :
    without dropped (item :: items) =
      if dropped 0 then without (fun place => dropped (place + 1)) items
      else item :: without (fun place => dropped (place + 1)) items := by
  have later : ((items.zipIdx 1).filter fun item => !dropped item.2).map Prod.fst =
      without (fun place => dropped (place + 1)) items := by
    rw [List.zipIdx_succ, List.filter_map, List.map_map]
    rfl
  rw [without, List.zipIdx_cons, List.filter_cons, Nat.zero_add]
  cases dropped 0 with
  | false => exact congrArg (item :: ·) later
  | true => exact later

theorem without_none (items : List α) : without (fun _ => false) items = items := by
  induction items with
  | nil => rfl
  | cons item items ih =>
      rw [without_cons, ih]
      rfl

/-- Places after a deletion, as places of the list before it. -/
theorem without_erase (dropped : Nat → Bool) (place : Nat) (items : List α) :
    without dropped (items.eraseIdx place) =
      without (fun other => if other < place then dropped other
        else other = place || dropped (other - 1)) items := by
  induction items generalizing place dropped with
  | nil => rfl
  | cons item items ih =>
      cases place with
      | zero =>
          rw [List.eraseIdx_cons_zero, without_cons]
          simp
      | succ place =>
          have same : (fun other => if other < place then dropped (other + 1)
                else other = place || dropped (other - 1 + 1)) =
              fun other => if other + 1 < place + 1 then dropped (other + 1)
                else other + 1 = place + 1 || dropped (other + 1 - 1) := by
            funext other
            rcases Nat.lt_trichotomy other place with below | rfl | above
            · simp [below]
            · simp
            · have positive : other - 1 + 1 = other := by omega
              simp [positive]
          rw [List.eraseIdx_cons_succ, without_cons, without_cons, ih, same]
          simp

/-- A place is reached by one of the requests, each of which moves the places behind it. -/
def reached : List Nat → Nat → Bool
  | [], _ => false
  | place :: places, other =>
      if other < place then reached places other else other = place || reached places (other - 1)

theorem delete_all_eq (places : List Nat) (items : List α) :
    deleteAll places items = without (reached places) items := by
  induction places generalizing items with
  | nil => exact (without_none items).symm
  | cons place places ih =>
      change deleteAll places (items.eraseIdx place) = _
      rw [ih, without_erase]
      rfl

theorem reached_descending {places : List Nat} (descending : places.Pairwise (· > ·)) (other : Nat) :
    reached places other = decide (other ∈ places) := by
  induction places generalizing other with
  | nil => rfl
  | cons place places ih =>
      obtain ⟨before, descending⟩ := List.pairwise_cons.mp descending
      rw [reached, ih descending, ih descending]
      rcases Nat.lt_trichotomy other place with below | rfl | above
      · simp [below, Nat.ne_of_lt below]
      · simp
      · have absent : other - 1 ∉ places ∧ other ∉ places := by
          constructor <;> intro member <;> have := before _ member <;> omega
        simp [Nat.not_lt_of_gt above, Nat.ne_of_gt above, absent]

/-- From the back to the front, each request deletes what was at its place. -/
theorem delete_all_descending {places : List Nat} (descending : places.Pairwise (· > ·))
    (items : List α) : deleteAll places items = without (· ∈ places) items := by
  rw [delete_all_eq, funext (reached_descending descending)]

theorem shifted_cons (place : Nat) (places : List Nat) :
    shifted (place :: places) = place :: (shifted places).map (· + 1) := by
  have moved : places.mapIdx (fun earlier other => other + (earlier + 1)) =
      (shifted places).map (· + 1) := by
    apply List.ext_getElem?
    intro earlier
    simp [shifted, Function.comp_def, Nat.add_assoc]
  rw [shifted, List.mapIdx_cons, moved]
  rfl

theorem shifted_above {place : Nat} {places : List Nat} (above : ∀ other ∈ places, place < other) :
    ∀ other ∈ shifted places, place < other := by
  intro other member
  obtain ⟨earlier, inside, rfl⟩ := List.mem_mapIdx.mp member
  have bound := above places[earlier] (List.getElem_mem inside)
  omega

theorem reached_ascending {places : List Nat} (ascending : places.Pairwise (· < ·)) (other : Nat) :
    reached places other = decide (other ∈ shifted places) := by
  induction places generalizing other with
  | nil => rfl
  | cons place places ih =>
      obtain ⟨after, ascending⟩ := List.pairwise_cons.mp ascending
      have moved := shifted_above after
      -- places after the first deletion, as places before it
      have later : other ∈ (shifted places).map (· + 1) ↔
          0 < other ∧ other - 1 ∈ shifted places := by
        rw [List.mem_map]
        constructor
        · rintro ⟨origin, member, rfl⟩
          exact ⟨Nat.succ_pos origin, member⟩
        · rintro ⟨positive, member⟩
          exact ⟨other - 1, member, Nat.sub_add_cancel positive⟩
      rw [reached, ih ascending, ih ascending, shifted_cons]
      simp only [List.mem_cons, later]
      rcases Nat.lt_trichotomy other place with below | rfl | above
      · have absent : other ∉ shifted places ∧ other - 1 ∉ shifted places := by
          constructor <;> intro member <;> have := moved _ member <;> omega
        simp [below, Nat.ne_of_lt below, absent]
      · simp
      · have positive : 0 < other := Nat.zero_lt_of_lt above
        simp [Nat.not_lt_of_gt above, Nat.ne_of_gt above, positive]

/-- From the front to the back, the place of each request has moved by one for each before it. -/
theorem delete_all_ascending {places : List Nat} (ascending : places.Pairwise (· < ·))
    (items : List α) : deleteAll places items = without (· ∈ shifted places) items := by
  rw [delete_all_eq, funext (reached_ascending ascending)]

end LaunchPolicy.Deletion
