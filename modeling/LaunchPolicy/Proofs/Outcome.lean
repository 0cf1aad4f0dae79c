import Mathlib.Data.List.Forall2

/-!
Outcomes of readings: a result or an error. A reading in steps has a result when each step has
one, and an error when the first step without a result has it.
-/

namespace LaunchPolicy.Outcome

variable {ε ι α β : Type}

theorem bind_ok_iff {first : Except ε α} {next : α → Except ε β} {b : β} :
    (first >>= next) = .ok b ↔ ∃ a, first = .ok a ∧ next a = .ok b := by
  cases first with
  | error e => simp [bind, Except.bind]
  | ok a => simp [bind, Except.bind]

theorem bind_error_iff {first : Except ε α} {next : α → Except ε β} {e : ε} :
    (first >>= next) = .error e ↔ first = .error e ∨ ∃ a, first = .ok a ∧ next a = .error e := by
  cases first with
  | error e => simp [bind, Except.bind]
  | ok a => simp [bind, Except.bind]

theorem bind_of_map (r : Except ε α) (f : α → β) (next : β → Except ε γ) :
    (r.map f >>= next) = r >>= fun a => next (f a) := by
  cases r <;> rfl

theorem map_of_bind (r : Except ε α) (next : α → Except ε β) (f : β → γ) :
    (r >>= next).map f = r >>= fun a => (next a).map f := by
  cases r <;> rfl

theorem map_ok_iff {r : Except ε α} {f : α → β} {b : β} :
    r.map f = .ok b ↔ ∃ a, r = .ok a ∧ f a = b := by
  cases r <;> simp [Except.map]

theorem map_fails_iff {r : Except ε α} {f : α → β} {e : ε} : r.map f = .error e ↔ r = .error e := by
  cases r <;> simp [Except.map]

theorem map_error_ok_iff {r : Except ε α} {f : ε → ι} {a : α} :
    r.mapError f = .ok a ↔ r = .ok a := by
  cases r <;> simp [Except.mapError]

theorem map_error_error_iff {r : Except ε α} {f : ε → ι} {e : ι} :
    r.mapError f = .error e ↔ ∃ cause, r = .error cause ∧ f cause = e := by
  cases r <;> simp [Except.mapError]

theorem map_m_ok {read : α → Except ε β} {items : List α} {results : List β}
    (all : items.mapM read = .ok results) :
    List.Forall₂ (fun item result => read item = .ok result) items results := by
  induction items generalizing results with
  | nil =>
      obtain rfl := Except.ok.inj all
      exact .nil
  | cons item items ih =>
      rw [List.mapM_cons] at all
      obtain ⟨result, first, all⟩ := bind_ok_iff.mp all
      obtain ⟨rest, others, all⟩ := bind_ok_iff.mp all
      obtain rfl := Except.ok.inj all
      exact .cons first (ih others)

theorem map_m_ok_iff {read : α → Except ε β} {items : List α} {results : List β} :
    items.mapM read = .ok results ↔
      List.Forall₂ (fun item result => read item = .ok result) items results := by
  refine ⟨map_m_ok, fun each => ?_⟩
  induction each with
  | nil => rfl
  | cons first _ ih =>
      rw [List.mapM_cons, first, ih]
      rfl

/-- The error of a list of items is that of the first item that has one. -/
theorem map_m_error_iff {read : α → Except ε β} {items : List α} {e : ε} :
    items.mapM read = .error e ↔
      ∃ front item rest, items = front ++ item :: rest ∧
        (∀ other ∈ front, ∃ result, read other = .ok result) ∧ read item = .error e := by
  constructor
  · intro failed
    induction items with
    | nil => exact absurd failed (by simp [pure, Except.pure])
    | cons item items ih =>
        rw [List.mapM_cons] at failed
        rcases bind_error_iff.mp failed with first | ⟨result, done, failed⟩
        · exact ⟨[], item, items, rfl, by simp, first⟩
        · rcases bind_error_iff.mp failed with others | ⟨rest, -, failed⟩
          · obtain ⟨front, other, rest, rfl, before, error⟩ := ih others
            exact ⟨item :: front, other, rest, rfl,
              List.forall_mem_cons.mpr ⟨⟨result, done⟩, before⟩, error⟩
          · exact absurd failed (by simp [pure, Except.pure])
  · rintro ⟨front, item, rest, rfl, before, error⟩
    induction front with
    | nil =>
        rw [List.nil_append, List.mapM_cons, error]
        rfl
    | cons other front ih =>
        obtain ⟨⟨result, done⟩, before⟩ := List.forall_mem_cons.mp before
        rw [List.cons_append, List.mapM_cons, done, ih before]
        rfl

theorem map_m_map (read : α → Except ε β) {γ : Type} (f : β → γ) (items : List α) :
    (items.mapM fun item => (read item).map f) = (items.mapM read).map (List.map f) := by
  induction items with
  | nil => rfl
  | cons item items ih =>
      rw [List.mapM_cons, List.mapM_cons, ih]
      cases read item with
      | error e => rfl
      | ok result => cases items.mapM read <;> rfl

/-- An error in a list of items is the error of one of them. -/
theorem map_m_error {read : α → Except ε β} {items : List α} {e : ε}
    (failed : items.mapM read = .error e) : ∃ item ∈ items, read item = .error e := by
  induction items with
  | nil => exact absurd failed (by simp [pure, Except.pure])
  | cons item items ih =>
      rw [List.mapM_cons] at failed
      rcases bind_error_iff.mp failed with first | ⟨result, -, failed⟩
      · exact ⟨item, by simp, first⟩
      · rcases bind_error_iff.mp failed with others | ⟨rest, -, failed⟩
        · obtain ⟨other, member, error⟩ := ih others
          exact ⟨other, List.mem_cons_of_mem _ member, error⟩
        · exact absurd failed (by simp [pure, Except.pure])

/-- Every error of a reading is among some. -/
def FailsOnly (allowed : ε → Prop) (r : Except ε α) : Prop := ∀ e, r = .error e → allowed e

theorem fails_only_ok {allowed : ε → Prop} (a : α) : FailsOnly allowed (.ok a : Except ε α) := by
  intro e failed
  contradiction

theorem fails_only_error {allowed : ε → Prop} {e : ε} (isAllowed : allowed e) :
    FailsOnly allowed (.error e : Except ε α) := by
  intro other failed
  exact Except.error.inj failed ▸ isAllowed

/-- A second step fails on what the first step can have led to. -/
theorem FailsOnly.bind_ok {allowed : ε → Prop} {first : Except ε α} {next : α → Except ε β}
    (start : FailsOnly allowed first) (then_ : ∀ a, first = .ok a → FailsOnly allowed (next a)) :
    FailsOnly allowed (first >>= next) := by
  intro e failed
  rcases bind_error_iff.mp failed with failed | ⟨a, done, failed⟩
  · exact start e failed
  · exact then_ a done e failed

theorem FailsOnly.bind {allowed : ε → Prop} {first : Except ε α} {next : α → Except ε β}
    (start : FailsOnly allowed first) (then_ : ∀ a, FailsOnly allowed (next a)) :
    FailsOnly allowed (first >>= next) := start.bind_ok fun a _ => then_ a

theorem fails_only_map_m {allowed : ε → Prop} {read : α → Except ε β} {items : List α}
    (each : ∀ item, FailsOnly allowed (read item)) : FailsOnly allowed (items.mapM read) := by
  intro e failed
  obtain ⟨item, -, failed⟩ := map_m_error failed
  exact each item e failed

/-- Results in the order of numbered items are results in the order of the items. -/
theorem related_items {related : α → β → Prop} {items : List α} {results : List β}
    (numbered : List.Forall₂ (fun item result => related item.1 result) items.zipIdx results) :
    List.Forall₂ related items results := by
  rw [← List.zipIdx_map_fst 0 items, List.forall₂_map_left_iff]
  exact numbered

theorem related_filter {related : α → β → Prop} {p : α → Bool} {q : β → Bool} {items : List α}
    {results : List β} (all : List.Forall₂ related items results)
    (same : ∀ item result, related item result → p item = q result) :
    List.Forall₂ related (items.filter p) (results.filter q) := by
  induction all with
  | nil => exact .nil
  | @cons item result items results this _ ih =>
      rw [List.filter_cons, List.filter_cons, same item result this]
      split
      · exact .cons this ih
      · exact ih

theorem related_last {related : α → β → Prop} {items : List α} {results : List β}
    (all : List.Forall₂ related items results) {item : α} (last : items.getLast? = some item) :
    ∃ result, results.getLast? = some result ∧ related item result := by
  have backwards := List.forall₂_reverse_iff.mpr all
  obtain ⟨front, split⟩ := List.getLast?_eq_some_iff.mp last
  rw [split, List.reverse_append, List.reverse_singleton, List.singleton_append] at backwards
  obtain ⟨result, rest, this, -, reversed⟩ := List.forall₂_cons_left_iff.mp backwards
  refine ⟨result, List.getLast?_eq_some_iff.mpr ⟨rest.reverse, ?_⟩, this⟩
  rw [← List.reverse_reverse results, reversed, List.reverse_cons]

theorem related_append {related : α → β → Prop} {front rest : List α} {results : List β}
    (all : List.Forall₂ related (front ++ rest) results) :
    ∃ before after, results = before ++ after ∧ List.Forall₂ related front before ∧
      List.Forall₂ related rest after := by
  induction front generalizing results with
  | nil => exact ⟨[], results, rfl, .nil, all⟩
  | cons item front ih =>
      obtain ⟨result, others, this, tail, rfl⟩ := List.forall₂_cons_left_iff.mp all
      obtain ⟨before, after, rfl, first, second⟩ := ih tail
      exact ⟨result :: before, after, rfl, .cons this first, second⟩

theorem related_result {related : α → β → Prop} {items : List α} {results : List β}
    (all : List.Forall₂ related items results) {result : β} (member : result ∈ results) :
    ∃ item ∈ items, related item result := by
  induction all with
  | nil => exact absurd member (by simp)
  | @cons item first items rest this _ ih =>
      rcases List.mem_cons.mp member with rfl | member
      · exact ⟨item, by simp, this⟩
      · obtain ⟨other, within, that⟩ := ih member
        exact ⟨other, List.mem_cons_of_mem item within, that⟩

theorem related_item {related : α → β → Prop} {items : List α} {results : List β}
    (all : List.Forall₂ related items results) {item : α} (member : item ∈ items) :
    ∃ result ∈ results, related item result := by
  obtain ⟨result, within, this⟩ := related_result all.flip member
  exact ⟨result, within, this⟩

theorem related_of_each {related : α → β → Prop} {items : List α}
    (each : ∀ item ∈ items, ∃ result, related item result) :
    ∃ results, List.Forall₂ related items results := by
  induction items with
  | nil => exact ⟨[], .nil⟩
  | cons item items ih =>
      obtain ⟨⟨result, this⟩, each⟩ := List.forall_mem_cons.mp each
      obtain ⟨results, others⟩ := ih each
      exact ⟨result :: results, .cons this others⟩

/-- Lists are related item by item when they are at every place. -/
theorem related_of_places {related : α → β → Prop} {items : List α} {results : List β}
    (each : ∀ i : Nat, Option.Rel related items[i]? results[i]?) : List.Forall₂ related items results := by
  induction items generalizing results with
  | nil =>
      cases results with
      | nil => exact .nil
      | cons result results => exact absurd (each 0) (by simp)
  | cons item items ih =>
      cases results with
      | nil => exact absurd (each 0) (by simp)
      | cons result results =>
          have first := each 0
          simp only [List.getElem?_cons_zero] at first
          cases first with
          | some this => exact .cons this (ih fun i => each (i + 1))

end LaunchPolicy.Outcome
