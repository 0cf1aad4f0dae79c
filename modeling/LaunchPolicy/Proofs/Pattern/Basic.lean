import Mathlib.Data.List.Forall2

/-!
Patterns over texts and what they match. A match lies within a text, and what stands before and after
it decides on the anchors.
-/

namespace LaunchPolicy

/-- Characters by ranges, or all others. -/
structure CharSet where
  negated : Bool := false
  ranges : List (Char × Char) := []
deriving DecidableEq, Repr

namespace CharSet

def has (set : CharSet) (c : Char) : Bool :=
  (set.ranges.any fun range => decide (range.1 ≤ c) && decide (c ≤ range.2)) != set.negated

def exactly (c : Char) : CharSet := { ranges := [(c, c)] }

def digit : CharSet := { ranges := [('0', '9')] }

def word : CharSet := { ranges := [('a', 'z'), ('A', 'Z'), ('0', '9'), ('_', '_')] }

def blank : CharSet := { ranges := [(' ', ' '), ('\t', '\r')] }

def complement (set : CharSet) : CharSet := { set with negated := !set.negated }

/-- All characters that do not end a line. -/
def inLine : CharSet := (exactly '\n').complement

theorem exactly_has (c d : Char) : (exactly c).has d = true ↔ d = c := by
  have range : (exactly c).has d = true ↔ c ≤ d ∧ d ≤ c := by simp [exactly, has]
  rw [range]
  constructor
  · rintro ⟨low, high⟩
    exact Char.le_antisymm high low
  · rintro rfl
    exact ⟨Char.le_refl d, Char.le_refl d⟩

theorem complement_has (set : CharSet) (c : Char) : set.complement.has c = !set.has c := by
  rw [complement, has, has]
  cases set.negated <;> simp

theorem in_line_has (c : Char) : inLine.has c = true ↔ c ≠ '\n' := by
  rw [inLine, complement_has, Bool.not_eq_true', ← Bool.not_eq_true, exactly_has]

end CharSet

inductive Pattern where
  | empty
  | one (set : CharSet)
  | start
  | stop
  /-- Between a character of a word and one that is none, or between two of a kind. -/
  | boundary (here : Bool)
  | both (first second : Pattern)
  | either (first second : Pattern)
  | repeated (body : Pattern) (least : Nat) (most : Option Nat)
deriving DecidableEq, Repr

namespace Pattern

/-- A relation in rounds one after another. -/
def Times (round : List Char → List Char → List Char → Prop) :
    Nat → List Char → List Char → List Char → Prop
  | 0, _, matched, _ => matched = []
  | n + 1, before, matched, after => ∃ left right, matched = left ++ right ∧
      round before left (right ++ after) ∧ Times round n (before ++ left) right after

/-- A pattern matches a part of a text, between what stands before and after it. -/
def Matches : Pattern → List Char → List Char → List Char → Prop
  | empty, _, matched, _ => matched = []
  | one set, _, matched, _ => ∃ c, matched = [c] ∧ set.has c = true
  | start, before, matched, _ => matched = [] ∧ before = []
  | stop, _, matched, after => matched = [] ∧ after = []
  | boundary here, before, matched, after => matched = [] ∧
      (before.getLast?.any CharSet.word.has != after.head?.any CharSet.word.has) = here
  | both first second, before, matched, after => ∃ left right, matched = left ++ right ∧
      first.Matches before left (right ++ after) ∧ second.Matches (before ++ left) right after
  | either first second, before, matched, after =>
      first.Matches before matched after ∨ second.Matches before matched after
  | repeated body least most, before, matched, after => ∃ count, least ≤ count ∧
      (∀ bound, most = some bound → count ≤ bound) ∧ Times body.Matches count before matched after

/-- A pattern accepts a text in which it matches a part. -/
def Accepts (pattern : Pattern) (text : List Char) : Prop :=
  ∃ before matched after, text = before ++ matched ++ after ∧ pattern.Matches before matched after

def sequence : List Pattern → Pattern
  | [] => empty
  | item :: items => both item (sequence items)

theorem matches_sequence_append (items more : List Pattern) (before matched after : List Char) :
    (sequence (items ++ more)).Matches before matched after ↔
      ∃ left right, matched = left ++ right ∧ (sequence items).Matches before left (right ++ after) ∧
        (sequence more).Matches (before ++ left) right after := by
  induction items generalizing before matched with
  | nil => simp [sequence, Matches]
  | cons item items ih =>
      simp only [List.cons_append, sequence, Matches, ih]
      constructor
      · rintro ⟨first, others, rfl, here, left, right, rfl, middle, last⟩
        refine ⟨first ++ left, right, by simp, ⟨first, left, rfl, ?_, middle⟩, ?_⟩
        · rwa [List.append_assoc] at here
        · rwa [List.append_assoc] at last
      · rintro ⟨front, right, rfl, ⟨first, left, rfl, here, middle⟩, last⟩
        refine ⟨first, left ++ right, by simp, ?_, left, right, rfl, middle, ?_⟩
        · rwa [List.append_assoc]
        · rwa [List.append_assoc]

theorem matches_character (c : Char) (items : List Pattern) (before matched after : List Char) :
    (sequence (one (.exactly c) :: items)).Matches before matched after ↔
      ∃ rest, matched = c :: rest ∧ (sequence items).Matches (before ++ [c]) rest after := by
  constructor
  · rintro ⟨-, rest, rfl, ⟨d, rfl, member⟩, there⟩
    obtain rfl := (CharSet.exactly_has c d).mp member
    exact ⟨rest, rfl, there⟩
  · rintro ⟨rest, rfl, there⟩
    exact ⟨[c], rest, rfl, ⟨c, rfl, (CharSet.exactly_has c c).mpr rfl⟩, there⟩

/-- Characters of a set, one for each of a list of sets. -/
theorem matches_ones (sets : List CharSet) (before matched after : List Char) :
    (sequence (sets.map one)).Matches before matched after ↔
      List.Forall₂ (fun set c => set.has c = true) sets matched := by
  induction sets generalizing before matched with
  | nil => exact List.forall₂_nil_left_iff.symm
  | cons set sets ih =>
      simp only [List.map_cons, sequence, Matches, ih, List.forall₂_cons_left_iff]
      constructor
      · rintro ⟨-, right, rfl, ⟨c, rfl, member⟩, rest⟩
        exact ⟨c, right, member, rest, rfl⟩
      · rintro ⟨c, right, member, rest, rfl⟩
        exact ⟨[c], right, rfl, ⟨c, rfl, member⟩, rest⟩

theorem times_one (set : CharSet) (count : Nat) (before matched after : List Char) :
    Times (one set).Matches count before matched after ↔
      matched.length = count ∧ ∀ c ∈ matched, set.has c = true := by
  induction count generalizing before matched with
  | zero =>
      rw [Times, List.length_eq_zero_iff]
      constructor
      · rintro rfl
        simp
      · exact fun nothing => nothing.1
  | succ count ih =>
      simp only [Times, ih]
      constructor
      · rintro ⟨-, right, rfl, ⟨c, rfl, member⟩, length, rest⟩
        exact ⟨by simp [length], List.forall_mem_cons.mpr ⟨member, rest⟩⟩
      · rintro ⟨length, each⟩
        cases matched with
        | nil => contradiction
        | cons c right =>
            obtain ⟨member, rest⟩ := List.forall_mem_cons.mp each
            exact ⟨[c], right, rfl, ⟨c, rfl, member⟩, Nat.succ.inj length, rest⟩

/-- One or more characters of a set. -/
theorem matches_some (set : CharSet) (before matched after : List Char) :
    (repeated (one set) 1 none).Matches before matched after ↔
      matched ≠ [] ∧ ∀ c ∈ matched, set.has c = true := by
  rw [Matches]
  simp only [times_one]
  constructor
  · rintro ⟨count, enough, -, rfl, each⟩
    exact ⟨List.ne_nil_of_length_pos enough, each⟩
  · rintro ⟨filled, each⟩
    exact ⟨matched.length, List.length_pos_of_ne_nil filled, by simp, rfl, each⟩

end Pattern

end LaunchPolicy
