import LaunchPolicy.Json.Reader
import LaunchPolicy.Proofs.Text.Numeral

/-!
Integers in JSON text. An integer is read back from its numeral when the numeral is not longer
than the longest one that is read; a longer one is refused.
-/

namespace LaunchPolicy.Json

/-- Characters that may follow a value inside a text. -/
def isDelimiter (c : Char) : Bool := isSpace c || c = ',' || c = ']' || c = '\x7d'

/-- What follows a value begins with none of the characters that would continue a number. -/
def Delimited (rest : List Char) : Prop := ∀ c ∈ rest.head?, isDelimiter c = true

theorem delimited_nil : Delimited [] := by simp [Delimited]

theorem delimited_cons {c : Char} (rest : List Char) (delimiter : isDelimiter c = true) :
    Delimited (c :: rest) := by simpa [Delimited] using delimiter

theorem delimiter_cases {c : Char} (delimiter : isDelimiter c = true) :
    c = ' ' ∨ c = '\t' ∨ c = '\n' ∨ c = '\r' ∨ c = ',' ∨ c = ']' ∨ c = '\x7d' := by
  simpa [isDelimiter, isSpace, or_assoc] using delimiter

theorem digit_not_delimiter {c : Char} (digit : c.isDigit = true) : isDelimiter c = false := by
  cases delimiter : isDelimiter c with
  | false => rfl
  | true =>
      rcases delimiter_cases delimiter with rfl | rfl | rfl | rfl | rfl | rfl | rfl <;>
        exact absurd digit (by decide)

/-- An integer whose numeral is short enough to be read. -/
def HasNumeral (n : Int) : Prop := (Nat.toDigits 10 n.natAbs).length ≤ Text.longestNumeral

instance (n : Int) : Decidable (HasNumeral n) := inferInstanceAs (Decidable (_ ≤ _))

theorem has_numeral_iff (n : Int) : HasNumeral n ↔ n.natAbs < 10 ^ Text.longestNumeral :=
  Nat.length_toDigits_le_iff (by decide) (by decide)

theorem has_numeral_zero : HasNumeral 0 := by decide

theorem lt_length_digits_pow (k : Nat) : k < (Nat.toDigits 10 (Nat.pow 10 k)).length := by
  cases k with
  | zero => decide
  | succ k =>
      have bound := mt (Nat.length_toDigits_le_iff (by decide) (Nat.succ_pos k)).mp
        (Nat.lt_irrefl (Nat.pow 10 (k + 1)))
      exact Nat.not_le.mp bound

/-- A run of digits is taken up to what is no digit. -/
theorem digits_up_to {digits rest : List Char} (digital : ∀ c ∈ digits, c.isDigit = true)
    (stops : ∀ c ∈ rest.head?, c.isDigit = false) : digitsOf (digits ++ rest) = (digits, rest) := by
  have none : rest.takeWhile Char.isDigit = [] ∧ rest.dropWhile Char.isDigit = rest := by
    cases rest with
    | nil => simp
    | cons c rest => simp [stops c rfl]
  rw [digitsOf, List.takeWhile_append_of_pos digital, List.dropWhile_append_of_pos digital,
    none.1, none.2, List.append_nil]

theorem Delimited.stops {rest : List Char} (delimited : Delimited rest) :
    ∀ c ∈ rest.head?, c.isDigit = false := by
  intro c member
  cases digit : c.isDigit with
  | false => rfl
  | true => exact absurd (delimited c member) (by simp [digit_not_delimiter digit])

theorem digits_delimited {digits rest : List Char} (digital : ∀ c ∈ digits, c.isDigit = true)
    (delimited : Delimited rest) : digitsOf (digits ++ rest) = (digits, rest) :=
  digits_up_to digital delimited.stops

theorem no_fraction {rest : List Char} (delimited : Delimited rest) :
    readFraction rest = ([], rest) := by
  cases rest with
  | nil => rfl
  | cons c rest =>
      rcases delimiter_cases (delimited c rfl) with rfl | rfl | rfl | rfl | rfl | rfl | rfl <;> rfl

theorem no_exponent {rest : List Char} (delimited : Delimited rest) :
    readExponent rest = ([], rest) := by
  cases rest with
  | nil => rfl
  | cons c rest =>
      rcases delimiter_cases (delimited c rfl) with rfl | rfl | rfl | rfl | rfl | rfl | rfl <;> rfl

theorem to_digits_digital (n : Nat) : ∀ c ∈ Nat.toDigits 10 n, c.isDigit = true := fun _ member =>
  Nat.isDigit_of_mem_toDigits (by decide) (by decide) member

theorem to_digits_begins (n : Nat) :
    ∃ first others, Nat.toDigits 10 n = first :: others ∧ first.isDigit = true := by
  cases digits : Nat.toDigits 10 n with
  | nil => exact absurd digits Nat.toDigits_ne_nil
  | cons first others => exact ⟨first, others, rfl, to_digits_digital n first (by simp [digits])⟩

/-- The digits of a number that begins with no zero are all before the point. -/
theorem whole_part_digits {whole rest : List Char} (digital : ∀ c ∈ whole, c.isDigit = true)
    (leading : whole = ['0'] ∨ ∃ first others, whole = first :: others ∧ first ≠ '0')
    (stops : ∀ c ∈ rest.head?, c.isDigit = false) : wholePart (whole ++ rest) = (whole, rest) := by
  rcases leading with rfl | ⟨first, others, rfl, nonzero⟩
  · rfl
  · rw [wholePart.eq_2]
    · exact digits_up_to digital stops
    · intro tail same
      exact nonzero (List.cons.inj same).1

theorem to_digits_leading (n : Nat) : Nat.toDigits 10 n = ['0'] ∨
    ∃ first others, Nat.toDigits 10 n = first :: others ∧ first ≠ '0' := by
  rcases Nat.eq_zero_or_pos n with rfl | positive
  · exact .inl rfl
  · obtain ⟨first, others, digits, -⟩ := to_digits_begins n
    exact .inr ⟨first, others, digits, fun zero => Text.leading_digit_ne_zero positive others (zero ▸ digits)⟩

theorem read_number_digits (negative : Bool) (n : Nat) {rest : List Char}
    (delimited : Delimited rest) :
    readNumber negative (Nat.toDigits 10 n ++ rest) =
      if (Nat.toDigits 10 n).length ≤ Text.longestNumeral then
        .ok (.int (if negative then -(n : Int) else n), rest)
      else .error .badValue := by
  have nonempty : (Nat.toDigits 10 n).isEmpty = false := by simp [Nat.toDigits_ne_nil]
  rw [readNumber, whole_part_digits (to_digits_digital n) (to_digits_leading n) delimited.stops]
  simp only [nonempty, no_fraction delimited, no_exponent delimited, Text.of_digits_to_digits]
  by_cases bound : (Nat.toDigits 10 n).length ≤ Text.longestNumeral
  · simp [bound, Nat.not_lt.mpr bound]
  · simp [bound, Nat.not_le.mp bound]

theorem int_text (n : Int) :
    (toString n).toList = (if n < 0 then ['-'] else []) ++ Nat.toDigits 10 n.natAbs := by
  rw [Int.toString_eq_repr, Int.repr_eq_if]
  split
  · rename_i nonnegative
    have magnitude : n.toNat = n.natAbs := by omega
    simp [magnitude, Int.not_lt.mpr nonnegative, Nat.toList_repr]
  · rename_i negative
    have magnitude : (-n).toNat = n.natAbs := by omega
    simp [magnitude, Int.not_le.mp negative, Nat.toList_repr]

/-- A text that begins with a digit, after a sign or without one, is read as a number. -/
theorem read_value_number (room fuel : Nat) (negative : Bool) {cs : List Char}
    (begins : ∃ first others, cs = first :: others ∧ first.isDigit = true) (rest : List Char) :
    readValue room (fuel + 1) ((if negative then ['-'] else []) ++ cs ++ rest) =
      readNumber negative (cs ++ rest) := by
  obtain ⟨first, others, rfl, digit⟩ := begins
  cases negative with
  | true =>
      have notWord : first ≠ 'I' := by rintro rfl; exact absurd digit (by decide)
      simp [readValue, notWord]
  | false =>
      have apart : first ≠ '"' ∧ first ≠ '[' ∧ first ≠ '\x7b' ∧ first ≠ '-' := by
        refine ⟨?_, ?_, ?_, ?_⟩ <;> (rintro rfl; exact absurd digit (by decide))
      simp [readValue, apart, digit]

/-- Reading an integer's text gives the integer, or the fault of a numeral that is too long. -/
theorem read_value_int (room fuel : Nat) (n : Int) {rest : List Char} (delimited : Delimited rest) :
    readValue room (fuel + 1) ((toString n).toList ++ rest) =
      if (Nat.toDigits 10 n.natAbs).length ≤ Text.longestNumeral then .ok (.int n, rest)
      else .error .badValue := by
  have read := read_value_number room fuel (n < 0) (to_digits_begins n.natAbs) rest
  have sign : (if n < 0 then -(n.natAbs : Int) else n.natAbs) = n := by
    split <;> omega
  simp only [read_number_digits _ n.natAbs delimited, decide_eq_true_eq, sign] at read
  rw [int_text]
  exact read

end LaunchPolicy.Json
