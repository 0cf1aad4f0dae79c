import LaunchPolicy.Proofs.Json.Numeral
import LaunchPolicy.Proofs.Number.Shortest

/-!
Binary numbers in JSON text. A finite number is written as its shortest decimal, and the number
nearest to that decimal is the number itself; so it is read back.
-/

namespace LaunchPolicy

open Binary64 (Decimal exponentText ofDecimal)

namespace Json

/-- How a decimal is written: digits before a point and after it, and an exponent. -/
structure Spelled where
  whole : List Char
  fraction : List Char
  power : Option Int

namespace Spelled

def point (spelled : Spelled) : List Char :=
  if spelled.fraction = [] then [] else '.' :: spelled.fraction

def exponent (spelled : Spelled) : List Char := spelled.power.elim [] exponentText

def text (spelled : Spelled) : List Char := spelled.whole ++ (spelled.point ++ spelled.exponent)

/-- The count of units that the digits are, and the power of ten of the unit. -/
def count (spelled : Spelled) : Nat := Text.valueOf (spelled.whole ++ spelled.fraction)

def unit (spelled : Spelled) : Int := spelled.power.getD 0 - spelled.fraction.length

/-- A decimal that is no integer, without a zero in front of other digits. -/
structure IsProper (spelled : Spelled) : Prop where
  wholeDigital : ∀ c ∈ spelled.whole, c.isDigit = true
  leading : spelled.whole = ['0'] ∨ ∃ first rest, spelled.whole = first :: rest ∧ first ≠ '0'
  fractionDigital : ∀ c ∈ spelled.fraction, c.isDigit = true
  noInteger : spelled.fraction ≠ [] ∨ spelled.power.isSome = true
  near : ∀ power ∈ spelled.power, power.natAbs < 10 ^ 12

end Spelled

/-- An exponent is written as its mark, a sign and two or more digits. -/
theorem exponent_text_form (power : Int) :
    ∃ digits, exponentText power = 'e' :: (if power < 0 then '-' else '+') :: digits ∧
      (∀ c ∈ digits, c.isDigit = true) ∧ digits ≠ [] ∧ Text.valueOf digits = power.natAbs ∧
      digits.length ≤ max 2 (Nat.toDigits 10 power.natAbs).length := by
  have digits : (toString power.natAbs).toList = Nat.toDigits 10 power.natAbs := Nat.toList_repr
  have sign (rest : List Char) : (if power < 0 then ['e', '-'] else ['e', '+']) ++ rest =
      'e' :: (if power < 0 then '-' else '+') :: rest := by split <;> rfl
  simp only [exponentText, digits, sign]
  refine ⟨_, rfl, ?_⟩
  have digital := to_digits_digital power.natAbs
  have value := Text.value_to_digits power.natAbs
  have nonempty : Nat.toDigits 10 power.natAbs ≠ [] := Nat.toDigits_ne_nil
  split
  · rename_i short
    refine ⟨List.forall_mem_cons.mpr ⟨by decide, digital⟩, by simp, ?_, ?_⟩
    · rw [← List.singleton_append, Text.value_append, value]
      simp [Text.valueOf, Text.ofDigits]
    · rw [List.length_cons]
      omega
  · exact ⟨digital, nonempty, value, le_max_right _ _⟩

theorem exponent_digits_short {power : Int} (near : power.natAbs < 10 ^ 12) :
    (Nat.toDigits 10 power.natAbs).length ≤ 12 :=
  (Nat.length_toDigits_le_iff (by decide) (by decide)).mpr near

/-- A written exponent is read as its text. -/
theorem read_exponent_text (power : Int) {rest : List Char} (delimited : Delimited rest) :
    readExponent (exponentText power ++ rest) = (exponentText power, rest) := by
  obtain ⟨digits, form, digital, nonempty, -, -⟩ := exponent_text_form power
  have taken := digits_delimited digital delimited
  cases digits with
  | nil => exact absurd rfl nonempty
  | cons first others =>
      rw [form, List.cons_append, List.cons_append]
      by_cases negative : power < 0
      · simp only [readExponent, negative, if_true, true_or, taken]
        rfl
      · simp only [readExponent, negative, if_false, true_or, if_true, taken]
        rfl

/-- The text of an exponent stands for the exponent. -/
theorem exponent_of_text {power : Int} (near : power.natAbs < 10 ^ 12) :
    Text.exponent? (exponentText power) = some power := by
  obtain ⟨digits, form, digital, nonempty, value, short⟩ := exponent_text_form power
  have bound := exponent_digits_short near
  have run : Text.asciiDigits digits = (digits.map (·.toNat - 48), []) := by
    have taken : digitsOf (digits ++ []) = (digits, []) := digits_up_to digital (by simp)
    rw [List.append_nil, digitsOf, Prod.mk.injEq] at taken
    rw [Text.asciiDigits, taken.1, taken.2]
  have significant : ((digits.map (·.toNat - 48)).dropWhile (· = 0)).length ≤ 12 := by
    have := (List.dropWhile_sublist (· = 0) (l := digits.map (·.toNat - 48))).length_le
    rw [List.length_map] at this
    omega
  have magnitude : Text.ofDigits 10 ((digits.map (·.toNat - 48)).dropWhile (· = 0)) = power.natAbs :=
    (Text.of_digits_without_zeros 10 _).trans value
  have someDigits : (digits.map (·.toNat - 48)).isEmpty = false := by simp [nonempty]
  rw [form]
  by_cases negative : power < 0
  · simp only [Text.exponent?, true_or, if_true, negative, Text.splitSign, run, someDigits,
      Nat.not_lt.mpr significant, if_false, magnitude]
    rw [show -(power.natAbs : Int) = power by omega]
    rfl
  · simp only [Text.exponent?, true_or, if_true, negative, if_false, Text.splitSign, run, someDigits,
      Nat.not_lt.mpr significant, magnitude]
    rw [show (power.natAbs : Int) = power by omega]
    rfl

namespace Spelled

variable {spelled : Spelled} {rest : List Char}

theorem exponent_stops (spelled : Spelled) (delimited : Delimited rest) :
    ∀ c ∈ (spelled.exponent ++ rest).head?, c.isDigit = false := by
  rw [exponent]
  cases spelled.power with
  | none => exact delimited.stops
  | some power =>
      obtain ⟨digits, form, -⟩ := exponent_text_form power
      simp [form]

theorem point_stops (spelled : Spelled) (delimited : Delimited rest) :
    ∀ c ∈ (spelled.point ++ (spelled.exponent ++ rest)).head?, c.isDigit = false := by
  rw [point]
  split
  · exact exponent_stops spelled delimited
  · simp

theorem whole_nonempty (proper : spelled.IsProper) : spelled.whole ≠ [] := by
  rcases proper.leading with zero | ⟨first, others, form, -⟩
  · simp [zero]
  · simp [form]

theorem read_fraction (proper : spelled.IsProper) (delimited : Delimited rest) :
    readFraction (spelled.point ++ (spelled.exponent ++ rest)) =
      (spelled.fraction, spelled.exponent ++ rest) := by
  rw [point]
  split
  · rename_i none
    rw [List.nil_append, none, exponent]
    cases spelled.power with
    | none => exact no_fraction delimited
    | some power =>
        obtain ⟨digits, form, -⟩ := exponent_text_form power
        rw [Option.elim_some, form]
        rfl
  · rename_i some
    have taken := digits_up_to proper.fractionDigital (exponent_stops spelled delimited)
    cases fraction : spelled.fraction with
    | nil => exact absurd fraction some
    | cons first others =>
        rw [fraction] at taken
        rw [List.cons_append, readFraction, taken]

theorem read_exponent (delimited : Delimited rest) :
    readExponent (spelled.exponent ++ rest) = (spelled.exponent, rest) := by
  rw [exponent]
  cases spelled.power with
  | none => exact no_exponent delimited
  | some power => exact read_exponent_text power delimited

theorem exponent_value (proper : spelled.IsProper) :
    Text.exponent? spelled.exponent = some (spelled.power.getD 0) := by
  rw [exponent]
  cases written : spelled.power with
  | none => rfl
  | some power => exact exponent_of_text (proper.near power written)

/-- The decimal of a number's text, a point in it even if no digits follow. -/
theorem unsigned_decimal (proper : spelled.IsProper) (negative : Bool) :
    Text.unsignedDecimal? negative (spelled.whole ++ '.' :: spelled.fraction ++ spelled.exponent) =
      some (ofDecimal negative spelled.count spelled.unit) := by
  have whole : digitsOf (spelled.whole ++ ('.' :: spelled.fraction ++ spelled.exponent)) =
      (spelled.whole, '.' :: spelled.fraction ++ spelled.exponent) :=
    digits_up_to proper.wholeDigital (by simp)
  have fraction := digits_up_to proper.fractionDigital
    (by simpa using exponent_stops spelled delimited_nil)
  rw [digitsOf, Prod.mk.injEq] at whole fraction
  have some : (spelled.whole.map (·.toNat - 48)).isEmpty = false := by
    simp [whole_nonempty proper]
  rw [List.append_assoc, List.cons_append]
  rw [List.cons_append] at whole
  simp only [Text.unsignedDecimal?, Text.asciiDigits, whole, fraction, exponent_value proper, some]
  simp [count, unit, Text.valueOf, guard]

/-- A number is read from its text as the one nearest to its decimal. -/
theorem read_number (proper : spelled.IsProper) (negative : Bool) (delimited : Delimited rest) :
    readNumber negative (spelled.text ++ rest) =
      .ok (.float (ofDecimal negative spelled.count spelled.unit), rest) := by
  have someDigits : spelled.whole.isEmpty = false := by simp [whole_nonempty proper]
  have noInteger : (spelled.fraction.isEmpty && spelled.exponent.isEmpty) = false := by
    rcases proper.noInteger with fraction | power
    · simp [fraction]
    · obtain ⟨power, is⟩ := Option.isSome_iff_exists.mp power
      obtain ⟨digits, form, -⟩ := exponent_text_form power
      simp [exponent, is, form]
  have whole := whole_part_digits proper.wholeDigital proper.leading
    (point_stops spelled delimited)
  rw [text, List.append_assoc, List.append_assoc, readNumber, whole]
  simp only [someDigits, read_fraction proper delimited, read_exponent delimited, noInteger,
    unsigned_decimal proper]
  rfl

end Spelled

/-- A decimal that is written in a certain way. -/
structure Writes (spelled : Spelled) (d : Decimal) : Prop where
  proper : spelled.IsProper
  text : spelled.text = d.layout
  value : spelled.count * (10 : ℚ) ^ spelled.unit = d.value

theorem value_shifted (n zeros : Nat) (unit : Int) :
    ((n * 10 ^ zeros : Nat) : ℚ) * 10 ^ unit = n * 10 ^ (unit + zeros) := by
  rw [zpow_add₀ (by norm_num), zpow_natCast]
  push_cast
  ring

section Layouts

variable {d : Decimal} (proper : d.IsProper)

theorem zeros_digital (count : Nat) : ∀ c ∈ List.replicate count '0', c.isDigit = true := by
  intro c member
  rw [List.eq_of_mem_replicate member]
  rfl

include proper

/-- Below one, a zero stands before the point, and zeros between the point and the digits. -/
theorem writes_below_one (positional : -4 < d.point ∧ d.point ≤ 16) (small : d.point ≤ 0) :
    Writes ⟨['0'], List.replicate (-d.point).toNat '0' ++ d.digits, none⟩ d := by
  obtain ⟨first, others, digits, -⟩ := proper.leading
  constructor
  · refine ⟨by simp, .inl rfl, ?_, by simp [digits], by simp⟩
    exact List.forall_mem_append.mpr ⟨zeros_digital _, proper.digital⟩
  · simp [Spelled.text, Spelled.point, Spelled.exponent, Decimal.layout, positional, small, digits]
  · have zeros : '0' :: List.replicate (-d.point).toNat '0' = List.replicate ((-d.point).toNat + 1) '0' :=
      List.replicate_succ.symm
    have count : Text.valueOf (['0'] ++ (List.replicate (-d.point).toNat '0' ++ d.digits)) =
        Text.valueOf d.digits := by
      rw [← List.append_assoc, List.singleton_append, zeros, Text.value_append, Text.value_zeros]
      omega
    have unit : (0 : Int) - (List.replicate (-d.point).toNat '0' ++ d.digits).length =
        d.point - d.digits.length := by
      rw [List.length_append, List.length_replicate]
      omega
    rw [Spelled.count, Spelled.unit, Decimal.value, count, Option.getD_none, unit]

/-- An integer is written with zeros up to the point, and one after it. -/
theorem writes_integer (positional : -4 < d.point ∧ d.point ≤ 16) (large : ¬ d.point ≤ 0)
    (long : d.digits.length ≤ d.point.toNat) :
    Writes ⟨d.digits ++ List.replicate (d.point.toNat - d.digits.length) '0', ['0'], none⟩ d := by
  obtain ⟨first, others, digits, nonzero⟩ := proper.leading
  constructor
  · refine ⟨?_, .inr ⟨first, others ++ _, by rw [digits]; rfl, nonzero⟩, by simp, by simp, by simp⟩
    exact List.forall_mem_append.mpr ⟨proper.digital, zeros_digital _⟩
  · simp [Spelled.text, Spelled.point, Spelled.exponent, Decimal.layout, positional, large, long]
  · have zeros : List.replicate (d.point.toNat - d.digits.length) '0' ++ ['0'] =
        List.replicate (d.point.toNat - d.digits.length + 1) '0' := List.replicate_succ'.symm
    rw [Spelled.count, Spelled.unit, Decimal.value, List.append_assoc, zeros, Text.value_append,
      Text.value_zeros, Nat.add_zero, List.length_replicate, value_shifted, Option.getD_none]
    congr 2
    rw [List.length_singleton]
    omega

/-- The point stands among the digits. -/
theorem writes_pointed (positional : -4 < d.point ∧ d.point ≤ 16) (large : ¬ d.point ≤ 0)
    (short : ¬ d.digits.length ≤ d.point.toNat) :
    Writes ⟨d.digits.take d.point.toNat, d.digits.drop d.point.toNat, none⟩ d := by
  obtain ⟨first, others, digits, nonzero⟩ := proper.leading
  have some : d.digits.drop d.point.toNat ≠ [] := by rwa [Ne, List.drop_eq_nil_iff]
  constructor
  · refine ⟨fun c member => proper.digital c (List.mem_of_mem_take member), .inr ?_,
      fun c member => proper.digital c (List.mem_of_mem_drop member), .inl some, by simp⟩
    obtain ⟨more, point⟩ := Nat.exists_eq_add_one.mpr (by omega : 0 < d.point.toNat)
    exact ⟨first, others.take more, by rw [digits, point]; rfl, nonzero⟩
  · simp [Spelled.text, Spelled.point, Spelled.exponent, Decimal.layout, positional, large, short, some]
  · have unit : (0 : Int) - (d.digits.drop d.point.toNat).length = d.point - d.digits.length := by
      rw [List.length_drop]
      omega
    rw [Spelled.count, Spelled.unit, Decimal.value, List.take_append_drop, Option.getD_none, unit]

/-- Far from one, the point stands behind the first digit. -/
theorem writes_scientific {first : Char} {others : List Char} (digits : d.digits = first :: others)
    (nonzero : first ≠ '0') (far : ¬ (-4 < d.point ∧ d.point ≤ 16)) :
    Writes ⟨[first], others, some (d.point - 1)⟩ d := by
  constructor
  · have digital := List.forall_mem_cons.mp (digits ▸ proper.digital)
    refine ⟨by simpa using digital.1, .inr ⟨first, [], rfl, nonzero⟩, digital.2, .inr rfl, ?_⟩
    have near := proper.near
    simp only [Option.mem_def, Option.some.injEq, forall_eq']
    omega
  · cases others <;>
      simp [Spelled.text, Spelled.point, Spelled.exponent, Decimal.layout, far, digits]
  · have unit : d.point - 1 - others.length = d.point - d.digits.length := by
      rw [digits, List.length_cons]
      omega
    rw [Spelled.count, Spelled.unit, Decimal.value, List.singleton_append, ← digits,
      Option.getD_some, unit]

theorem layout_written : ∃ spelled, Writes spelled d := by
  by_cases positional : -4 < d.point ∧ d.point ≤ 16
  · by_cases small : d.point ≤ 0
    · exact ⟨_, writes_below_one proper positional small⟩
    · by_cases long : d.digits.length ≤ d.point.toNat
      · exact ⟨_, writes_integer proper positional small long⟩
      · exact ⟨_, writes_pointed proper positional small long⟩
  · obtain ⟨first, others, digits, nonzero⟩ := proper.leading
    exact ⟨_, writes_scientific proper digits nonzero positional⟩

end Layouts

theorem Spelled.begins {spelled : Spelled} (proper : spelled.IsProper) :
    ∃ first others, spelled.text = first :: others ∧ first.isDigit = true := by
  rcases proper.leading with zero | ⟨first, others, form, -⟩
  · exact ⟨'0', _, by rw [Spelled.text, zero]; rfl, rfl⟩
  · exact ⟨first, _, by rw [Spelled.text, form]; rfl, proper.wholeDigital first (by simp [form])⟩

theorem read_value_spelled (room fuel : Nat) (negative : Bool) {spelled : Spelled} (proper : spelled.IsProper)
    {rest : List Char} (delimited : Delimited rest) :
    readValue room (fuel + 1) ((if negative then ['-'] else []) ++ spelled.text ++ rest) =
      .ok (.float (ofDecimal negative spelled.count spelled.unit), rest) := by
  rw [read_value_number room fuel negative (Spelled.begins proper),
    Spelled.read_number proper negative delimited]

/-- The text of a finite number is some way to write a decimal that is read as the number. -/
theorem finite_text (negative : Bool) {mantissa : Nat} {exponent : Int}
    (normal : Binary64.IsNormal mantissa exponent) :
    ∃ spelled : Spelled, spelled.IsProper ∧
      ((Binary64.finite negative mantissa exponent).text numberSpelling).toList =
        (if negative then ['-'] else []) ++ spelled.text ∧
      ofDecimal negative spelled.count spelled.unit = .finite negative mantissa exponent := by
  have text (body : List Char) :
      (String.ofList (if negative then '-' :: body else body)).toList =
        (if negative then ['-'] else []) ++ body := by
    rw [String.toList_ofList]
    cases negative <;> rfl
  by_cases zero : mantissa = 0
  · have least : exponent = Binary64.leastExponent := normal.full.resolve_right (by omega)
    refine ⟨⟨['0'], ['0'], none⟩, ⟨by simp, .inl rfl, by simp, .inl (by simp), by simp⟩, ?_, ?_⟩
    · rw [Binary64.text, if_pos zero, text]
      rfl
    · rw [zero, least]
      rfl
  · have positive := Nat.pos_of_ne_zero zero
    obtain ⟨shortest, rounds⟩ := Binary64.shortest_rounds normal positive
    obtain ⟨spelled, writes⟩ := layout_written shortest
    rw [← writes.value] at rounds
    refine ⟨spelled, writes.proper, ?_, Binary64.of_decimal_nearest negative normal positive rounds⟩
    rw [Binary64.text, if_neg zero, text, writes.text]

/-- Every number is read back from its text, the infinite ones included. -/
theorem read_value_float (room fuel : Nat) {x : Binary64} (canonical : x.Canonical) (number : x ≠ .notANumber)
    {rest : List Char} (delimited : Delimited rest) :
    readValue room (fuel + 1) ((x.text numberSpelling).toList ++ rest) = .ok (.float x, rest) := by
  cases x with
  | notANumber => exact absurd rfl number
  | infinite negative => cases negative <;> rfl
  | finite negative mantissa exponent =>
      obtain ⟨spelled, proper, text, same⟩ := finite_text negative canonical
      rw [text, read_value_spelled room fuel negative proper delimited, same]

/-- The text of a number begins with a sign, a digit or a letter. -/
theorem float_text_begins {x : Binary64} (canonical : x.Canonical) (number : x ≠ .notANumber) :
    ∃ first others, (x.text numberSpelling).toList = first :: others ∧
      (first.isDigit = true ∨ first = '-' ∨ first = 'I') := by
  cases x with
  | notANumber => exact absurd rfl number
  | infinite negative =>
      cases negative with
      | true => exact ⟨'-', _, rfl, .inr (.inl rfl)⟩
      | false => exact ⟨'I', _, rfl, .inr (.inr rfl)⟩
  | finite negative mantissa exponent =>
      obtain ⟨spelled, proper, text, -⟩ := finite_text negative canonical
      obtain ⟨first, others, form, digit⟩ := Spelled.begins proper
      rw [text, form]
      cases negative with
      | true => exact ⟨'-', _, rfl, .inr (.inl rfl)⟩
      | false => exact ⟨first, others, rfl, .inl digit⟩

end Json

end LaunchPolicy
