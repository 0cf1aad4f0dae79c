import LaunchPolicy.Text.Numeral
import Mathlib.Data.List.TakeWhile
import Mathlib.Tactic.Ring

/-!
The digits of a numeral and the number that they stand for.
-/

namespace LaunchPolicy.Text

theorem of_digits_to_digits (n : Nat) :
    ofDigits 10 ((Nat.toDigits 10 n).map (·.toNat - 48)) = n := by
  have stepwise := Nat.ofDigitChars_ten_toDigits (n := n)
  rw [Nat.ofDigitChars_eq_foldl] at stepwise
  simpa [ofDigits, List.foldl_map, Nat.mul_comm] using stepwise

private theorem digit_ne_zero : ∀ digit < 10, 0 < digit → Nat.digitChar digit ≠ '0' := by decide

/-- Only the numeral of zero begins with a zero. -/
theorem leading_digit_ne_zero {n : Nat} (positive : 0 < n) (tail : List Char) :
    Nat.toDigits 10 n ≠ '0' :: tail := by
  induction n using Nat.strongRecOn generalizing tail with
  | _ n ih =>
      rw [Nat.toDigits_eq_if (by decide)]
      split
      · rename_i single
        intro same
        exact digit_ne_zero n single positive (List.cons.inj same).1
      · rename_i several
        intro same
        cases digits : Nat.toDigits 10 (n / 10) with
        | nil => exact Nat.toDigits_ne_nil digits
        | cons first others =>
            rw [digits, List.cons_append] at same
            have zero : first = '0' := (List.cons.inj same).1
            exact ih (n / 10) (by omega) (by omega) others (by rw [digits, zero])

theorem lt_pow_length (n : Nat) : n < 10 ^ (Nat.toDigits 10 n).length :=
  (Nat.length_toDigits_le_iff (by decide) Nat.length_toDigits_pos).mp le_rfl

theorem pow_length_le {n : Nat} (positive : 0 < n) : 10 ^ ((Nat.toDigits 10 n).length - 1) ≤ n := by
  rcases Nat.eq_zero_or_pos ((Nat.toDigits 10 n).length - 1) with single | several
  · rw [single]
    exact positive
  · by_contra below
    have short := (Nat.length_toDigits_le_iff (by decide) several).mpr (not_le.mp below)
    omega

/-- The number of a run of decimal digits. -/
def valueOf (digits : List Char) : Nat := ofDigits 10 (digits.map (·.toNat - 48))

theorem value_to_digits (n : Nat) : valueOf (Nat.toDigits 10 n) = n := of_digits_to_digits n

theorem of_digits_append (base : Nat) (front rest : List Nat) :
    ofDigits base (front ++ rest) = ofDigits base front * base ^ rest.length + ofDigits base rest := by
  rw [← List.reverse_reverse rest]
  induction rest.reverse with
  | nil => simp [ofDigits]
  | cons digit rest ih =>
      have step (digits : List Nat) : ofDigits base (digits ++ [digit]) = ofDigits base digits * base + digit := by
        simp [ofDigits]
      rw [List.reverse_cons, ← List.append_assoc, step, step, ih, List.length_append, List.length_singleton]
      ring

theorem value_append (front rest : List Char) :
    valueOf (front ++ rest) = valueOf front * 10 ^ rest.length + valueOf rest := by
  rw [valueOf, List.map_append, of_digits_append, List.length_map]
  rfl

theorem of_digits_lt_pow {base : Nat} {digits : List Nat} (small : ∀ digit ∈ digits, digit < base) :
    ofDigits base digits < base ^ digits.length := by
  induction digits with
  | nil => simp [ofDigits]
  | cons digit digits ih =>
      obtain ⟨first, small⟩ := List.forall_mem_cons.mp small
      have others := ih small
      have step := Nat.mul_le_mul_right (base ^ digits.length) first
      have single : ofDigits base [digit] = digit := by simp [ofDigits]
      rw [Nat.succ_mul] at step
      rw [← List.singleton_append, of_digits_append, List.length_append, List.length_singleton, Nat.pow_add,
        Nat.pow_one, single]
      omega

theorem value_lt_pow {digits : List Char} (digital : ∀ c ∈ digits, c.isDigit = true) :
    valueOf digits < 10 ^ digits.length := by
  have small : ∀ digit ∈ digits.map (·.toNat - 48), digit < 10 := by
    intro digit member
    obtain ⟨c, within, rfl⟩ := List.mem_map.mp member
    have isDigit := digital c within
    simp only [Char.isDigit, Bool.and_eq_true, decide_eq_true_eq] at isDigit
    have high : c.toNat ≤ 57 := isDigit.2
    omega
  simpa [valueOf] using of_digits_lt_pow small

/-! Numerals as people write them -/

theorem digit_value_lt {c : Char} {digit : Nat} (read : digitValue? c = some digit) : digit < 10 := by
  obtain ⟨start, found, rfl⟩ := Option.map_eq_some_iff.mp read
  have within := List.find?_some found
  simp only [Bool.and_eq_true, decide_eq_true_eq] at within
  omega

theorem digit_run_small {digit? : Char → Option Nat} {base : Nat}
    (small : ∀ c digit, digit? c = some digit → digit < base) {cs : List Char} {digits : List Nat}
    (read : digitRun? digit? cs = some digits) : ∀ digit ∈ digits, digit < base := by
  have more {c : Char} {rest : List Char} {digits : List Nat}
      (each : ∀ {others : List Nat}, digitRun? digit? rest = some others → ∀ digit ∈ others, digit < base)
      (read : (do return (← digit? c) :: (← digitRun? digit? rest)) = some digits) :
      ∀ digit ∈ digits, digit < base := by
    obtain ⟨digit, found, read⟩ := Option.bind_eq_some_iff.mp read
    obtain ⟨others, run, read⟩ := Option.bind_eq_some_iff.mp read
    obtain rfl := Option.some.inj read
    exact List.forall_mem_cons.mpr ⟨small c digit found, each run⟩
  induction cs using digitRun?.induct generalizing digits with
  | case1 => contradiction
  | case2 c =>
      obtain ⟨digit, found, rfl⟩ := Option.map_eq_some_iff.mp read
      simpa using small c digit found
  | case3 c rest ih => exact more ih read
  | case4 c rest notLast noGap ih =>
      rw [digitRun?] at read
      · exact more ih read
      · exact notLast
      · exact noGap

theorem integer_lt_pow {cs : List Char} {n : Int} (read : integer? cs = some n) :
    n.natAbs < 10 ^ longestNumeral := by
  obtain ⟨digits, run, read⟩ := Option.bind_eq_some_iff.mp read
  obtain ⟨_, short, read⟩ := Option.bind_eq_some_iff.mp read
  have small := of_digits_lt_pow (digit_run_small (fun _ _ => digit_value_lt) run)
  have magnitude : n.natAbs = ofDigits 10 digits := by
    obtain rfl := Option.some.inj read
    split <;> simp
  rw [magnitude]
  exact small.trans_le (Nat.pow_le_pow_right (by decide) (by simpa [guard] using short))

@[simp] theorem value_zeros (count : Nat) : valueOf (List.replicate count '0') = 0 := by
  induction count with
  | zero => rfl
  | succ count ih =>
      rw [List.replicate_succ', value_append, ih]
      rfl

/-- Zeros in front of digits do not count. -/
theorem of_digits_without_zeros (base : Nat) (digits : List Nat) :
    ofDigits base (digits.dropWhile (· = 0)) = ofDigits base digits := by
  induction digits with
  | nil => rfl
  | cons digit digits ih =>
      rw [List.dropWhile_cons]
      split
      · rename_i zero
        obtain rfl : digit = 0 := by simpa using zero
        rw [ih]
        simp [ofDigits]
      · rfl

/-- Digits are those up to the last one that is no zero, and zeros. -/
theorem trailing_zeros (digits : List Char) :
    ∃ count, digits = (digits.reverse.dropWhile (· = '0')).reverse ++ List.replicate count '0' := by
  refine ⟨(digits.reverse.takeWhile (· = '0')).length, ?_⟩
  have zeros : digits.reverse.takeWhile (· = '0') =
      List.replicate (digits.reverse.takeWhile (· = '0')).length '0' := by
    rw [List.eq_replicate_iff]
    exact ⟨rfl, fun c member => by simpa using List.mem_takeWhile_imp member⟩
  rw [← List.reverse_replicate, ← zeros, ← List.reverse_append, List.takeWhile_append_dropWhile,
    List.reverse_reverse]

end LaunchPolicy.Text
