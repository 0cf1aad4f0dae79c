import LaunchPolicy.Number.Binary64
import Mathlib.Algebra.Order.Field.Power
import Mathlib.Data.Rat.Cast.Order
import Mathlib.Tactic.FieldSimp
import Mathlib.Tactic.Linarith
import Mathlib.Tactic.NormNum
import Mathlib.Tactic.Positivity
import Mathlib.Tactic.Ring

/-!
Rounding to binary floating point. A ratio is rounded to a mantissa and an exponent in their
canonical form, and a ratio that is nearer to a number than to its neighbours is rounded to it.
-/

namespace LaunchPolicy.Binary64

/-- A mantissa and an exponent in the one form that a finite number has. -/
structure IsNormal (mantissa : Nat) (exponent : Int) : Prop where
  least : leastExponent ≤ exponent
  greatest : exponent ≤ greatestExponent
  bounded : mantissa < 2 ^ 53
  full : exponent = leastExponent ∨ 2 ^ 52 ≤ mantissa

def Canonical : Binary64 → Prop
  | .finite _ mantissa exponent => IsNormal mantissa exponent
  | .infinite _ | .notANumber => True

/-- The magnitude of a finite number. -/
def magnitude (mantissa : Nat) (exponent : Int) : ℚ := mantissa * 2 ^ exponent

/-- A fraction as a rational number. -/
def ratio (fraction : Nat × Nat) : ℚ := fraction.1 / fraction.2

theorem zero_canonical (negative : Bool) : (zero negative).Canonical :=
  ⟨by decide, by decide, by decide, .inl rfl⟩

section RoundHalfEven

variable {numerator denominator : Nat}

theorem quotient_le_round : numerator / denominator ≤ roundHalfEven numerator denominator := by
  simp only [roundHalfEven]
  split
  · omega
  · split <;> omega

theorem round_le_quotient_succ :
    roundHalfEven numerator denominator ≤ numerator / denominator + 1 := by
  simp only [roundHalfEven]
  split
  · omega
  · split <;> omega

/-- The natural number that a ratio is nearest to, an even one at a tie, is what it is rounded to. -/
theorem round_half_even_eq (positive : 0 < denominator) {k : Nat}
    (low : k - 1 / 2 ≤ ratio (numerator, denominator))
    (high : ratio (numerator, denominator) ≤ k + 1 / 2)
    (even : ratio (numerator, denominator) = k - 1 / 2 ∨ ratio (numerator, denominator) = k + 1 / 2 →
      k % 2 = 0) : roundHalfEven numerator denominator = k := by
  have denominatorPositive : (0 : ℚ) < denominator := by exact_mod_cast positive
  have lowNat : 2 * (k * denominator) ≤ 2 * numerator + denominator := by
    rw [ratio, le_div_iff₀ denominatorPositive] at low
    have : (2 * (k * denominator) : ℚ) ≤ 2 * numerator + denominator := by linarith
    exact_mod_cast this
  have highNat : 2 * numerator ≤ 2 * (k * denominator) + denominator := by
    rw [ratio, div_le_iff₀ denominatorPositive] at high
    have : (2 * numerator : ℚ) ≤ 2 * (k * denominator) + denominator := by linarith
    exact_mod_cast this
  have evenNat : 2 * (k * denominator) = 2 * numerator + denominator ∨
      2 * numerator = 2 * (k * denominator) + denominator → k % 2 = 0 := by
    refine fun tie => even (tie.imp (fun tie => ?_) fun tie => ?_)
    · have : (2 * (k * denominator) : ℚ) = 2 * numerator + denominator := by exact_mod_cast tie
      rw [ratio, div_eq_iff denominatorPositive.ne']
      linarith
    · have : (2 * numerator : ℚ) = 2 * (k * denominator) + denominator := by exact_mod_cast tie
      rw [ratio, div_eq_iff denominatorPositive.ne']
      linarith
  have split := Nat.div_add_mod numerator denominator
  have rest := Nat.mod_lt numerator positive
  simp only [roundHalfEven]
  generalize numerator / denominator = quotient at *
  generalize numerator % denominator = remainder at *
  rw [Nat.mul_comm] at split
  have next : (quotient + 1) * denominator = quotient * denominator + denominator :=
    Nat.succ_mul quotient denominator
  -- the ratio is nearest to its quotient or to the number after it
  rcases Nat.lt_trichotomy k quotient with below | rfl | above
  · have step : (k + 1) * denominator ≤ quotient * denominator := Nat.mul_le_mul_right _ below
    rw [Nat.succ_mul] at step
    omega
  · split_ifs
    · rfl
    · omega
    · have := evenNat (by omega)
      omega
  · rcases Nat.eq_or_lt_of_le (Nat.succ_le_of_lt above) with rfl | far
    · rw [Nat.succ_eq_add_one, next] at lowNat highNat evenNat
      split_ifs
      · omega
      · rfl
      · have := evenNat (by omega)
        omega
    · have step : (quotient + 1 + 1) * denominator ≤ k * denominator := Nat.mul_le_mul_right _ far
      rw [Nat.succ_mul, next] at step
      omega

end RoundHalfEven

section Exponent

variable {numerator denominator : Nat}

theorem in_units_positive (numerator : Nat) (positive : 0 < denominator) (exponent : Int) :
    0 < (inUnits numerator denominator exponent).2 := by
  rw [inUnits]
  split
  · exact Nat.mul_pos positive (Nat.two_pow_pos _)
  · exact positive

theorem ratio_in_units (numerator denominator : Nat) (exponent : Int) :
    ratio (inUnits numerator denominator exponent) = ratio (numerator, denominator) / 2 ^ exponent := by
  rw [inUnits]
  split
  · rename_i nonnegative
    obtain ⟨k, rfl⟩ := Int.eq_ofNat_of_zero_le nonnegative
    simp only [ratio, Int.toNat_natCast, Nat.pow_eq, Nat.cast_mul, Nat.cast_pow, Nat.cast_ofNat,
      zpow_natCast, div_div]
  · rename_i negative
    obtain ⟨k, rfl⟩ : ∃ k : Nat, exponent = -(k : Int) := ⟨(-exponent).toNat, by omega⟩
    simp only [ratio, neg_neg, Int.toNat_natCast, Nat.pow_eq, Nat.cast_mul, Nat.cast_pow,
      Nat.cast_ofNat, zpow_neg, zpow_natCast, div_inv_eq_mul]
    ring

/-- Binary digits bound a natural number. -/
theorem pow_log_le {n : Nat} (positive : 0 < n) : (2 : ℚ) ^ (n.log2 : Int) ≤ n := by
  have bound := Nat.log2_self_le (n := n) (by omega)
  rw [zpow_natCast]
  exact_mod_cast bound

theorem lt_pow_log (n : Nat) : (n : ℚ) < 2 ^ ((n.log2 : Int) + 1) := by
  have bound := Nat.lt_log2_self (n := n)
  have cast : ((n.log2 : Int) + 1) = ((n.log2 + 1 : Nat) : Int) := by omega
  rw [cast, zpow_natCast]
  exact_mod_cast bound

theorem ratio_lt_pow (numerator : Nat) (positive : 0 < denominator) :
    ratio (numerator, denominator) < 2 ^ ((numerator.log2 : Int) - denominator.log2 + 1) := by
  have low := pow_log_le positive
  have high := lt_pow_log numerator
  have denominatorPositive : (0 : ℚ) < denominator := by exact_mod_cast positive
  rw [ratio, div_lt_iff₀ denominatorPositive]
  calc (numerator : ℚ) < 2 ^ ((numerator.log2 : Int) + 1) := high
    _ = 2 ^ ((numerator.log2 : Int) - denominator.log2 + 1) * 2 ^ (denominator.log2 : Int) := by
        rw [← zpow_add₀ two_ne_zero]
        congr 1
        omega
    _ ≤ 2 ^ ((numerator.log2 : Int) - denominator.log2 + 1) * denominator := by gcongr

theorem pow_lt_ratio (positive : 0 < denominator) (numeratorPositive : 0 < numerator) :
    2 ^ ((numerator.log2 : Int) - denominator.log2 - 1) < ratio (numerator, denominator) := by
  have low := pow_log_le numeratorPositive
  have high := lt_pow_log denominator
  have denominatorPositive : (0 : ℚ) < denominator := by exact_mod_cast positive
  rw [ratio, lt_div_iff₀ denominatorPositive]
  calc (2 : ℚ) ^ ((numerator.log2 : Int) - denominator.log2 - 1) * denominator
      < 2 ^ ((numerator.log2 : Int) - denominator.log2 - 1) * 2 ^ ((denominator.log2 : Int) + 1) := by
        gcongr
    _ = 2 ^ (numerator.log2 : Int) := by
        rw [← zpow_add₀ two_ne_zero]
        congr 1
        omega
    _ ≤ numerator := low

theorem least_le_exponent (numerator denominator : Nat) :
    leastExponent ≤ exponentOf numerator denominator := le_max_left _ _

/-- The estimate of an exponent, and whether it is one too great. -/
theorem exponent_eq (positive : 0 < denominator) :
    exponentOf numerator denominator = max leastExponent
      (if ratio (numerator, denominator) <
          2 ^ 52 * 2 ^ ((numerator.log2 : Int) - denominator.log2 - 52) then
        (numerator.log2 : Int) - denominator.log2 - 52 - 1
      else (numerator.log2 : Int) - denominator.log2 - 52) := by
  have unit := in_units_positive numerator positive
    ((numerator.log2 : Int) - denominator.log2 - 52)
  have scaled := ratio_in_units numerator denominator
    ((numerator.log2 : Int) - denominator.log2 - 52)
  simp only [exponentOf]
  generalize (numerator.log2 : Int) - denominator.log2 - 52 = estimate at *
  generalize inUnits numerator denominator estimate = fraction at *
  obtain ⟨a, b⟩ := fraction
  have unitPositive : (0 : ℚ) < b := by exact_mod_cast unit
  have power : (0 : ℚ) < 2 ^ estimate := by positivity
  have same : a < Nat.pow 2 52 * b ↔ ratio (numerator, denominator) < 2 ^ 52 * 2 ^ estimate := by
    rw [← div_lt_iff₀ power, ← scaled, ratio, div_lt_iff₀ unitPositive, Nat.pow_eq]
    exact_mod_cast Iff.rfl
  simp only [same]

theorem ratio_lt_exponent (numerator : Nat) (positive : 0 < denominator) :
    ratio (numerator, denominator) < 2 ^ 53 * 2 ^ exponentOf numerator denominator := by
  have bound := ratio_lt_pow numerator positive
  rw [exponent_eq positive]
  generalize estimated : (numerator.log2 : Int) - denominator.log2 - 52 = estimate at *
  have shifted : (numerator.log2 : Int) - denominator.log2 + 1 = 53 + estimate := by omega
  rw [shifted, zpow_add₀ two_ne_zero] at bound
  split
  · rename_i below
    calc ratio (numerator, denominator) < 2 ^ 52 * 2 ^ estimate := below
      _ = 2 ^ 53 * 2 ^ (estimate - 1) := by
          rw [zpow_sub_one₀ two_ne_zero]
          ring
      _ ≤ 2 ^ 53 * 2 ^ max leastExponent (estimate - 1) := by
          gcongr
          · norm_num
          · exact le_max_right _ _
  · calc ratio (numerator, denominator) < 2 ^ 53 * 2 ^ estimate := by exact_mod_cast bound
      _ ≤ 2 ^ 53 * 2 ^ max leastExponent estimate := by
          gcongr
          · norm_num
          · exact le_max_right _ _

/-- A mantissa is full unless the exponent is the least. -/
theorem exponent_le_ratio (positive : 0 < denominator) (numeratorPositive : 0 < numerator) :
    exponentOf numerator denominator = leastExponent ∨
      2 ^ 52 * 2 ^ exponentOf numerator denominator ≤ ratio (numerator, denominator) := by
  have bound := pow_lt_ratio positive numeratorPositive
  rw [exponent_eq positive]
  generalize estimated : (numerator.log2 : Int) - denominator.log2 - 52 = estimate at *
  have shifted : (numerator.log2 : Int) - denominator.log2 - 1 = 52 + (estimate - 1) := by omega
  rw [shifted, zpow_add₀ two_ne_zero] at bound
  split
  · rcases le_total (estimate - 1) leastExponent with low | high
    · exact .inl (max_eq_left low)
    · rw [max_eq_right high]
      exact .inr (by exact_mod_cast bound.le)
  · rename_i above
    rcases le_total estimate leastExponent with low | high
    · exact .inl (max_eq_left low)
    · rw [max_eq_right high]
      exact .inr (not_lt.mp above)

end Exponent

section Canonical

variable {mantissa numerator denominator : Nat} {exponent : Int}

theorem round_in_units_le (positive : 0 < denominator) :
    roundHalfEven (inUnits numerator denominator (exponentOf numerator denominator)).1
      (inUnits numerator denominator (exponentOf numerator denominator)).2 ≤ 2 ^ 53 := by
  have unit := in_units_positive numerator positive (exponentOf numerator denominator)
  have scaled := ratio_in_units numerator denominator
    (exponentOf numerator denominator)
  have below := ratio_lt_exponent numerator positive
  refine round_le_quotient_succ.trans (Nat.succ_le_of_lt ?_)
  rw [Nat.div_lt_iff_lt_mul unit]
  rw [← div_lt_iff₀ (by positivity), ← scaled, ratio, div_lt_iff₀ (by exact_mod_cast unit)] at below
  exact_mod_cast below

theorem le_round_in_units (positive : 0 < denominator) (numeratorPositive : 0 < numerator) :
    exponentOf numerator denominator = leastExponent ∨
      2 ^ 52 ≤ roundHalfEven (inUnits numerator denominator (exponentOf numerator denominator)).1
        (inUnits numerator denominator (exponentOf numerator denominator)).2 := by
  have unit := in_units_positive numerator positive (exponentOf numerator denominator)
  have scaled := ratio_in_units numerator denominator
    (exponentOf numerator denominator)
  refine (exponent_le_ratio positive numeratorPositive).imp_right fun above => ?_
  refine le_trans ?_ quotient_le_round
  rw [Nat.le_div_iff_mul_le unit]
  rw [← le_div_iff₀ (by positivity), ← scaled, ratio, le_div_iff₀ (by exact_mod_cast unit)] at above
  exact_mod_cast above

theorem carry_canonical (negative : Bool) (least : leastExponent ≤ exponent) (bound : mantissa ≤ 2 ^ 53)
    (full : exponent = leastExponent ∨ 2 ^ 52 ≤ mantissa) : (carry negative mantissa exponent).Canonical := by
  rw [carry]
  by_cases carries : mantissa = Nat.pow 2 53
  · simp only [carries, if_true]
    split
    · trivial
    · rename_i fits
      exact ⟨by omega, Int.not_lt.mp fits, by decide, .inr (by decide)⟩
  · simp only [carries, if_false]
    split
    · trivial
    · rename_i fits
      rw [Nat.pow_eq] at carries
      exact ⟨least, Int.not_lt.mp fits, by omega, full⟩

/-- Numbers that come of rounding are canonical. -/
theorem of_ratio_canonical (negative : Bool) (positive : 0 < denominator) :
    (ofRatio negative numerator denominator).Canonical := by
  rw [ofRatio]
  split
  · exact zero_canonical negative
  · rename_i nonzero
    exact carry_canonical negative (least_le_exponent _ _) (round_in_units_le positive)
      (le_round_in_units positive (Nat.pos_of_ne_zero nonzero))

theorem of_decimal_canonical (negative : Bool) (digits : Nat) (scale : Int) :
    (ofDecimal negative digits scale).Canonical := by
  simp only [ofDecimal]
  split
  · exact zero_canonical negative
  · split
    · trivial
    · split
      · exact zero_canonical negative
      · split
        · exact of_ratio_canonical negative (by decide)
        · exact of_ratio_canonical negative (Nat.pow_pos (by decide))

end Canonical

section Nearest

variable {mantissa numerator denominator : Nat} {exponent : Int}

/-- The rationals that round to a positive number: from half a unit below it to half a unit above it,
with a quarter for a half where the unit below is smaller, and with the ends if the mantissa is even. -/
structure RoundsTo (mantissa : Nat) (exponent : Int) (x : ℚ) : Prop where
  low : (mantissa - 1 / 2) * 2 ^ exponent ≤ x
  high : x ≤ (mantissa + 1 / 2) * 2 ^ exponent
  even : x = (mantissa - 1 / 2) * 2 ^ exponent ∨ x = (mantissa + 1 / 2) * 2 ^ exponent → mantissa % 2 = 0
  quarter : mantissa = 2 ^ 52 → leastExponent < exponent → (mantissa - 1 / 4) * 2 ^ exponent ≤ x

/-- The exponent of a ratio is the one for which its mantissa is full. -/
theorem exponent_unique (positive : 0 < denominator) (numeratorPositive : 0 < numerator)
    (least : leastExponent ≤ exponent) (high : ratio (numerator, denominator) < 2 ^ 53 * 2 ^ exponent)
    (low : exponent = leastExponent ∨ 2 ^ 52 * 2 ^ exponent ≤ ratio (numerator, denominator)) :
    exponentOf numerator denominator = exponent := by
  have ownLow := exponent_le_ratio positive numeratorPositive
  have ownHigh := ratio_lt_exponent numerator positive
  have ownLeast := least_le_exponent numerator denominator
  -- a number cannot be full for one exponent and below that bound for a smaller one
  have apart : ∀ small great : Int, small < great →
      (2 : ℚ) ^ 53 * 2 ^ small ≤ 2 ^ 52 * 2 ^ great := by
    intro small great less
    calc (2 : ℚ) ^ 53 * 2 ^ small = 2 ^ 52 * 2 ^ (small + 1) := by
          rw [zpow_add_one₀ two_ne_zero]
          ring
      _ ≤ 2 ^ 52 * 2 ^ great := by
          gcongr
          · norm_num
          · omega
  rcases lt_trichotomy (exponentOf numerator denominator) exponent with less | same | greater
  · have full := low.resolve_left (by omega)
    exact absurd ownHigh (not_lt.mpr ((apart _ _ less).trans full))
  · exact same
  · have full := ownLow.resolve_left (by omega)
    exact absurd high (not_lt.mpr ((apart _ _ greater).trans full))

theorem of_ratio_at (negative : Bool) (numeratorPositive : 0 < numerator)
    (exponentEq : exponentOf numerator denominator = exponent)
    (rounded : roundHalfEven (inUnits numerator denominator exponent).1
      (inUnits numerator denominator exponent).2 = mantissa) :
    ofRatio negative numerator denominator = carry negative mantissa exponent := by
  simp only [ofRatio, numeratorPositive.ne', if_false, exponentEq, rounded]

/-- A ratio that is nearest to a number is rounded to it. -/
theorem of_ratio_nearest (negative : Bool) (normal : IsNormal mantissa exponent)
    (mantissaPositive : 0 < mantissa) (positive : 0 < denominator)
    (nearest : RoundsTo mantissa exponent (ratio (numerator, denominator))) :
    ofRatio negative numerator denominator = .finite negative mantissa exponent := by
  have unit : (0 : ℚ) < 2 ^ exponent := by positivity
  have mantissaOne : (1 : ℚ) ≤ mantissa := by exact_mod_cast mantissaPositive
  have mantissaBound : (mantissa : ℚ) + 1 ≤ 2 ^ 53 := by exact_mod_cast normal.bounded
  have above : 0 < ratio (numerator, denominator) :=
    lt_of_lt_of_le (mul_pos (by linarith) unit) nearest.low
  have numeratorPositive : 0 < numerator := by
    by_contra none
    obtain rfl : numerator = 0 := by omega
    simp [ratio] at above
  have high : ratio (numerator, denominator) < 2 ^ 53 * 2 ^ exponent :=
    lt_of_le_of_lt nearest.high (by gcongr; linarith)
  by_cases full : exponent = leastExponent ∨ 2 ^ 52 * 2 ^ exponent ≤ ratio (numerator, denominator)
  · have exponentEq := exponent_unique positive numeratorPositive normal.least high full
    have scaled := ratio_in_units numerator denominator exponent
    have rounded : roundHalfEven (inUnits numerator denominator exponent).1
        (inUnits numerator denominator exponent).2 = mantissa := by
      apply round_half_even_eq (in_units_positive numerator positive exponent)
      · rw [scaled, le_div_iff₀ unit]
        exact nearest.low
      · rw [scaled, div_le_iff₀ unit]
        exact nearest.high
      · rw [scaled, div_eq_iff unit.ne', div_eq_iff unit.ne']
        exact nearest.even
    rw [of_ratio_at negative numeratorPositive exponentEq rounded, carry]
    have bounded : mantissa ≠ Nat.pow 2 53 := by
      have := normal.bounded
      rw [Nat.pow_eq]
      omega
    simp [bounded, Int.not_lt.mpr normal.greatest]
  · obtain ⟨notLeast, short⟩ := not_or.mp full
    rw [not_le] at short
    -- below the least full mantissa only a number with that mantissa is near
    have least : leastExponent ≤ exponent - 1 := by
      have := normal.least
      omega
    have mantissaFull := normal.full.resolve_left notLeast
    have mantissaEq : mantissa = 2 ^ 52 := by
      by_contra other
      have : (2 : ℚ) ^ 52 + 1 ≤ mantissa := by exact_mod_cast (by omega : 2 ^ 52 + 1 ≤ mantissa)
      have beyond : (2 : ℚ) ^ 52 * 2 ^ exponent ≤ (mantissa - 1 / 2) * 2 ^ exponent := by
        gcongr
        linarith
      exact absurd (beyond.trans nearest.low) (not_le.mpr short)
    have half : (2 : ℚ) ^ exponent = 2 * 2 ^ (exponent - 1) := by
      rw [zpow_sub_one₀ two_ne_zero]
      ring
    have below : (0 : ℚ) < 2 ^ (exponent - 1) := by positivity
    have quarter := nearest.quarter mantissaEq (by omega)
    have mantissaCast : (mantissa : ℚ) = 2 ^ 52 := by exact_mod_cast mantissaEq
    rw [mantissaCast, half] at quarter
    rw [half] at short
    have exponentEq := exponent_unique positive numeratorPositive least
      (by linarith) (.inr (by linarith))
    have scaled := ratio_in_units numerator denominator (exponent - 1)
    have rounded : roundHalfEven (inUnits numerator denominator (exponent - 1)).1
        (inUnits numerator denominator (exponent - 1)).2 = 2 ^ 53 := by
      apply round_half_even_eq (in_units_positive numerator positive _)
      · rw [scaled, le_div_iff₀ below]
        push_cast
        linarith
      · rw [scaled, div_le_iff₀ below]
        push_cast
        linarith
      · exact fun _ => by decide
    rw [of_ratio_at negative numeratorPositive exponentEq rounded, carry, mantissaEq]
    simp [Int.not_lt.mpr normal.greatest]

end Nearest

end LaunchPolicy.Binary64
