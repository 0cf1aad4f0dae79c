import LaunchPolicy.Number.Shortest
import LaunchPolicy.Proofs.Number.Rounding
import LaunchPolicy.Proofs.Text.Numeral

/-!
The shortest decimal of a number. Seventeen digits are always enough to tell a number from its
neighbours, so the search for one that rounds to the number ends with a hit.
-/

namespace LaunchPolicy.Binary64

section Fractions

variable {a b : Nat × Nat}

theorem is_below_iff (first : 0 < a.2) (second : 0 < b.2) : isBelow a b = true ↔ ratio a < ratio b := by
  have firstPositive : (0 : ℚ) < a.2 := by exact_mod_cast first
  have secondPositive : (0 : ℚ) < b.2 := by exact_mod_cast second
  rw [isBelow, decide_eq_true_iff, ratio, ratio, div_lt_div_iff₀ firstPositive secondPositive]
  exact_mod_cast Iff.rfl

theorem from_quarters_positive (quarters : Nat) (exponent : Int) : 0 < (fromQuarters quarters exponent).2 := by
  rw [fromQuarters]
  split
  · exact Nat.one_pos
  · exact Nat.two_pow_pos _

theorem ratio_from_quarters (quarters : Nat) (exponent : Int) :
    ratio (fromQuarters quarters exponent) = quarters / 4 * 2 ^ exponent := by
  have four : (4 : ℚ) = 2 ^ (2 : Int) := by norm_num
  rw [fromQuarters]
  split
  · rename_i great
    obtain ⟨k, rfl⟩ : ∃ k : Nat, exponent = k + 2 := ⟨(exponent - 2).toNat, by omega⟩
    rw [ratio, zpow_add₀ two_ne_zero, add_sub_cancel_right, Int.toNat_natCast, four]
    simp only [Nat.pow_eq, Nat.cast_mul, Nat.cast_pow, Nat.cast_ofNat, Nat.cast_one, div_one,
      zpow_natCast]
    field_simp
  · rename_i small
    obtain ⟨k, rfl⟩ : ∃ k : Nat, exponent = 2 - k := ⟨(2 - exponent).toNat, by omega⟩
    rw [ratio, zpow_sub₀ two_ne_zero, sub_sub_cancel, Int.toNat_natCast, four]
    simp only [Nat.pow_eq, Nat.cast_pow, Nat.cast_ofNat, zpow_natCast]
    field_simp

theorem on_grid_positive (positive : 0 < a.2) (unit : Int) : 0 < (onGrid a unit).2 := by
  rw [onGrid]
  split
  · exact Nat.mul_pos positive (Nat.pow_pos (by decide))
  · exact positive

theorem ratio_on_grid (a : Nat × Nat) (unit : Int) : ratio (onGrid a unit) = ratio a / 10 ^ unit := by
  rw [onGrid]
  split
  · rename_i nonnegative
    obtain ⟨k, rfl⟩ := Int.eq_ofNat_of_zero_le nonnegative
    simp only [ratio, Int.toNat_natCast, Nat.pow_eq, Nat.cast_mul, Nat.cast_pow, Nat.cast_ofNat,
      zpow_natCast, div_div]
  · rename_i negative
    obtain ⟨k, rfl⟩ : ∃ k : Nat, unit = -(k : Int) := ⟨(-unit).toNat, by omega⟩
    simp only [ratio, neg_neg, Int.toNat_natCast, Nat.pow_eq, Nat.cast_mul, Nat.cast_pow,
      Nat.cast_ofNat, zpow_neg, zpow_natCast, div_inv_eq_mul]
    ring

theorem grid_point_positive (count : Nat) (unit : Int) : 0 < (gridPoint count unit).2 := by
  rw [gridPoint]
  split
  · exact Nat.one_pos
  · exact Nat.pow_pos (by decide)

theorem ratio_grid_point (count : Nat) (unit : Int) : ratio (gridPoint count unit) = count * 10 ^ unit := by
  rw [gridPoint]
  split
  · rename_i nonnegative
    obtain ⟨k, rfl⟩ := Int.eq_ofNat_of_zero_le nonnegative
    simp only [ratio, Int.toNat_natCast, Nat.pow_eq, Nat.cast_mul, Nat.cast_pow, Nat.cast_ofNat,
      zpow_natCast, Nat.cast_one, div_one]
  · rename_i negative
    obtain ⟨k, rfl⟩ : ∃ k : Nat, unit = -(k : Int) := ⟨(-unit).toNat, by omega⟩
    simp only [ratio, neg_neg, Int.toNat_natCast, Nat.pow_eq, Nat.cast_pow, Nat.cast_ofNat, zpow_neg,
      zpow_natCast]
    rfl

end Fractions

section Rounding

variable {mantissa : Nat} {exponent : Int} {x : Nat × Nat}

theorem low_positive (mantissa : Nat) (exponent : Int) : 0 < (roundingOf mantissa exponent).low.2 := by
  simp only [roundingOf]
  split <;> exact from_quarters_positive _ _

theorem high_positive (mantissa : Nat) (exponent : Int) : 0 < (roundingOf mantissa exponent).high.2 :=
  from_quarters_positive _ _

theorem ratio_low (positive : 0 < mantissa) :
    ratio (roundingOf mantissa exponent).low =
      if mantissa = 2 ^ 52 ∧ leastExponent < exponent then ((mantissa : ℚ) - 1 / 4) * 2 ^ exponent
      else (mantissa - 1 / 2) * 2 ^ exponent := by
  have one : 1 ≤ 4 * mantissa := by omega
  have two : 2 ≤ 4 * mantissa := by omega
  simp only [roundingOf, Nat.pow_eq]
  split
  · rw [ratio_from_quarters, Nat.cast_sub one]
    push_cast
    ring
  · rw [ratio_from_quarters, Nat.cast_sub two]
    push_cast
    ring

theorem ratio_high : ratio (roundingOf mantissa exponent).high = (mantissa + 1 / 2) * 2 ^ exponent := by
  rw [roundingOf, ratio_from_quarters]
  push_cast
  ring

theorem contains_iff (r : Rounding) (low : 0 < r.low.2) (high : 0 < r.high.2) (positive : 0 < x.2) :
    r.contains x = true ↔
      if r.closed then ratio r.low ≤ ratio x ∧ ratio x ≤ ratio r.high
      else ratio r.low < ratio x ∧ ratio x < ratio r.high := by
  rw [Rounding.contains]
  split
  · simp only [Bool.and_eq_true, Bool.not_eq_true', ← Bool.not_eq_true, is_below_iff positive low,
      is_below_iff high positive, not_lt]
  · simp only [Bool.and_eq_true, is_below_iff positive high, is_below_iff low positive]

/-- What lies in the rounding of a number rounds to it. -/
theorem rounds_of_contains (mantissaPositive : 0 < mantissa) (positive : 0 < x.2)
    (contains : (roundingOf mantissa exponent).contains x = true) :
    RoundsTo mantissa exponent (ratio x) := by
  have unit : (0 : ℚ) < 2 ^ exponent := by positivity
  have form := (contains_iff _ (low_positive _ _) (high_positive _ _) positive).mp contains
  have within : ratio (roundingOf mantissa exponent).low ≤ ratio x ∧
      ratio x ≤ ratio (roundingOf mantissa exponent).high := by
    cases closed : (roundingOf mantissa exponent).closed with
    | true => simpa [closed] using form
    | false =>
        simp only [closed, Bool.false_eq_true, if_false] at form
        exact ⟨form.1.le, form.2.le⟩
  have inside : mantissa % 2 ≠ 0 → ratio (roundingOf mantissa exponent).low < ratio x ∧
      ratio x < ratio (roundingOf mantissa exponent).high := by
    intro odd
    have opened : (roundingOf mantissa exponent).closed = false := by simp [roundingOf, odd]
    simpa [opened] using form
  rw [ratio_low mantissaPositive, ratio_high] at within inside
  constructor
  · refine le_trans ?_ within.1
    split
    · gcongr
      norm_num
    · exact le_rfl
  · exact within.2
  · intro atEnd
    by_contra odd
    have notFull : ¬ (mantissa = 2 ^ 52 ∧ leastExponent < exponent) := by
      rintro ⟨rfl, -⟩
      exact odd (by decide)
    rw [if_neg notFull] at inside
    rcases atEnd with low | high
    · exact (inside odd).1.ne' low
    · exact (inside odd).2.ne high
  · intro full more
    simpa only [if_pos (And.intro full more)] using within.1

/-- A number strictly between the ends of a rounding belongs to it. -/
theorem contains_of_inside (positive : 0 < x.2)
    (low : ratio (roundingOf mantissa exponent).low < ratio x)
    (high : ratio x < (mantissa + 1 / 2) * 2 ^ exponent) :
    (roundingOf mantissa exponent).contains x = true := by
  rw [← ratio_high] at high
  rw [contains_iff _ (low_positive _ _) (high_positive _ _) positive]
  split
  · exact ⟨low.le, high.le⟩
  · exact ⟨low, high⟩

end Rounding

section Search

variable {r : Rounding} {value : Nat × Nat} {unit magnitude : Int} {hit : Nat}

theorem contains_of_hit (found : hitOnGrid? r value unit = some hit) :
    r.contains (gridPoint hit unit) = true := by
  simp only [hitOnGrid?] at found
  split at found
  · rename_i low high
    split at found
    · exact Option.some.inj found ▸ low
    · exact Option.some.inj found ▸ high
  · rename_i low high
    exact Option.some.inj found ▸ low
  · rename_i low high
    exact Option.some.inj found ▸ high
  · contradiction

/-- One of the neighbours of a value on a grid is a hit where the grid's unit is small enough. -/
theorem hit_of_contains
    (either : r.contains (gridPoint ((onGrid value unit).1 / (onGrid value unit).2) unit) = true ∨
      r.contains (gridPoint ((onGrid value unit).1 / (onGrid value unit).2 + 1) unit) = true) :
    (hitOnGrid? r value unit).isSome = true := by
  simp only [hitOnGrid?]
  split
  · split <;> rfl
  · rfl
  · rfl
  · rename_i low high
    exact absurd either (by simp [low, high])

/-- A search over grids that holds one with a hit ends with a hit. -/
theorem search_hits {fuel count enough : Nat} (first : count ≤ enough) (last : enough < count + fuel)
    (hits : (hitOnGrid? r value (magnitude - enough)).isSome = true) :
    hitOnGrid? r value (searchGrids r value magnitude fuel count).2 =
      some (searchGrids r value magnitude fuel count).1 := by
  induction fuel generalizing count with
  | zero => omega
  | succ fuel ih =>
      rw [searchGrids]
      split
      · rename_i hit found
        exact found
      · rename_i missed
        refine ih ?_ (by omega)
        by_contra
        obtain rfl : count = enough := by omega
        simp [missed] at hits

end Search

section Precision

variable {mantissa numerator denominator : Nat} {exponent : Int}

theorem digit_count_eq (n : Nat) : digitCount n = (Nat.toDigits 10 n).length := by
  rw [digitCount, ← String.length_toList]
  exact congrArg List.length Nat.toList_repr

theorem lt_pow_count (n : Nat) : (n : ℚ) < 10 ^ (digitCount n : Int) := by
  rw [digit_count_eq, zpow_natCast]
  exact_mod_cast Text.lt_pow_length n

theorem pow_count_le {n : Nat} (positive : 0 < n) : (10 : ℚ) ^ ((digitCount n : Int) - 1) ≤ n := by
  have some : 0 < (Nat.toDigits 10 n).length := Nat.length_toDigits_pos
  have cast : ((Nat.toDigits 10 n).length : Int) - 1 = ((Nat.toDigits 10 n).length - 1 : Nat) := by omega
  rw [digit_count_eq, cast, zpow_natCast]
  exact_mod_cast Text.pow_length_le positive

/-- The quotient of a division as a rational number. -/
theorem quotient_le_ratio (numerator : Nat) (positive : 0 < denominator) :
    ((numerator / denominator : Nat) : ℚ) ≤ ratio (numerator, denominator) := by
  rw [ratio, le_div_iff₀ (by exact_mod_cast positive)]
  exact_mod_cast Nat.div_mul_le_self numerator denominator

theorem ratio_lt_quotient_succ (numerator : Nat) (positive : 0 < denominator) :
    ratio (numerator, denominator) < (numerator / denominator + 1 : Nat) := by
  rw [ratio, div_lt_iff₀ (by exact_mod_cast positive)]
  have below := Nat.lt_mul_div_succ numerator positive
  rw [Nat.mul_comm] at below
  exact_mod_cast below

/-- The magnitude of a ratio bounds it from below. -/
theorem pow_magnitude_le (positive : 0 < denominator) (numeratorPositive : 0 < numerator) :
    10 ^ (magnitudeOf numerator denominator - 1) ≤ ratio (numerator, denominator) := by
  have numeratorCast : (0 : ℚ) < numerator := by exact_mod_cast numeratorPositive
  have denominatorCast : (0 : ℚ) < denominator := by exact_mod_cast positive
  simp only [magnitudeOf]
  split
  · rename_i large
    exact (pow_count_le (Nat.div_pos large positive)).trans (quotient_le_ratio numerator positive)
  · generalize counted : digitCount (denominator / numerator) = count
    split
    · have quotient : ratio (denominator, numerator) < (10 : ℚ) ^ (count : Int) := by
        rw [← counted, digit_count_eq, zpow_natCast]
        refine (ratio_lt_quotient_succ denominator numeratorPositive).trans_le ?_
        exact_mod_cast Nat.succ_le_of_lt (Text.lt_pow_length (denominator / numerator))
      have exponent : (1 : Int) - count - 1 = -(count : Int) := by omega
      rw [ratio, div_lt_iff₀ numeratorCast] at quotient
      rw [exponent, zpow_neg, inv_le_iff_one_le_mul₀ (by positivity), ratio, div_mul_eq_mul_div,
        one_le_div denominatorCast, mul_comm]
      exact quotient.le
    · rename_i above
      have exponent : (2 : Int) - count - 1 = 1 - (count : Int) := by omega
      have bound : (10 * denominator : ℚ) ≤ numerator * 10 ^ count := by exact_mod_cast not_lt.mp above
      rw [exponent, zpow_sub₀ (by norm_num), zpow_one, zpow_natCast, ratio,
        div_le_div_iff₀ (by positivity) denominatorCast]
      exact bound

/-- On the grid of seventeen digits one of a number's neighbours rounds to it: the grid's unit is less
than the unit of the mantissa, and less than half of it where the unit below is smaller. -/
theorem hit_at_seventeen (normal : IsNormal mantissa exponent) (positive : 0 < mantissa) :
    (hitOnGrid? (roundingOf mantissa exponent) (fromQuarters (4 * mantissa) exponent)
      (magnitudeOf (fromQuarters (4 * mantissa) exponent).1 (fromQuarters (4 * mantissa) exponent).2 -
        17)).isSome = true := by
  have valuePositive := from_quarters_positive (4 * mantissa) exponent
  have value := ratio_from_quarters (4 * mantissa) exponent
  have numeratorPositive : 0 < (fromQuarters (4 * mantissa) exponent).1 := by
    rw [fromQuarters]
    split
    · exact Nat.mul_pos (by omega) (Nat.two_pow_pos _)
    · omega
  generalize fromQuarters (4 * mantissa) exponent = fraction at *
  have power : (0 : ℚ) < 2 ^ exponent := by positivity
  have valueEq : ratio fraction = mantissa * 2 ^ exponent := by
    rw [value]
    push_cast
    ring
  have magnitude := pow_magnitude_le valuePositive numeratorPositive
  generalize magnitudeOf fraction.1 fraction.2 = places at *
  have unitBound : (10 : ℚ) ^ (places - 17) * 10 ^ 16 ≤ mantissa * 2 ^ exponent := by
    rw [← valueEq, ← zpow_natCast, ← zpow_add₀ (by norm_num)]
    convert magnitude using 2
    omega
  have bounded : (mantissa : ℚ) ≤ 2 ^ 53 := by exact_mod_cast normal.bounded.le
  have onGridPositive := on_grid_positive valuePositive (places - 17)
  have onGridEq := ratio_on_grid fraction (places - 17)
  have down := quotient_le_ratio (onGrid fraction (places - 17)).1 onGridPositive
  have up := ratio_lt_quotient_succ (onGrid fraction (places - 17)).1 onGridPositive
  have unitPositive : (0 : ℚ) < 10 ^ (places - 17) := by positivity
  rw [Prod.mk.eta, onGridEq, valueEq] at down up
  rw [le_div_iff₀ unitPositive] at down
  rw [div_lt_iff₀ unitPositive, Nat.cast_succ] at up
  apply hit_of_contains
  generalize (onGrid fraction (places - 17)).1 / (onGrid fraction (places - 17)).2 = quotient at *
  have unitSmall : (10 : ℚ) ^ (places - 17) < 2 ^ exponent := by nlinarith only [unitBound, bounded, power]
  have unitSmaller : mantissa = 2 ^ 52 → (10 : ℚ) ^ (places - 17) < 2 ^ exponent / 2 := by
    rintro rfl
    push_cast at unitBound
    linarith
  by_cases nearer : mantissa * 2 ^ exponent - quotient * 10 ^ (places - 17) ≤ (10 : ℚ) ^ (places - 17) / 2
  · left
    apply contains_of_inside (grid_point_positive _ _)
    · rw [ratio_low positive, ratio_grid_point]
      split
      · rename_i full
        have := unitSmaller full.1
        linarith
      · linarith
    · rw [ratio_grid_point]
      linarith
  · right
    rw [not_le] at nearer
    apply contains_of_inside (grid_point_positive _ _)
    · rw [ratio_low positive, ratio_grid_point, Nat.cast_succ]
      split <;> linarith
    · rw [ratio_grid_point, Nat.cast_succ]
      linarith

end Precision

theorem pow_le_least : (10 : ℚ) ^ (-400 : Int) ≤ 1 / 2 * 2 ^ leastExponent := by
  have bound : (2 : ℚ) ^ 1075 ≤ 10 ^ 400 := by
    calc (2 : ℚ) ^ 1075 = (2 ^ 43) ^ 25 := pow_mul 2 43 25
      _ ≤ (10 ^ 16) ^ 25 := by
          gcongr
          norm_num
      _ = 10 ^ 400 := (pow_mul 10 16 25).symm
  have half : (1 / 2 : ℚ) * 2 ^ leastExponent = (2 ^ 1075)⁻¹ := by
    rw [one_div, ← zpow_natCast, ← zpow_neg, ← zpow_neg_one, ← zpow_add₀ two_ne_zero]
    rfl
  rw [half, zpow_neg]
  exact inv_anti₀ (by positivity) bound

theorem greatest_lt_pow : (2 : ℚ) ^ 53 * 2 ^ greatestExponent < 10 ^ (400 : Int) := by
  calc (2 : ℚ) ^ 53 * 2 ^ greatestExponent = 2 ^ 53 * 2 ^ (971 : Nat) := rfl
    _ = (2 ^ 64) ^ 16 := by rw [← pow_add, ← pow_mul]
    _ < (10 ^ 25) ^ 16 := by
        gcongr
        norm_num
    _ = 10 ^ (400 : Int) := (pow_mul 10 25 16).symm

section Leading

variable {mantissa digits : Nat} {exponent scale : Int}

theorem digits_positive (positive : 0 < mantissa) (nearest : RoundsTo mantissa exponent (digits * 10 ^ scale)) :
    0 < digits := by
  have mantissaOne : (1 : ℚ) ≤ mantissa := by exact_mod_cast positive
  have above : (0 : ℚ) < digits * 10 ^ scale :=
    lt_of_lt_of_le (mul_pos (by linarith) (by positivity)) nearest.low
  by_contra none
  obtain rfl : digits = 0 := by omega
  simp at above

/-- A finite number is far from the bounds at which a decimal is not computed. -/
theorem leading_bounds (normal : IsNormal mantissa exponent) (positive : 0 < mantissa)
    (nearest : RoundsTo mantissa exponent (digits * 10 ^ scale)) :
    -400 ≤ (digitCount digits : Int) + scale ∧ (digitCount digits : Int) + scale ≤ 400 := by
  have mantissaOne : (1 : ℚ) ≤ mantissa := by exact_mod_cast positive
  have mantissaBound : (mantissa : ℚ) + 1 ≤ 2 ^ 53 := by exact_mod_cast normal.bounded
  have power : (0 : ℚ) < 2 ^ exponent := by positivity
  have scalePositive : (0 : ℚ) < 10 ^ scale := by positivity
  constructor
  · have bound : (10 : ℚ) ^ (-400 : Int) < 10 ^ ((digitCount digits : Int) + scale) := by
      calc (10 : ℚ) ^ (-400 : Int) ≤ 1 / 2 * 2 ^ leastExponent := pow_le_least
        _ ≤ (mantissa - 1 / 2) * 2 ^ exponent := by
            have least : (2 : ℚ) ^ leastExponent ≤ 2 ^ exponent :=
              zpow_le_zpow_right₀ (by norm_num) normal.least
            exact mul_le_mul (by linarith) least (by positivity) (by linarith)
        _ ≤ digits * 10 ^ scale := nearest.low
        _ < 10 ^ (digitCount digits : Int) * 10 ^ scale := by
            gcongr
            exact lt_pow_count digits
        _ = 10 ^ ((digitCount digits : Int) + scale) := (zpow_add₀ (by norm_num) _ _).symm
    exact ((zpow_lt_zpow_iff_right₀ (by norm_num)).mp bound).le
  · have bound : (10 : ℚ) ^ ((digitCount digits : Int) - 1 + scale) < 10 ^ (400 : Int) := by
      calc (10 : ℚ) ^ ((digitCount digits : Int) - 1 + scale)
          = 10 ^ ((digitCount digits : Int) - 1) * 10 ^ scale := zpow_add₀ (by norm_num) _ _
        _ ≤ digits * 10 ^ scale := by
            gcongr
            exact pow_count_le (digits_positive positive nearest)
        _ ≤ (mantissa + 1 / 2) * 2 ^ exponent := nearest.high
        _ ≤ 2 ^ 53 * 2 ^ greatestExponent := by
            have greatest : (2 : ℚ) ^ exponent ≤ 2 ^ greatestExponent :=
              zpow_le_zpow_right₀ (by norm_num) normal.greatest
            exact mul_le_mul (by linarith) greatest power.le (by positivity)
        _ < 10 ^ (400 : Int) := greatest_lt_pow
    have := (zpow_lt_zpow_iff_right₀ (by norm_num)).mp bound
    omega

end Leading

/-- The rational number of a decimal. -/
def Decimal.value (d : Decimal) : ℚ := Text.valueOf d.digits * 10 ^ (d.point - d.digits.length)

/-- There are digits, the first of them no zero, and the point is not far from them. -/
structure Decimal.IsProper (d : Decimal) : Prop where
  digital : ∀ c ∈ d.digits, c.isDigit = true
  leading : ∃ first rest, d.digits = first :: rest ∧ first ≠ '0'
  near : -400 ≤ d.point ∧ d.point ≤ 400

section Shortest

variable {mantissa : Nat} {exponent : Int}

/-- The decimal of a count of units without the zeros at its end. -/
def Decimal.ofCount (count : Nat) (unit : Int) : Decimal where
  digits := ((Nat.toDigits 10 count).reverse.dropWhile (· = '0')).reverse
  point := unit + (Nat.toDigits 10 count).length

theorem value_of_count (count : Nat) (unit : Int) : (Decimal.ofCount count unit).value = count * 10 ^ unit := by
  obtain ⟨zeros, digits⟩ := Text.trailing_zeros (Nat.toDigits 10 count)
  have whole := Text.value_to_digits count
  have length := congrArg List.length digits
  simp only [Decimal.value, Decimal.ofCount]
  generalize ((Nat.toDigits 10 count).reverse.dropWhile (· = '0')).reverse = kept at *
  rw [digits, Text.value_append, Text.value_zeros, Nat.add_zero, List.length_replicate] at whole
  rw [List.length_append, List.length_replicate] at length
  have point : unit + (Nat.toDigits 10 count).length - kept.length = zeros + unit := by omega
  rw [point, zpow_add₀ (by norm_num), ← mul_assoc, zpow_natCast]
  congr 1
  exact_mod_cast whole

theorem of_count_proper {count : Nat} {unit : Int} (positive : 0 < count)
    (near : -400 ≤ (digitCount count : Int) + unit ∧ (digitCount count : Int) + unit ≤ 400) :
    (Decimal.ofCount count unit).IsProper := by
  rw [digit_count_eq, Int.add_comm] at near
  obtain ⟨zeros, digits⟩ := Text.trailing_zeros (Nat.toDigits 10 count)
  have digital : ∀ c ∈ Nat.toDigits 10 count, c.isDigit = true := fun c member =>
    Nat.isDigit_of_mem_toDigits (by decide) (by decide) member
  have leading := Text.leading_digit_ne_zero positive
  have nonempty : Nat.toDigits 10 count ≠ [] := Nat.toDigits_ne_nil
  simp only [Decimal.ofCount]
  generalize ((Nat.toDigits 10 count).reverse.dropWhile (· = '0')).reverse = kept at *
  rw [digits] at digital leading nonempty
  refine ⟨fun c member => digital c (List.mem_append_left _ member), ?_, near⟩
  cases kept with
  | nil =>
      cases zeros with
      | zero => exact absurd rfl nonempty
      | succ zeros => exact absurd rfl (leading _)
  | cons first rest => exact ⟨first, rest, rfl, fun zero => leading (rest ++ _) (by rw [zero]; rfl)⟩

/-- The shortest decimal of a number rounds to the number. -/
theorem shortest_rounds (normal : IsNormal mantissa exponent) (positive : 0 < mantissa) :
    (shortest mantissa exponent).IsProper ∧ RoundsTo mantissa exponent (shortest mantissa exponent).value := by
  have found := search_hits (by decide : 1 ≤ 17) (by decide : 17 < 1 + 17) (hit_at_seventeen normal positive)
  have count : shortest mantissa exponent = Decimal.ofCount
      (searchGrids (roundingOf mantissa exponent) (fromQuarters (4 * mantissa) exponent)
        (magnitudeOf (fromQuarters (4 * mantissa) exponent).1 (fromQuarters (4 * mantissa) exponent).2) 17 1).1
      (searchGrids (roundingOf mantissa exponent) (fromQuarters (4 * mantissa) exponent)
        (magnitudeOf (fromQuarters (4 * mantissa) exponent).1 (fromQuarters (4 * mantissa) exponent).2) 17 1).2 := by
    simp only [shortest, Decimal.ofCount, show ∀ n : Nat, (toString n).toList = Nat.toDigits 10 n from
      fun n => Nat.toList_repr]
  rw [count]
  generalize searchGrids (roundingOf mantissa exponent) (fromQuarters (4 * mantissa) exponent)
    (magnitudeOf (fromQuarters (4 * mantissa) exponent).1 (fromQuarters (4 * mantissa) exponent).2) 17 1 = best at *
  obtain ⟨hit, unit⟩ := best
  have rounds := rounds_of_contains positive (grid_point_positive hit unit) (contains_of_hit found)
  rw [ratio_grid_point] at rounds
  exact ⟨of_count_proper (digits_positive positive rounds) (leading_bounds normal positive rounds),
    by rwa [value_of_count]⟩

end Shortest

section Decimal

variable {mantissa digits : Nat} {exponent scale : Int}

/-- A decimal that is nearest to a number stands for it. -/
theorem of_decimal_nearest (negative : Bool) (normal : IsNormal mantissa exponent)
    (positive : 0 < mantissa) (nearest : RoundsTo mantissa exponent (digits * 10 ^ scale)) :
    ofDecimal negative digits scale = .finite negative mantissa exponent := by
  have digitsPositive := digits_positive positive nearest
  obtain ⟨leadingLow, leadingHigh⟩ := leading_bounds normal positive nearest
  simp only [ofDecimal, digitsPositive.ne', if_false, show (toString digits).length = digitCount digits from rfl,
    not_lt.mpr leadingLow, not_lt.mpr leadingHigh]
  split
  · rename_i nonnegative
    obtain ⟨k, rfl⟩ := Int.eq_ofNat_of_zero_le nonnegative
    apply of_ratio_nearest negative normal positive Nat.one_pos
    convert nearest using 1
    simp [ratio]
  · rename_i below
    obtain ⟨k, rfl⟩ : ∃ k : Nat, scale = -(k : Int) := ⟨(-scale).toNat, by omega⟩
    apply of_ratio_nearest negative normal positive (Nat.pow_pos (by decide))
    convert nearest using 1
    simp [ratio, div_eq_mul_inv]

end Decimal

end LaunchPolicy.Binary64
