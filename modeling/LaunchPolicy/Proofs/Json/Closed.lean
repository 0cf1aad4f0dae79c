import LaunchPolicy.Proofs.Json.RoundTrip
import LaunchPolicy.Proofs.Outcome
import LaunchPolicy.Value.Coerce

/-!
What is taken out of JSON values. Their fields and items are JSON values, and so are the integers
that are read from their scalars, which have numerals if the integers among them have.
-/

namespace LaunchPolicy

open Outcome (bind_ok_iff)

/-- The integer that a finite number is cut to has a numeral. -/
theorem Binary64.truncated_has_numeral {x : Binary64} (canonical : x.Canonical) {n : Int}
    (truncated : x.truncate? = some n) : Json.HasNumeral n := by
  obtain ⟨⟨negative, numerator, denominator⟩, ratio, same⟩ := Option.map_eq_some_iff.mp truncated
  have magnitude : n.natAbs = numerator / denominator := by
    have same : (if negative then -((numerator / denominator : Nat) : Int)
        else (numerator / denominator : Nat)) = n := same
    split at same
    · rw [← same, Int.natAbs_neg, Int.natAbs_natCast]
    · rw [← same, Int.natAbs_natCast]
  have bounded : numerator < 2 ^ (53 + greatestExponent.toNat) := by
    cases x with
    | finite sign mantissa exponent =>
        rw [ratio?] at ratio
        split at ratio
        · obtain ⟨-, rfl, -⟩ : _ ∧ mantissa * 2 ^ exponent.toNat = numerator ∧ _ := by simpa using ratio
          calc mantissa * 2 ^ exponent.toNat
              < 2 ^ 53 * 2 ^ exponent.toNat :=
                Nat.mul_lt_mul_of_pos_right canonical.bounded (Nat.pow_pos (by decide))
            _ ≤ 2 ^ 53 * 2 ^ greatestExponent.toNat :=
                Nat.mul_le_mul_left _ (Nat.pow_le_pow_right (by decide) (Int.toNat_le_toNat canonical.greatest))
            _ = 2 ^ (53 + greatestExponent.toNat) := by rw [← Nat.pow_add]
        · obtain ⟨-, rfl, -⟩ : _ ∧ mantissa = numerator ∧ _ := by simpa using ratio
          exact canonical.bounded.trans_le (Nat.pow_le_pow_right (by decide) (Nat.le_add_right _ _))
    | _ => contradiction
  rw [Json.has_numeral_iff, magnitude]
  calc numerator / denominator
      ≤ numerator := Nat.div_le_self _ _
    _ < 2 ^ (53 + greatestExponent.toNat) := bounded
    _ ≤ 10 ^ (53 + greatestExponent.toNat) := Nat.pow_le_pow_left (by decide) _
    _ ≤ 10 ^ Text.longestNumeral := Nat.pow_le_pow_right (by decide) (by decide)

namespace Scalar

/-- Kinds of JSON scalars to which all strings, points and truths belong, and all integers that are read
from scalars of the kind. -/
structure IsClosed (kind : Scalar → Prop) : Prop where
  noBytes : ∀ octets, ¬ kind (.bytes octets)
  null : kind .null
  truth : ∀ b, kind (.bool b)
  string : ∀ s : String, kind (.text s)
  point : ∀ point, kind (.text (.ofPoints [point]))
  integer : ∀ s n, kind s → s.integer = .ok n → kind (.int n)

theorem IsClosed.zero {kind : Scalar → Prop} (closed : IsClosed kind) : kind (.int 0) :=
  closed.integer (.bool false) 0 (closed.truth false) rfl

theorem formed_closed : IsClosed Formed where
  noBytes := fun _ formed => formed
  null := trivial
  truth := fun _ => trivial
  string := fun _ => trivial
  point := fun _ => trivial
  integer := fun _ _ _ _ => trivial

theorem writable_closed : IsClosed Json.Writable where
  noBytes := fun _ writable => writable
  null := trivial
  truth := fun _ => trivial
  string := fun _ => trivial
  point := fun _ => trivial
  integer := by
    intro s n writable read
    cases s with
    | bool b =>
        obtain rfl := Except.ok.inj read
        cases b with
        | true => exact (by decide : Json.HasNumeral 1)
        | false => exact Json.has_numeral_zero
    | int m =>
        obtain rfl := Except.ok.inj read
        exact writable
    | float x =>
        cases truncated : x.truncate? with
        | none => cases x <;> simp [integer, truncated] at read
        | some m =>
            have canonical : x.Canonical := writable.1
            cases x with
            | finite negative mantissa exponent =>
                simp only [integer, truncated, Except.ok.injEq] at read
                exact read ▸ Binary64.truncated_has_numeral canonical truncated
            | _ => contradiction
    | text s =>
        rw [integer, integerOfNumeral] at read
        split at read
        · rename_i m numeral
          obtain rfl := Except.ok.inj read
          exact (Json.has_numeral_iff m).mpr (Text.integer_lt_pow numeral)
        · contradiction
    | null => contradiction
    | bytes octets => exact writable.elim
    | date d => exact writable.elim
    | moment m => exact writable.elim

theorem legible_closed : IsClosed Json.Legible where
  noBytes := fun _ legible => legible.1
  null := ⟨trivial, trivial⟩
  truth := fun _ => ⟨trivial, trivial⟩
  string := Json.string_legible
  point := fun _ => ⟨trivial, by simp [Json.Unjoined, Json.Apart]⟩
  integer := fun s n legible read => ⟨writable_closed.integer s n legible.1 read, trivial⟩

theorem read_closed : IsClosed IsRead where
  noBytes := fun _ isRead => isRead
  null := trivial
  truth := fun _ => trivial
  string := Json.string_apart
  point := fun _ => by simp [IsRead, Json.Apart]
  integer := by
    intro s n isRead read
    refine writable_closed.integer s n ?_ read
    cases s with
    | float x =>
        refine ⟨isRead, ?_⟩
        rintro rfl
        contradiction
    | _ => first | exact isRead | trivial

end Scalar

namespace Value

variable {kind : Scalar → Prop} {v found : Value}

theorem Consists.field (consists : v.Consists kind) {name : Text} {default : Value}
    (standard : default.Consists kind) (read : v.field name default = .ok found) : found.Consists kind := by
  cases v with
  | map fields =>
      obtain rfl := Except.ok.inj read
      cases here : Fields.get? fields (.text name) with
      | none => exact standard
      | some value => exact consists.get here
  | _ => contradiction

theorem Consists.get_field (consists : v.Consists kind) {name : Text} (here : v.get? name = some found) :
    found.Consists kind := by
  cases v with
  | map fields => exact consists.get here
  | _ => contradiction

theorem Consists.items (closed : Scalar.IsClosed kind) (consists : v.Consists kind) {items : List Value}
    (read : v.items = .ok items) : ∀ item ∈ items, item.Consists kind := by
  cases consists with
  | scalar member =>
      rename_i s
      cases s with
      | text s =>
          obtain rfl := Except.ok.inj read
          intro item within
          obtain ⟨c, -, rfl⟩ := List.mem_map.mp within
          exact .scalar (closed.point _)
      | bytes octets => exact absurd member (closed.noBytes octets)
      | _ => contradiction
  | list each =>
      obtain rfl := Except.ok.inj read
      exact each
  | object distinct keys each =>
      obtain rfl := Except.ok.inj read
      intro item within
      obtain ⟨field, member, rfl⟩ := List.mem_map.mp within
      obtain ⟨named, given, rfl⟩ := List.mem_map.mp member
      exact .scalar (keys named given)

/-- A field that is a text unless something else is written. -/
theorem Consists.text_field (closed : Scalar.IsClosed kind) (consists : v.Consists kind) {name : Text}
    {standard : String} (read : v.field name (.text standard) = .ok found) : found.Consists kind :=
  consists.field (.scalar (closed.string standard)) read

/-- The items of a field that is empty unless something is written. -/
theorem Consists.listed_field (closed : Scalar.IsClosed kind) (consists : v.Consists kind) {name : Text}
    {items : List Value} (given : v.field name (.list []) = .ok found) (read : found.items = .ok items) :
    (Value.list items).Consists kind :=
  .list ((consists.field (.list (by simp)) given).items closed read)

/-- A text is its own plain text; of everything else it is a string. -/
theorem Consists.plain (closed : Scalar.IsClosed kind) (consists : v.Consists kind) : kind (.text v.plain) := by
  cases consists with
  | scalar member =>
      rename_i s
      cases s with
      | text t => exact member
      | _ => exact closed.string _
  | list each => exact closed.string _
  | object distinct keys each => exact closed.string _

theorem Consists.integer (closed : Scalar.IsClosed kind) (consists : v.Consists kind) {n : Int}
    (read : v.integer = .ok n) : kind (.int n) := by
  cases consists with
  | scalar member => exact closed.integer _ n member read
  | _ => contradiction

end Value

end LaunchPolicy
