import LaunchPolicy.Number.Shortest

/-!
Decimal texts of a chosen precision: with a number of places after the point, in powers of
ten, or in whichever of the two suits the number's size. The last digit is rounded to the
nearest, a tie to the even one.
-/

namespace LaunchPolicy.Binary64

/-- How a number of a chosen precision is written. -/
inductive Precision where
  /-- A number of places after the point. -/
  | places (count : Nat)
  /-- A number of places after the first digit, and an exponent. -/
  | scientific (count : Nat)
  /-- A number of digits in all. -/
  | significant (count : Nat)
deriving DecidableEq, Repr

/-- Digits of a number in units of `10 ^ unit`. -/
private def roundedAt (value : Nat × Nat) (unit : Int) : Nat :=
  if 0 ≤ unit then roundHalfEven value.1 (value.2 * Nat.pow 10 unit.toNat)
  else roundHalfEven (value.1 * Nat.pow 10 (-unit).toNat) value.2

private def pointed (whole places : List Char) (keepsPoint : Bool) : List Char :=
  if places.isEmpty && !keepsPoint then whole else whole ++ '.' :: places

private def padded (width : Nat) (digits : List Char) : List Char :=
  List.replicate (width - digits.length) '0' ++ digits

/-- A number below one has a zero before the point. -/
private def placesText (value : Nat × Nat) (count : Nat) (keepsPoint : Bool) : List Char :=
  let digits := padded (count + 1) (toString (roundedAt value (-(count : Int)))).toList
  pointed (digits.take (digits.length - count)) (digits.drop (digits.length - count)) keepsPoint

/-- The first digits of a number, as many as told, and the power of ten of the first. -/
private def leading (value : Nat × Nat) (count : Nat) : List Char × Int :=
  if value.1 = 0 then (List.replicate count '0', 0)
  else
    let power := magnitudeOf value.1 value.2 - 1
    let digits := (toString (roundedAt value (power - (count - 1)))).toList
    if count < digits.length then (digits.take count, power + 1) else (digits, power)

private def powerText (power : Int) : List Char :=
  (if power < 0 then ['e', '-'] else ['e', '+']) ++ padded 2 (toString power.natAbs).toList

private def withoutZeros (digits : List Char) : List Char := (digits.reverse.dropWhile (· = '0')).reverse

private def scientificText (digits : List Char) (power : Int) (keepsPoint : Bool) : List Char :=
  pointed (digits.take 1) (digits.drop 1) keepsPoint ++ powerText power

private def significantText (value : Nat × Nat) (count : Nat) (keepsZeros : Bool) : List Char :=
  let count := max 1 count
  let (digits, power) := leading value count
  if -4 ≤ power ∧ power < count then
    let places := (count - 1 - power).toNat
    let text := placesText value places keepsZeros
    if keepsZeros ∨ places = 0 then text
    else
      let kept := withoutZeros text
      if kept.getLast? = some '.' then kept.dropLast else kept
  else
    let digits := if keepsZeros then digits else digits.take 1 ++ withoutZeros (digits.drop 1)
    scientificText digits power keepsZeros

/-- The text of the magnitude of a finite number. A full text keeps a point without places
and zeros at the end. -/
def magnitudeText (value : Nat × Nat) (precision : Precision) (full : Bool) : List Char :=
  match precision with
  | .places count => placesText value count full
  | .scientific count =>
      let (digits, power) := leading value (count + 1)
      scientificText digits power full
  | .significant count => significantText value count full

def textWith (x : Binary64) (precision : Precision) (full : Bool) (spelling : Spelling) : List Char :=
  match x with
  | .notANumber => spelling.notANumber.toList
  | .infinite negative => (if negative then ['-'] else []) ++ spelling.infinity.toList
  | .finite negative .. =>
      match x.ratio? with
      | some (_, numerator, denominator) =>
          (if negative then ['-'] else []) ++ magnitudeText (numerator, denominator) precision full
      | none => []

end LaunchPolicy.Binary64
