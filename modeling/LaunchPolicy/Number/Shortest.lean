import LaunchPolicy.Number.Binary64

/-!
The shortest decimal text of a number: the fewest digits that round to it, of those the
nearest, and of two equally near the even one. Up to sixteen digits before the point and
three zeros after it are written out; beyond them an exponent of at least two digits follows.
-/

namespace LaunchPolicy.Binary64

/-- Digits `0.d₁d₂… · 10 ^ point`, without trailing zeros. -/
structure Decimal where
  digits : List Char
  point : Int
deriving DecidableEq, Repr

def digitCount (n : Nat) : Nat := (toString n).length

def isBelow (a b : Nat × Nat) : Bool := decide (a.1 * b.2 < b.1 * a.2)

/-- `k` with `10 ^ (k - 1) ≤ numerator / denominator < 10 ^ k`. -/
def magnitudeOf (numerator denominator : Nat) : Int :=
  if denominator ≤ numerator then (digitCount (numerator / denominator) : Int)
  else
    let below := digitCount (denominator / numerator)
    if numerator * Nat.pow 10 below < 10 * denominator then 1 - (below : Int) else 2 - (below : Int)

/-- The reals that round to `mantissa · 2 ^ exponent`, as ends and whether these belong. -/
structure Rounding where
  low : Nat × Nat
  high : Nat × Nat
  closed : Bool

def fromQuarters (quarters : Nat) (exponent : Int) : Nat × Nat :=
  if 2 ≤ exponent then (quarters * Nat.pow 2 (exponent - 2).toNat, 1)
  else (quarters, Nat.pow 2 (2 - exponent).toNat)

def roundingOf (mantissa : Nat) (exponent : Int) : Rounding where
  low :=
    if mantissa = Nat.pow 2 52 ∧ leastExponent < exponent then fromQuarters (4 * mantissa - 1) exponent
    else fromQuarters (4 * mantissa - 2) exponent
  high := fromQuarters (4 * mantissa + 2) exponent
  closed := mantissa % 2 = 0

def Rounding.contains (r : Rounding) (x : Nat × Nat) : Bool :=
  if r.closed then !isBelow x r.low && !isBelow r.high x else isBelow r.low x && isBelow x r.high

/-- The value in units of `10 ^ unit`. -/
def onGrid (value : Nat × Nat) (unit : Int) : Nat × Nat :=
  if 0 ≤ unit then (value.1, value.2 * Nat.pow 10 unit.toNat)
  else (value.1 * Nat.pow 10 (-unit).toNat, value.2)

def gridPoint (count : Nat) (unit : Int) : Nat × Nat :=
  if 0 ≤ unit then (count * Nat.pow 10 unit.toNat, 1) else (count, Nat.pow 10 (-unit).toNat)

/-- The nearer of the value's two neighbours on the grid that round to it, at equal distance
the even one. -/
def hitOnGrid? (r : Rounding) (value : Nat × Nat) (unit : Int) : Option Nat :=
  let (scaled, one) := onGrid value unit
  let down := scaled / one
  let lowHit := r.contains (gridPoint down unit)
  let highHit := r.contains (gridPoint (down + 1) unit)
  match lowHit, highHit with
  | true, true =>
      let doubled := 2 * (scaled % one)
      if doubled < one ∨ (doubled = one ∧ down % 2 = 0) then some down else some (down + 1)
  | true, false => some down
  | false, true => some (down + 1)
  | false, false => none

def searchGrids (r : Rounding) (value : Nat × Nat) (magnitude : Int) :
    Nat → Nat → Nat × Int
  | 0, count => (0, magnitude - count)
  | fuel + 1, count =>
      match hitOnGrid? r value (magnitude - count) with
      | some hit => (hit, magnitude - count)
      | none => searchGrids r value magnitude fuel (count + 1)

/-- The shortest decimal of `mantissa · 2 ^ exponent`, for a positive mantissa. -/
def shortest (mantissa : Nat) (exponent : Int) : Decimal :=
  let value := fromQuarters (4 * mantissa) exponent
  let r := roundingOf mantissa exponent
  let (hit, unit) := searchGrids r value (magnitudeOf value.1 value.2) 17 1
  let digits := (toString hit).toList
  { digits := (digits.reverse.dropWhile (· = '0')).reverse
    point := unit + digits.length }

def exponentText (e : Int) : List Char :=
  let digits := (toString e.natAbs).toList
  (if e < 0 then ['e', '-'] else ['e', '+']) ++ (if digits.length < 2 then '0' :: digits else digits)

/-- Positional between `10 ^ -4` and `10 ^ 16`, with an exponent outside. -/
def Decimal.layout (d : Decimal) : List Char :=
  if -4 < d.point ∧ d.point ≤ 16 then
    if d.point ≤ 0 then
      ['0', '.'] ++ List.replicate (-d.point).toNat '0' ++ d.digits
    else
      let whole := d.point.toNat
      if d.digits.length ≤ whole then
        d.digits ++ List.replicate (whole - d.digits.length) '0' ++ ['.', '0']
      else d.digits.take whole ++ '.' :: d.digits.drop whole
  else
    match d.digits with
    | [] => []
    | [lead] => lead :: exponentText (d.point - 1)
    | lead :: rest => lead :: '.' :: rest ++ exponentText (d.point - 1)

/-- The spellings of the numbers that have no digits. -/
structure Spelling where
  infinity : String
  notANumber : String

/-- The decimal text of a number, with the given spelling where it has no digits. -/
def text (x : Binary64) (spelling : Spelling) : String :=
  let sign (negative : Bool) (body : List Char) := String.ofList (if negative then '-' :: body else body)
  match x with
  | .notANumber => spelling.notANumber
  | .infinite negative => sign negative spelling.infinity.toList
  | .finite negative mantissa exponent =>
      if mantissa = 0 then sign negative ['0', '.', '0']
      else sign negative (shortest mantissa exponent).layout

end LaunchPolicy.Binary64
