/-!
Binary floating point numbers of 64 bits as exact values. A finite number is
`± mantissa · 2 ^ exponent` in its one canonical form: the mantissa is below
`2 ^ 53`, and at least `2 ^ 52` unless the exponent is the least one.
Rounding takes an exact ratio to the nearest number, a tie to the even mantissa.
-/

namespace LaunchPolicy

inductive Binary64 where
  | finite (negative : Bool) (mantissa : Nat) (exponent : Int)
  | infinite (negative : Bool)
  | notANumber
deriving DecidableEq, Repr

namespace Binary64

def leastExponent : Int := -1074
def greatestExponent : Int := 971

def zero (negative : Bool) : Binary64 := .finite negative 0 leastExponent

instance : Inhabited Binary64 := ⟨zero false⟩

/-- Division to the nearest natural number, a tie to the even one. -/
def roundHalfEven (numerator denominator : Nat) : Nat :=
  let quotient := numerator / denominator
  let twice := 2 * (numerator % denominator)
  if twice < denominator then quotient
  else if denominator < twice then quotient + 1
  else quotient + quotient % 2

/-- The ratio `numerator / denominator` in units of `2 ^ exponent`. -/
def inUnits (numerator denominator : Nat) (exponent : Int) : Nat × Nat :=
  if 0 ≤ exponent then (numerator, denominator * Nat.pow 2 exponent.toNat)
  else (numerator * Nat.pow 2 (-exponent).toNat, denominator)

/-- The exponent at which the ratio has a mantissa of 53 bits, or the least one. -/
def exponentOf (numerator denominator : Nat) : Int :=
  let estimate : Int := (numerator.log2 : Int) - (denominator.log2 : Int) - 52
  let (scaled, unit) := inUnits numerator denominator estimate
  max leastExponent (if scaled < Nat.pow 2 52 * unit then estimate - 1 else estimate)

/-- Carries a mantissa that rounding pushed to 54 bits, and overflows to infinity. -/
def carry (negative : Bool) (mantissa : Nat) (exponent : Int) : Binary64 :=
  let (mantissa, exponent) :=
    if mantissa = Nat.pow 2 53 then (Nat.pow 2 52, exponent + 1) else (mantissa, exponent)
  if greatestExponent < exponent then .infinite negative else .finite negative mantissa exponent

/-- The number nearest to `± numerator / denominator`; the denominator is positive. -/
def ofRatio (negative : Bool) (numerator denominator : Nat) : Binary64 :=
  if numerator = 0 then zero negative
  else
    let exponent := exponentOf numerator denominator
    let (scaled, unit) := inUnits numerator denominator exponent
    carry negative (roundHalfEven scaled unit) exponent

def ofInt (n : Int) : Binary64 := ofRatio (n < 0) n.natAbs 1

/-- The number nearest to `± digits · 10 ^ scale`. Far outside the range of finite
numbers the power of ten is not computed. -/
def ofDecimal (negative : Bool) (digits : Nat) (scale : Int) : Binary64 :=
  if digits = 0 then zero negative
  else
    let leading : Int := ((toString digits).length : Int) + scale
    if 400 < leading then .infinite negative
    else if leading < -400 then zero negative
    else if 0 ≤ scale then ofRatio negative (digits * Nat.pow 10 scale.toNat) 1
    else ofRatio negative digits (Nat.pow 10 (-scale).toNat)

/-- Sign, numerator and denominator of a finite number. -/
def ratio? : Binary64 → Option (Bool × Nat × Nat)
  | .finite negative mantissa exponent =>
      if 0 ≤ exponent then some (negative, mantissa * Nat.pow 2 exponent.toNat, 1)
      else some (negative, mantissa, Nat.pow 2 (-exponent).toNat)
  | _ => none

def isZero : Binary64 → Bool
  | .finite _ mantissa _ => mantissa == 0
  | _ => false

def negate : Binary64 → Binary64
  | .finite negative mantissa exponent => .finite (!negative) mantissa exponent
  | .infinite negative => .infinite (!negative)
  | .notANumber => .notANumber

/-- The integral part, toward zero, of a finite number. -/
def truncate? (x : Binary64) : Option Int :=
  x.ratio?.map fun (negative, numerator, denominator) =>
    let magnitude : Int := (numerator / denominator : Nat)
    if negative then -magnitude else magnitude

/-- The integer that a number equals, if it is one. -/
def toInt? (x : Binary64) : Option Int :=
  match x.ratio? with
  | some (_, numerator, denominator) => if numerator % denominator = 0 then x.truncate? else none
  | none => none

private def ofSigned (numerator : Int) (denominator : Nat) : Binary64 :=
  ofRatio (numerator < 0) numerator.natAbs denominator

private def signed (negative : Bool) (magnitude : Nat) : Int :=
  if negative then -(magnitude : Int) else magnitude

/-- The exact sum, rounded once. -/
def add : Binary64 → Binary64 → Binary64
  | .notANumber, _ | _, .notANumber => .notANumber
  | .infinite a, .infinite b => if a = b then .infinite a else .notANumber
  | .infinite a, _ | _, .infinite a => .infinite a
  | x@(.finite a _ _), y@(.finite b _ _) =>
      match x.ratio?, y.ratio? with
      | some (_, n, d), some (_, m, e) =>
          if n = 0 ∧ m = 0 then zero (a && b)
          else ofSigned (signed a n * e + signed b m * d) (d * e)
      | _, _ => .notANumber

/-- The exact product, rounded once. -/
def mul : Binary64 → Binary64 → Binary64
  | .notANumber, _ | _, .notANumber => .notANumber
  | .infinite a, .infinite b => .infinite (a != b)
  | .infinite a, y@(.finite b _ _) | y@(.finite b _ _), .infinite a =>
      if y.isZero then .notANumber else .infinite (a != b)
  | x@(.finite a _ _), y@(.finite b _ _) =>
      match x.ratio?, y.ratio? with
      | some (_, n, d), some (_, m, e) => ofRatio (a != b) (n * m) (d * e)
      | _, _ => .notANumber

end Binary64

end LaunchPolicy
