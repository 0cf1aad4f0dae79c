import LaunchPolicy.Text.Base64
import LaunchPolicy.Value.Basic
import LaunchPolicy.Value.Coerce
import LaunchPolicy.Yaml.Tag

/-!
The scalar that a text stands for under a tag. A form that the tag does not expect is a
fault of the kind that reading a number, a word or a date has.
-/

namespace LaunchPolicy.Yaml

/-! Integers -/

def digitOf? (base : Nat) (c : Char) : Option Nat :=
  let value? := match Text.digitValue? c with
    | some digit => some digit
    | none =>
        if 'a' ≤ c ∧ c ≤ 'z' then some (c.toNat - 87)
        else if 'A' ≤ c ∧ c ≤ 'Z' then some (c.toNat - 55)
        else none
  value?.filter (· < base)

/-- The letters that may stand after a zero in front of the digits of a base. -/
def baseLetters (base : Nat) : List Char :=
  if base = 2 then ['b', 'B'] else if base = 8 then ['o', 'O'] else ['x', 'X']

/-- An integer in a base, whose mark may be repeated in front of the digits. -/
def integerIn? (base : Nat) (cs : List Char) : Option Int := do
  let (negative, body) := Text.splitSign (Text.withoutMargins cs)
  let body := match body with
    | '0' :: letter :: rest => if (baseLetters base).contains letter then rest else body
    | _ => body
  let digits ← Text.digitRun? (digitOf? base) body
  let magnitude : Int := Text.ofDigits base digits
  return if negative then -magnitude else magnitude

def required {α : Type} : Option α → Except Fault α
  | some a => .ok a
  | none => .error .badValue

def splitColons (cs : List Char) : List (List Char) :=
  cs.foldr (fun c parts =>
    match parts with
    | part :: rest => if c = ':' then [] :: part :: rest else (c :: part) :: rest
    | [] => [[c]]) [[]]

/-- Sign and the rest of a numeral that is not empty. -/
def splitSignOf (cs : List Char) : Except Fault (Bool × List Char) :=
  match cs with
  | [] => .error .emptyText
  | '-' :: rest => .ok (true, rest)
  | '+' :: rest => .ok (false, rest)
  | cs => .ok (false, cs)

/-- The magnitude of a numeral: binary, hexadecimal, octal after a zero, in sixtieths with
colons, or decimal. -/
def magnitude (cs : List Char) : Except Fault Int :=
  match cs with
  | [] => .error .emptyText
  | ['0'] => .ok 0
  | '0' :: 'b' :: digits => required (integerIn? 2 digits)
  | '0' :: 'x' :: digits => required (integerIn? 16 digits)
  | '0' :: _ => required (integerIn? 8 cs)
  | cs =>
      if cs.contains ':' then do
        let parts ← (splitColons cs).mapM fun part => required (Text.integer? part)
        return parts.foldl (fun n part => n * 60 + part) 0
      else required (Text.integer? cs)

def integerOf (text : String) : Except Fault Int := do
  let (negative, body) ← splitSignOf (text.toList.filter (· ≠ '_'))
  let n ← magnitude body
  return if negative then -n else n

/-! Floating point numbers -/

/-- A number with an optional sign, in digits of any script or one of the words for the numbers
without digits. -/
def floating? (cs : List Char) : Option Binary64 :=
  let ascii := (Text.withoutMargins cs).map fun c =>
    match Text.digitValue? c with
    | some digit => Char.ofNat (48 + digit)
    | none => c
  let (negative, body) := Text.splitSign ascii
  let word := (String.ofList body).toLower
  if word = "inf" || word = "infinity" then some (.infinite negative)
  else if word = "nan" then some .notANumber
  else Text.unsignedDecimal? negative body

/-- The sum of parts that count sixty times as much as the next. -/
def sumSixtieths (parts : List Binary64) : Binary64 :=
  (parts.reverse.foldl (fun (sum, weight) part =>
    (sum.add (part.mul (Binary64.ofInt weight)), weight * 60)) (Binary64.zero false, 1)).1

def floatOf (text : String) : Except Fault Binary64 := do
  let cs := (text.toList.filter (· ≠ '_')).map Char.toLower
  let (negative, body) ← splitSignOf cs
  let signed (x : Binary64) : Binary64 := if negative then x.negate else x
  if body = ".inf".toList then return .infinite negative
  else if body = ".nan".toList then return .notANumber
  else if body.contains ':' then
    return signed (sumSixtieths (← (splitColons body).mapM fun part => required (floating? part)))
  else return signed (← required (floating? body))

/-! Dates, words and octets -/

/-- The first six digits of a fraction of a second, as microseconds. -/
def microseconds (fraction : List Nat) : Nat :=
  Text.ofDigits 10 ((fraction ++ List.replicate 6 0).take 6)

def momentOf? (date : Date) (clock : Form.Clock) : Option Moment :=
  Moment.of? date clock.hour clock.minute clock.second (microseconds clock.fraction)
    (clock.offset.map (· * 60))

/-- A form that is no timestamp has no parts to ask for; parts that are no date have no
meaning. -/
def timestampOf (text : String) : Except Fault Scalar := do
  match Form.timestamp? (formOf text.toList) with
  | none => throw .noFields
  | some parts =>
      let date ← required (Date.of? parts.year parts.month parts.day)
      match parts.clock with
      | none => return .date date
      | some clock => return .moment (← required (momentOf? date clock))

def booleanOf (text : String) : Except Fault Bool :=
  match text.toLower with
  | "yes" | "true" | "on" => .ok true
  | "no" | "false" | "off" => .ok false
  | word => .error (.missingField word)

def octetsOf (text : String) : Except Fault (List UInt8) :=
  match Text.Base64.decode text.toList with
  | .ok octets => .ok octets
  | .error _ => .error .notYaml

/-- Tags of scalars; a node with another tag is no scalar. Only texts have a place for halves of pairs. -/
def scalarOf? (tag : Tag) (text : Text) : Option (Except Fault Scalar) :=
  match tag with
  | .null => some (.ok .null)
  | .bool => some ((booleanOf text.outline).map .bool)
  | .int => some ((integerOf text.outline).map .int)
  | .float => some ((floatOf text.outline).map .float)
  | .binary => some ((octetsOf text.outline).map .bytes)
  | .timestamp => some (timestampOf text.outline)
  | .str => some (.ok (.text text))
  | _ => none

end LaunchPolicy.Yaml
