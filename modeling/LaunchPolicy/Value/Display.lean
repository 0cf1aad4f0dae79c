import LaunchPolicy.Number.Shortest
import LaunchPolicy.Text.Numeral
import LaunchPolicy.Text.Printable
import LaunchPolicy.Value.Basic

/-!
The text of a value in messages. `Value.quoted` shows a value so that its type can be
told: texts stand in quotes with unprintable characters escaped, collections in their
brackets. `Value.plain` is the same except that texts, dates and moments stand as they are.
-/

namespace LaunchPolicy

def hexDigit (n : Nat) : Char := if n < 10 then Char.ofNat (48 + n) else Char.ofNat (87 + n)

/-- The last `width` hexadecimal digits of a number, in lower case. -/
def hexPadded : Nat → Nat → List Char
  | 0, _ => []
  | width + 1, n => hexPadded width (n / 16) ++ [hexDigit (n % 16)]

namespace Quotation

/-- Single quotes, unless the text holds a single quote and no double quote. -/
def markFor (cs : List Char) : Char := if cs.contains '\'' && !cs.contains '"' then '"' else '\''

def escapeChar (mark c : Char) : List Char :=
  if c = mark ∨ c = '\\' then ['\\', c]
  else if c = '\n' then ['\\', 'n']
  else if c = '\r' then ['\\', 'r']
  else if c = '\t' then ['\\', 't']
  else if Text.isPrintable c then [c]
  else if c.toNat < 0x100 then '\\' :: 'x' :: hexPadded 2 c.toNat
  else if c.toNat < 0x10000 then '\\' :: 'u' :: hexPadded 4 c.toNat
  else '\\' :: 'U' :: hexPadded 8 c.toNat

def escapePoint (mark : Char) : Point → List Char
  | .char c => escapeChar mark c
  | .half h => '\\' :: 'u' :: hexPadded 4 h.code

def text (points : List Point) : List Char :=
  let mark := markFor (points.map Point.outline)
  mark :: points.flatMap (escapePoint mark) ++ [mark]

def escapeOctet (mark : Char) (octet : UInt8) : List Char :=
  let c := Char.ofNat octet.toNat
  if c.toNat < 0x80 then escapeChar mark c else '\\' :: 'x' :: hexPadded 2 c.toNat

def octets (bytes : List UInt8) : List Char :=
  let mark := markFor (bytes.map fun octet => Char.ofNat octet.toNat)
  'b' :: mark :: bytes.flatMap (escapeOctet mark) ++ [mark]

end Quotation

/-- The text with numbers in the places of halves, which no stream of characters can hold. -/
def Text.streamed : Text → String
  | .string s => s
  | .broken b => String.ofList (b.points.flatMap fun point =>
      match point with
      | .char c => [c]
      | .half h => '\\' :: 'u' :: hexPadded 4 h.code)

/-- Spelling of the numbers without digits in messages. -/
def messageSpelling : Binary64.Spelling := ⟨"inf", "nan"⟩

private def offsetDisplay (seconds : Int) : String :=
  if seconds = 0 then "datetime.timezone.utc"
  else if 0 < seconds then "datetime.timezone(datetime.timedelta(seconds=" ++ toString seconds ++ "))"
  else "datetime.timezone(datetime.timedelta(days=-1, seconds=" ++ toString (seconds + 86400) ++ "))"

private def dateNumbers (d : Date) : List String := [toString d.year, toString d.month, toString d.day]

private def momentDisplay (m : Moment) : String :=
  let clock := [toString m.hour, toString m.minute] ++
    (if m.microsecond ≠ 0 then [toString m.second, toString m.microsecond]
     else if m.second ≠ 0 then [toString m.second] else [])
  let zone := match m.offset with
    | some seconds => ["tzinfo=" ++ offsetDisplay seconds]
    | none => []
  "datetime.datetime(" ++ ", ".intercalate (dateNumbers m.date ++ clock ++ zone) ++ ")"

namespace Scalar

def quoted : Scalar → String
  | .null => "None"
  | .bool true => "True"
  | .bool false => "False"
  | .int n => toString n
  | .float x => x.text messageSpelling
  | .text s => String.ofList (Quotation.text s.points)
  | .bytes octets => String.ofList (Quotation.octets octets)
  | .date d => "datetime.date(" ++ ", ".intercalate (dateNumbers d) ++ ")"
  | .moment m => momentDisplay m

def plain : Scalar → Text
  | .text s => s
  | .date d => d.text
  | .moment m => m.text
  | s => s.quoted

/-- All but integers whose numerals are too long to be written. -/
def hasText : Scalar → Bool
  | .int n => (Nat.toDigits 10 n.natAbs).length ≤ Text.longestNumeral
  | _ => true

end Scalar

namespace Value

mutual

def quoted : Value → String
  | .scalar s => s.quoted
  | .list items => "[" ++ ", ".intercalate (quotedItems items) ++ "]"
  | .pair a b => "(" ++ a.quoted ++ ", " ++ b.quoted ++ ")"
  | .set [] => "set()"
  | .set members => "\x7b" ++ ", ".intercalate (members.map Scalar.quoted) ++ "\x7d"
  | .map fields => "\x7b" ++ ", ".intercalate (quotedFields fields) ++ "\x7d"

def quotedItems : List Value → List String
  | [] => []
  | item :: items => item.quoted :: quotedItems items

def quotedFields : List (Scalar × Value) → List String
  | [] => []
  | (key, value) :: fields => (key.quoted ++ ": " ++ value.quoted) :: quotedFields fields

end

def plain : Value → Text
  | .scalar s => s.plain
  | v => v.quoted

end Value

end LaunchPolicy
