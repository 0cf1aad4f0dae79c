import LaunchPolicy.Json.Writer
import LaunchPolicy.Text.Numeral

/-!
JSON text read as a value. Numbers with a fraction or an exponent are binary, all others
are integers of any size; the three spellings of numbers without digits are accepted. Of
a repeated key the last value counts, in the place of the first. Collections within each other
are read down to a depth.
-/

namespace LaunchPolicy.Json

def isSpace (c : Char) : Bool := c = ' ' || c = '\t' || c = '\n' || c = '\r'

def skipSpace (cs : List Char) : List Char := cs.dropWhile isSpace

def hexValue? (c : Char) : Option Nat :=
  if '0' ≤ c ∧ c ≤ '9' then some (c.toNat - 48)
  else if 'a' ≤ c ∧ c ≤ 'f' then some (c.toNat - 87)
  else if 'A' ≤ c ∧ c ≤ 'F' then some (c.toNat - 55)
  else none

/-- The UTF-16 unit of four hexadecimal digits. -/
def readUnit : List Char → Except Fault (Nat × List Char)
  | a :: b :: c :: d :: rest =>
      match hexValue? a, hexValue? b, hexValue? c, hexValue? d with
      | some a, some b, some c, some d => .ok (((a * 16 + b) * 16 + c) * 16 + d, rest)
      | _, _, _, _ => .error .notJson
  | _ => .error .notJson

/-- The point of a `\u` escape, a pair of surrogates being one character. -/
def readEscapedUnits (cs : List Char) : Except Fault (Point × List Char) := do
  let (unit, rest) ← readUnit cs
  if 0xD800 ≤ unit ∧ unit < 0xDC00 then
    match rest with
    | '\\' :: 'u' :: after =>
        let (second, afterPair) ← readUnit after
        if 0xDC00 ≤ second ∧ second < 0xE000 then
          return (Char.ofNat (0x10000 + (unit - 0xD800) * 0x400 + (second - 0xDC00)), afterPair)
        else return (Point.ofCode unit, rest)
    | _ => return (Point.ofCode unit, rest)
  else return (Point.ofCode unit, rest)

def simpleEscape? : Char → Option Char
  | '"' => some '"'
  | '\\' => some '\\'
  | '/' => some '/'
  | 'b' => some '\x08'
  | 'f' => some '\x0c'
  | 'n' => some '\n'
  | 'r' => some '\r'
  | 't' => some '\t'
  | _ => none

/-- The points up to the closing quote. -/
def readText : Nat → List Char → Except Fault (List Point × List Char)
  | 0, _ => .error .notJson
  | _ + 1, [] => .error .notJson
  | fuel + 1, c :: rest =>
      if c = '"' then .ok ([], rest)
      else if c = '\\' then
        match rest with
        | 'u' :: digits => do
            let (point, afterEscape) ← readEscapedUnits digits
            let (points, after) ← readText fuel afterEscape
            return (point :: points, after)
        | escape :: afterEscape =>
            match simpleEscape? escape with
            | some char => do
                let (points, after) ← readText fuel afterEscape
                return (.char char :: points, after)
            | none => .error .notJson
        | [] => .error .notJson
      else if c.toNat < 0x20 then .error .notJson
      else do
        let (points, after) ← readText fuel rest
        return (.char c :: points, after)

def digitsOf (cs : List Char) : List Char × List Char := (cs.takeWhile Char.isDigit, cs.dropWhile Char.isDigit)

/-- Fraction digits after a point, if there are any. -/
def readFraction (cs : List Char) : List Char × List Char :=
  match cs with
  | '.' :: rest => match digitsOf rest with
      | ([], _) => ([], cs)
      | fraction => fraction
  | _ => ([], cs)

/-- Exponent text after its mark, if it has digits. -/
def readExponent (cs : List Char) : List Char × List Char :=
  match cs with
  | mark :: rest =>
      if mark = 'e' ∨ mark = 'E' then
        let (sign, body) := match rest with
          | '+' :: body => (['+'], body)
          | '-' :: body => (['-'], body)
          | _ => ([], rest)
        match digitsOf body with
        | ([], _) => ([], cs)
        | (digits, after) => ('e' :: sign ++ digits, after)
      else ([], cs)
  | [] => ([], cs)

/-- Digits before a point. A zero in front of others is a number by itself. -/
def wholePart : List Char → List Char × List Char
  | '0' :: rest => (['0'], rest)
  | cs => digitsOf cs

def readNumber (negative : Bool) (cs : List Char) : Except Fault (Value × List Char) :=
  let (whole, afterWhole) := wholePart cs
  if whole.isEmpty then .error .notJson
  else
    let (fraction, afterFraction) := readFraction afterWhole
    let (exponent, after) := readExponent afterFraction
    if fraction.isEmpty && exponent.isEmpty then
      if Text.longestNumeral < whole.length then .error .badValue
      else
        let magnitude : Int := Text.ofDigits 10 (whole.map (·.toNat - 48))
        .ok (.int (if negative then -magnitude else magnitude), after)
    else
      match Text.unsignedDecimal? negative (whole ++ '.' :: fraction ++ exponent) with
      | some x => .ok (.float x, after)
      | none => .error .notJson

/-- The words of the format and their values. -/
def words : List (List Char × Value) :=
  [("null".toList, .null), ("true".toList, .bool true), ("false".toList, .bool false),
   ("NaN".toList, .float .notANumber), ("Infinity".toList, .float (.infinite false)),
   ("-Infinity".toList, .float (.infinite true))]

def readWord (cs : List Char) : Except Fault (Value × List Char) :=
  match words.find? fun word => word.1.isPrefixOf cs with
  | some (word, value) => .ok (value, cs.drop word.length)
  | none => .error .notJson

/-- The fields with each key once: the place of the first, the value of the last. -/
def distinctFields (fields : List (Text × Value)) : Fields :=
  fields.foldl (fun known field => known.put (.text field.1) field.2) []

/-- Goes down a level, if there is room for one more. -/
def deeper {α : Type} (room : Nat) (inside : Nat → Except Fault α) : Except Fault α :=
  match room with
  | 0 => .error .tooDeep
  | room + 1 => inside room

mutual

/-- One value, with room for a number of levels. -/
def readValue : Nat → Nat → List Char → Except Fault (Value × List Char)
  | _, 0, _ => .error .notJson
  | room, fuel + 1, cs =>
      match cs with
      | '"' :: rest => do
          let (points, after) ← readText (rest.length + 1) rest
          return (.text (Text.ofPoints points), after)
      | '[' :: rest => deeper room fun room =>
          match skipSpace rest with
          | ']' :: after => .ok (.list [], after)
          | items => do
              let (items, after) ← readItems room fuel items
              return (.list items, after)
      | '\x7b' :: rest => deeper room fun room =>
          match skipSpace rest with
          | '\x7d' :: after => .ok (.map [], after)
          | fields => do
              let (fields, after) ← readFields room fuel fields
              return (.map (distinctFields fields), after)
      | '-' :: rest =>
          match rest with
          | 'I' :: _ => readWord cs
          | _ => readNumber true rest
      | c :: _ => if c.isDigit then readNumber false cs else readWord cs
      | [] => .error .notJson

/-- One or more items and the closing bracket. -/
def readItems : Nat → Nat → List Char → Except Fault (List Value × List Char)
  | _, 0, _ => .error .notJson
  | room, fuel + 1, cs => do
      let (item, afterItem) ← readValue room fuel cs
      match skipSpace afterItem with
      | ',' :: rest =>
          let (items, after) ← readItems room fuel (skipSpace rest)
          return (item :: items, after)
      | ']' :: after => return ([item], after)
      | _ => .error .notJson

/-- One or more fields and the closing brace. -/
def readFields : Nat → Nat → List Char → Except Fault (List (Text × Value) × List Char)
  | _, 0, _ => .error .notJson
  | room, fuel + 1, cs =>
      match cs with
      | '"' :: rest => do
          let (key, afterKey) ← readText (rest.length + 1) rest
          match skipSpace afterKey with
          | ':' :: afterColon =>
              let (value, afterValue) ← readValue room fuel (skipSpace afterColon)
              let field := (Text.ofPoints key, value)
              match skipSpace afterValue with
              | ',' :: more =>
                  let (fields, after) ← readFields room fuel (skipSpace more)
                  return (field :: fields, after)
              | '\x7d' :: after => return ([field], after)
              | _ => .error .notJson
          | _ => .error .notJson
      | _ => .error .notJson

end

/-- Reads a whole text, with room for a number of levels; white space may stand around the value. -/
def read (room : Nat) (text : String) : Except Fault Value := do
  let cs := skipSpace text.toList
  let (value, after) ← readValue room (2 * cs.length + 2) cs
  if (skipSpace after).isEmpty then return value else throw .notJson

end LaunchPolicy.Json
