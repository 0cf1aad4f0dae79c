import LaunchPolicy.Text.Numeral

/-!
Tags, which say what a node stands for, and the tags of plain scalars by their form.
-/

namespace LaunchPolicy.Yaml

inductive Tag where
  | null
  | bool
  | int
  | float
  | binary
  | timestamp
  | str
  | seq
  | map
  | set
  | omap
  | pairs
  /-- The key `<<`, under which a mapping takes over the fields of others. -/
  | merge
  /-- The key `=`, whose value stands for the whole mapping where a scalar is asked for. -/
  | value
  /-- Marks a scalar that looks like an indicator. -/
  | indicator
  | other (uri : String)
deriving DecidableEq, Repr

namespace Tag

def uriPrefix : String := "tag:yaml.org,2002:"

def named : List (String × Tag) :=
  [("null", .null), ("bool", .bool), ("int", .int), ("float", .float), ("binary", .binary),
   ("timestamp", .timestamp), ("str", .str), ("seq", .seq), ("map", .map), ("set", .set),
   ("omap", .omap), ("pairs", .pairs), ("merge", .merge), ("value", .value)]

def ofUri (uri : String) : Tag :=
  match named.find? fun entry => uriPrefix ++ entry.1 = uri with
  | some (_, tag) => tag
  | none => .other uri

end Tag

/-! Forms of plain scalars -/

namespace Form

def isSign (c : Char) : Bool := c = '-' || c = '+'

def withoutSign (cs : List Char) : List Char :=
  match cs with
  | c :: rest => if isSign c then rest else cs
  | [] => cs

def isDigitOrGap (c : Char) : Bool := c.isDigit || c = '_'

/-- A digit, then digits and gaps; the rest of the text after them. -/
def digitsThen? : List Char → Option (List Char)
  | c :: rest => if c.isDigit then some (rest.dropWhile isDigitOrGap) else none
  | [] => none

/-- One or more groups of a colon and a number below sixty, and the text after them. -/
def sixtieths : Nat → List Char → List Char
  | 0, cs => cs
  | fuel + 1, cs =>
      match cs with
      | ':' :: a :: b :: rest =>
          if '0' ≤ a ∧ a ≤ '5' ∧ b.isDigit then sixtieths fuel rest
          else if a.isDigit then sixtieths fuel (b :: rest)
          else cs
      | [':', a] => if a.isDigit then [] else cs
      | _ => cs

def afterSixtieths (cs : List Char) : List Char := sixtieths cs.length cs

def isNonzero (c : Char) : Bool := '1' ≤ c && c ≤ '9'

def isInteger (cs : List Char) : Bool :=
  match withoutSign cs with
  | ['0'] => true
  | '0' :: 'b' :: digits => !digits.isEmpty && digits.all fun c => c = '0' || c = '1' || c = '_'
  | '0' :: 'x' :: digits =>
      !digits.isEmpty && digits.all fun c =>
        c.isDigit || ('a' ≤ c && c ≤ 'f') || ('A' ≤ c && c ≤ 'F') || c = '_'
  | '0' :: digits => digits.all fun c => ('0' ≤ c && c ≤ '7') || c = '_'
  | c :: rest => isNonzero c && (afterSixtieths (rest.dropWhile isDigitOrGap)).isEmpty
  | [] => false

/-- An exponent with its sign, or nothing. -/
def isExponent : List Char → Bool
  | [] => true
  | mark :: sign :: digits =>
      (mark = 'e' || mark = 'E') && isSign sign && !digits.isEmpty && digits.all Char.isDigit
  | _ => false

def infinities : List (List Char) := [".inf".toList, ".Inf".toList, ".INF".toList]
def notNumbers : List (List Char) := [".nan".toList, ".NaN".toList, ".NAN".toList]

/-- Digits with a point, whole numbers of sixtieths with a point, and the numbers without
digits. -/
def isFloat (cs : List Char) : Bool :=
  let body := withoutSign cs
  infinities.contains body || notNumbers.contains cs ||
    (match cs with
      | '.' :: fraction =>
          match digitsThen? fraction with
          | some rest => isExponent rest
          | none => false
      | _ => false) ||
    (match digitsThen? body with
      | some ('.' :: fraction) => isExponent (fraction.dropWhile isDigitOrGap)
      | some rest@(':' :: _) =>
          match afterSixtieths rest with
          | '.' :: fraction => (fraction.dropWhile isDigitOrGap).isEmpty
          | _ => false
      | _ => false)

/-- A run of one to `most` digits, at least `least` of them, and the text after it. -/
def number? (least most : Nat) (cs : List Char) : Option (Nat × List Char) :=
  let digits := (cs.take most).takeWhile Char.isDigit
  if least ≤ digits.length then
    some (Text.ofDigits 10 (digits.map (·.toNat - 48)), cs.drop digits.length)
  else none

def literal? (c : Char) : List Char → Option (List Char)
  | d :: rest => if c = d then some rest else none
  | [] => none

/-- The parts of a timestamp. The time is absent in a mere date. -/
structure Clock where
  hour : Nat
  minute : Nat
  second : Nat
  fraction : List Nat
  /-- Minutes from universal time, if they are given. -/
  offset : Option Int

structure Timestamp where
  year : Nat
  month : Nat
  day : Nat
  clock : Option Clock

/-- The end of a timestamp: nothing, `Z`, or an offset in hours and minutes. -/
def zone? (cs : List Char) : Option (Option Int) :=
  match cs.dropWhile (fun c => c = ' ' || c = '\t') with
  | [] => if cs.isEmpty then some none else none
  | ['Z'] => some (some 0)
  | sign :: rest =>
      if isSign sign then do
        let (hours, rest) ← number? 1 2 rest
        let minutes ← match rest with
          | [] => some 0
          | rest => do
              let (minutes, rest) ← number? 2 2 (← literal? ':' rest)
              guard rest.isEmpty
              some minutes
        let magnitude : Int := (hours * 60 + minutes : Nat)
        return some (if sign = '-' then -magnitude else magnitude)
      else none

/-- The separator between date and time. -/
def afterTimeMark? (cs : List Char) : Option (List Char) :=
  match cs with
  | 'T' :: rest | 't' :: rest => some rest
  | ' ' :: _ | '\t' :: _ => some (cs.dropWhile fun c => c = ' ' || c = '\t')
  | _ => none

def clock? (cs : List Char) : Option Clock := do
  let (hour, cs) ← number? 1 2 (← afterTimeMark? cs)
  let (minute, cs) ← number? 2 2 (← literal? ':' cs)
  let (second, cs) ← number? 2 2 (← literal? ':' cs)
  let (fraction, cs) := match cs with
    | '.' :: rest => (rest.takeWhile Char.isDigit, rest.dropWhile Char.isDigit)
    | cs => ([], cs)
  return { hour, minute, second, fraction := fraction.map (·.toNat - 48), offset := ← zone? cs }

/-- A date, or a date and a time, of any width of month and day. -/
def timestamp? (cs : List Char) : Option Timestamp := do
  let (year, cs) ← number? 4 4 cs
  let (month, cs) ← number? 1 2 (← literal? '-' cs)
  let (day, cs) ← number? 1 2 (← literal? '-' cs)
  if cs.isEmpty then return { year, month, day, clock := none }
  else return { year, month, day, clock := some (← clock? cs) }

/-- A plain scalar is a mere date only with two digits for month and day. -/
def isTimestamp (cs : List Char) : Bool :=
  match timestamp? cs with
  | some { clock := none, .. } => cs.length = 10
  | some _ => true
  | none => false

def booleans : List String :=
  ["yes", "Yes", "YES", "no", "No", "NO", "true", "True", "TRUE", "false", "False", "FALSE",
   "on", "On", "ON", "off", "Off", "OFF"]

def nulls : List String := ["~", "null", "Null", "NULL", ""]

end Form

/-- A scalar's text as far as its form counts, which is up to a final line feed. -/
def formOf (cs : List Char) : List Char :=
  match cs.reverse with
  | '\n' :: front@(_ :: _) => front.reverse
  | _ => cs

def Tag.ofPlain (text : String) : Tag :=
  let cs := formOf text.toList
  let form := String.ofList cs
  if Form.booleans.contains form then .bool
  else if Form.isFloat cs then .float
  else if Form.isInteger cs then .int
  else if form = "<<" then .merge
  else if Form.nulls.contains form then .null
  else if Form.isTimestamp cs then .timestamp
  else if form = "=" then .value
  else if form = "!" || form = "&" || form = "*" then .indicator
  else .str

end LaunchPolicy.Yaml
