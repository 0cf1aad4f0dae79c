import LaunchPolicy.Yaml.Cursor
import LaunchPolicy.Yaml.Tag

/-!
How a scalar is written: plain where that reads back as the same value, else in single
quotes, else in double quotes with escapes.
-/

namespace LaunchPolicy.Yaml

inductive Style where
  | plain
  | single
  | double
deriving DecidableEq, Repr

/-- What a text holds that bears on its style. -/
structure Analysis where
  empty : Bool := false
  multiline : Bool := false
  plainAllowed : Bool := true
  singleAllowed : Bool := true
deriving DecidableEq, Repr

namespace Analysis

/-- Characters that break a line of written text. A carriage return is always escaped. -/
def breaksLine (c : Char) : Bool := isBreak c && c ≠ '\r'

/-- Characters that are no line feed and outside the printable ones of ASCII. -/
def isSpecial (c : Char) : Bool := c ≠ '\n' && !(0x20 ≤ c.toNat && c.toNat ≤ 0x7E)

def startsLikeSeparator (cs : List Char) : Bool :=
  "---".toList.isPrefixOf cs || "...".toList.isPrefixOf cs

/-- Whether the first character would be read as an indicator. -/
def startsWithIndicator : List Char → Bool
  | [] => false
  | c :: rest =>
      "#,[]\x7b\x7d&*!|>'\"%@\x60".toList.contains c ||
        (endsToken (rest.headD endOfText) && (c = '?' || c = ':' || c = '-'))

/-- Whether a later character would end a plain scalar: a colon before white space, or a
number sign after it. -/
def holdsIndicator : List Char → Bool
  | a :: b :: rest =>
      (b = '#' && endsToken a) || (b = ':' && endsToken (rest.headD endOfText)) ||
        holdsIndicator (b :: rest)
  | _ => false

/-- Whether somewhere `first` stands before `second`. -/
def holdsPair (first second : Char → Bool) : List Char → Bool
  | a :: b :: rest => (first a && second b) || holdsPair first second (b :: rest)
  | _ => false

def isSpace (c : Char) : Bool := c = ' '

def ofText (text : String) : Analysis :=
  match text.toList with
  | [] => { empty := true }
  | cs@(first :: _) =>
      let last := cs.getLastD first
      let multiline := cs.any breaksLine
      let bordered := isSpace first || breaksLine first || isSpace last || breaksLine last
      let breakSpace := holdsPair breaksLine isSpace cs
      let escaped := holdsPair isSpace breaksLine cs || cs.any isSpecial
      let indicators := startsLikeSeparator cs || startsWithIndicator cs || holdsIndicator cs
      { multiline
        plainAllowed := !(bordered || breakSpace || escaped || multiline || indicators)
        singleAllowed := !(breakSpace || escaped) }

end Analysis

/-- The style of a scalar, which is plain where its form alone gives it its tag. A key on one
line cannot be empty or have several lines. -/
def styleOf (analysis : Analysis) (readsBack simpleKey : Bool) : Style :=
  let unfit := simpleKey && (analysis.empty || analysis.multiline)
  if readsBack && !unfit && analysis.plainAllowed then .plain
  else if analysis.singleAllowed && !(simpleKey && analysis.multiline) then .single
  else .double

end LaunchPolicy.Yaml
