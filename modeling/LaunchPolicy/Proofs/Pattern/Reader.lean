import LaunchPolicy.Proofs.Pattern.Basic

/-!
The standard reading of a text as a pattern, character by character. Characters match themselves
but for those with a meaning of their own; what is no pattern has no reading.
-/

namespace LaunchPolicy.Pattern

/-- An open group: its alternatives so far and the items of the last one, last first. -/
structure Group where
  earlier : List Pattern := []
  items : List Pattern := []
deriving DecidableEq, Repr

namespace Group

def alternative (group : Group) : Pattern := .sequence group.items.reverse

def pattern (group : Group) : Pattern :=
  group.earlier.foldl (fun rest earlier => .either earlier rest) group.alternative

def push (group : Group) (item : Pattern) : Group := { group with items := item :: group.items }

end Group

/-- The inside of brackets. Ranges are last first, and a dash may ask for the end of the last one. -/
structure Brackets where
  negated : Bool := false
  ranges : List (Char × Char) := []
  dash : Bool := false
deriving DecidableEq, Repr

namespace Brackets

/-- A character, as the end of a range if a dash goes before it. -/
def add? (brackets : Brackets) (c : Char) : Option Brackets :=
  match brackets.dash, brackets.ranges with
  | true, (low, _) :: ranges =>
      if low ≤ c then some { brackets with ranges := (low, c) :: ranges, dash := false } else none
  | _, ranges => some { brackets with ranges := (c, c) :: ranges }

def addSet? (brackets : Brackets) (set : CharSet) : Option Brackets :=
  if set.negated ∨ brackets.dash then none
  else some { brackets with ranges := set.ranges ++ brackets.ranges }

/-- A dash is itself where it has no range to make. -/
def set (brackets : Brackets) : CharSet where
  negated := brackets.negated
  ranges := brackets.ranges ++ if brackets.dash then [('-', '-')] else []

end Brackets

inductive Mode where
  | plain
  /-- After a quantifier. -/
  | quantified
  /-- After a backslash. -/
  | escaped
  | brackets (inside : Brackets)
  | bracketsEscaped (inside : Brackets)
  /-- Within braces, after these characters, last first. -/
  | braces (inside : List Char)
deriving DecidableEq, Repr

/-- A reader within open groups, innermost first. -/
structure Reader where
  outer : List Group := []
  group : Group := {}
  mode : Mode := .plain
deriving DecidableEq, Repr

/-- The character that an escaped one stands for: itself unless it can be part of a word. -/
def escapedChar? : Char → Option Char
  | 'n' => some '\n'
  | 't' => some '\t'
  | 'r' => some '\r'
  | c => if CharSet.word.has c then none else some c

def escapedSet? : Char → Option CharSet
  | 'd' => some .digit
  | 'D' => some CharSet.digit.complement
  | 'w' => some .word
  | 'W' => some CharSet.word.complement
  | 's' => some .blank
  | 'S' => some CharSet.blank.complement
  | c => (escapedChar? c).map .exactly

def escaped? : Char → Option Pattern
  | 'b' => some (.boundary true)
  | 'B' => some (.boundary false)
  | c => (escapedSet? c).map .one

def count? (digits : List Char) : Option Nat :=
  if digits ≠ [] ∧ digits.all Char.isDigit then
    some (digits.foldl (fun n c => n * 10 + (c.toNat - '0'.toNat)) 0)
  else none

/-- How often an item is repeated: one number, or two of which the last may be missing. -/
def bounds? (inside : List Char) : Option (Nat × Option Nat) := do
  let least ← count? (inside.takeWhile (· ≠ ','))
  match inside.dropWhile (· ≠ ',') with
  | [] => return (least, some least)
  | [_] => return (least, none)
  | _ :: most => return (least, some (← count? most))

namespace Reader

def push (reader : Reader) (item : Pattern) : Reader :=
  { reader with group := reader.group.push item, mode := .plain }

def quantify? (reader : Reader) (least : Nat) (most : Option Nat) : Option Reader :=
  match reader.group.items with
  | [] => none
  | last :: items =>
      some { reader with
        group := { reader.group with items := .repeated last least most :: items }
        mode := .quantified }

def pushAll (reader : Reader) (items : List Pattern) : Reader := items.foldl push reader

/-- A reader after braces that ask for no repetition: they are characters like others. -/
def settle (reader : Reader) : Reader :=
  match reader.mode with
  | .braces inside => reader.pushAll (('{' :: inside.reverse).map fun c => .one (.exactly c))
  | _ => reader

def plainStep? (reader : Reader) : Char → Option Reader
  | '.' => some (reader.push (.one .inLine))
  | '^' => some (reader.push .start)
  | '$' => some (reader.push .stop)
  | '*' => reader.quantify? 0 none
  | '+' => reader.quantify? 1 none
  | '?' => reader.quantify? 0 (some 1)
  | '(' => some { outer := reader.group :: reader.outer }
  | ')' =>
      match reader.outer with
      | [] => none
      | group :: outer => some { outer, group := group.push reader.group.pattern }
  | '|' => some { reader with
      group := { earlier := reader.group.alternative :: reader.group.earlier }
      mode := .plain }
  | '[' => some { reader with mode := .brackets {} }
  | '{' => some { reader with mode := .braces [] }
  | '\\' => some { reader with mode := .escaped }
  | c => some (reader.push (.one (.exactly c)))

def bracketsStep? (reader : Reader) (inside : Brackets) (c : Char) : Option Reader :=
  if c = ']' ∧ inside.ranges ≠ [] then some (reader.push (.one inside.set))
  else if c = '^' ∧ inside = {} then some { reader with mode := .brackets { negated := true } }
  else if c = '\\' then some { reader with mode := .bracketsEscaped inside }
  else if c = '-' ∧ inside.dash = false ∧ (inside.ranges.head?.any fun range => range.1 = range.2) then
    some { reader with mode := .brackets { inside with dash := true } }
  else (inside.add? c).map fun inside => { reader with mode := .brackets inside }

def bracesStep? (reader : Reader) (inside : List Char) (c : Char) : Option Reader :=
  if c.isDigit ∨ c = ',' then some { reader with mode := .braces (c :: inside) }
  else
    match (if c = '}' then bounds? inside.reverse else none) with
    | some (least, most) => reader.quantify? least most
    | none => reader.settle.plainStep? c

def step? (reader : Reader) (c : Char) : Option Reader :=
  match reader.mode with
  | .plain => reader.plainStep? c
  | .quantified =>
      -- a question mark makes the quantifier lazy, which accepts the same texts
      if c = '?' then some { reader with mode := .plain }
      else if c = '*' ∨ c = '+' then none
      else reader.plainStep? c
  | .escaped => (escaped? c).map reader.push
  | .brackets inside => reader.bracketsStep? inside c
  | .bracketsEscaped inside =>
      (match escapedChar? c with
      | some c => inside.add? c
      | none => (escapedSet? c).bind inside.addSet?).map fun inside =>
        { reader with mode := .brackets inside }
  | .braces inside => reader.bracesStep? inside c

/-- What has been read, if nothing is left open. -/
def finish? (reader : Reader) : Option Pattern :=
  match reader.settle.outer, reader.settle.mode with
  | [], .plain => some reader.settle.group.pattern
  | [], .quantified => some reader.settle.group.pattern
  | _, _ => none

end Reader

def read? (text : List Char) : Option Pattern := do
  let reader ← text.foldlM Reader.step? {}
  reader.finish?

end LaunchPolicy.Pattern
