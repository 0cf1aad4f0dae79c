import LaunchPolicy.Json.Writer
import LaunchPolicy.Yaml.Writer.Style

/-!
Writing line by line: the text so far, the column, and whether what was written last was
white space, only indentation, or an open end. Lines are broken at spaces behind the
eightieth column.
-/

namespace LaunchPolicy.Yaml

structure Pen where
  text : String := ""
  column : Nat := 0
  /-- Nothing or white space was written last. -/
  afterSpace : Bool := true
  /-- Nothing but indentation and its indicators stands on the line. -/
  indenting : Bool := true
  /-- The last scalar would go on if the text did. -/
  openEnded : Bool := false

namespace Pen

/-- Columns after which a line is broken. -/
def width : Nat := 80

def put (pen : Pen) (cs : List Char) : Pen :=
  { pen with text := cs.foldl String.push pen.text, column := pen.column + cs.length }

def lineBreak (pen : Pen) : Pen :=
  { pen with text := pen.text.push '\n', column := 0, afterSpace := true, indenting := true }

/-- An indicator, with a space before it where one is needed. -/
def indicator (pen : Pen) (mark : String) (spaced : Bool) (leavesSpace keepsIndent : Bool := false) : Pen :=
  let cs := mark.toList
  let pen := pen.put (if pen.afterSpace || !spaced then cs else ' ' :: cs)
  { pen with afterSpace := leavesSpace, indenting := pen.indenting && keepsIndent, openEnded := false }

/-- Goes to the indentation, on a new line if the line is past it. -/
def indentTo (pen : Pen) (indent : Nat) : Pen :=
  let pen :=
    if !pen.indenting || indent < pen.column || (pen.column = indent && !pen.afterSpace) then pen.lineBreak
    else pen
  if pen.column < indent then
    { pen.put (List.replicate (indent - pen.column) ' ') with afterSpace := true }
  else pen

/-- Goes on with a scalar on the next line. -/
def continueAt (pen : Pen) (indent : Nat) : Pen :=
  { pen.indentTo indent with afterSpace := false, indenting := false }

/-! Scalars -/

/-- The parts of a text between the places where the kind of character changes. -/
def runs (kind : Char → Nat) (cs : List Char) : List (List Char) :=
  cs.foldr (fun c parts =>
    match parts with
    | (d :: run) :: rest => if kind c = kind d then (c :: d :: run) :: rest else [c] :: (d :: run) :: rest
    | _ => [[c]]) []

def kindOf (c : Char) : Nat := if c = ' ' then 1 else if isBreak c then 2 else 0

/-- A scalar without quotes; a single space behind the width becomes a line break. -/
def plain (pen : Pen) (indent : Nat) (split : Bool) (cs : List Char) : Pen :=
  if cs.isEmpty then pen
  else
    let pen := if pen.afterSpace then pen else pen.put [' ']
    (runs kindOf cs).foldl (fun pen run =>
      if run = [' '] && split && width < pen.column then pen.continueAt indent else pen.put run)
      { pen with afterSpace := false, indenting := false }

/-- Breaks in quotes are one more than they stand for. -/
def quotedBreaks (pen : Pen) (indent : Nat) (run : List Char) : Pen :=
  let pen := if run.headD ' ' = '\n' then pen.lineBreak else pen
  (run.foldl (fun pen _ => pen.lineBreak) pen).indentTo indent

def doubledQuotes (cs : List Char) : List Char := cs.flatMap fun c => if c = '\'' then [c, c] else [c]

/-- The runs of a text in single quotes, of which `first` is the first of all. -/
def singleQuotedRuns (indent : Nat) (split : Bool) : Bool → List (List Char) → Pen → Pen
  | _, [], pen => pen
  | first, run :: rest, pen =>
      let pen :=
        match run with
        | [' '] =>
            if split && !first && !rest.isEmpty && width < pen.column then pen.indentTo indent
            else pen.put run
        | '\n' :: _ => pen.quotedBreaks indent run
        | _ => pen.put (doubledQuotes run)
      singleQuotedRuns indent split false rest pen

def singleQuoted (pen : Pen) (indent : Nat) (split : Bool) (cs : List Char) : Pen :=
  (singleQuotedRuns indent split true (runs kindOf cs) (pen.indicator "'" true)).indicator "'" false

/-- Letters that stand for characters after a backslash. -/
def escapeLetter? : Char → Option Char
  | '\x00' => some '0'
  | '\x07' => some 'a'
  | '\x08' => some 'b'
  | '\t' => some 't'
  | '\n' => some 'n'
  | '\x0b' => some 'v'
  | '\x0c' => some 'f'
  | '\r' => some 'r'
  | '\x1b' => some 'e'
  | '"' => some '"'
  | '\\' => some '\\'
  | '\x85' => some 'N'
  | '\xa0' => some '_'
  | '\u2028' => some 'L'
  | '\u2029' => some 'P'
  | _ => none

def upperHex (width n : Nat) : List Char := (hexPadded width n).map Char.toUpper

/-- The escape of a code point by its number. -/
def escapeOfCode (code : Nat) : List Char :=
  if code ≤ 0xFF then '\\' :: 'x' :: upperHex 2 code
  else if code ≤ 0xFFFF then '\\' :: 'u' :: upperHex 4 code
  else '\\' :: 'U' :: upperHex 8 code

/-- A character that stands for itself in double quotes, or else the escape of a point. -/
def escaped : Point → Char ⊕ List Char
  | .half h => .inr (escapeOfCode h.code)
  | .char c =>
      match escapeLetter? c with
      | some letter => .inr ['\\', letter]
      | none => if 0x20 ≤ c.toNat ∧ c.toNat ≤ 0x7E then .inl c else .inr (escapeOfCode c.toNat)

/-- Ends a line of a scalar in double quotes with a backslash, and protects a space at the
start of the next. -/
def foldDouble (pen : Pen) (indent : Nat) (following : Char) : Pen :=
  let pen := (pen.put ['\\']).continueAt indent
  if following = ' ' then pen.put ['\\'] else pen

/-- The rest of a text in double quotes. `pending` has not been written yet; `inner` says
that the next character is not the first. A line is broken before a space, or where nothing
is pending, but never before the first or the last character. -/
def doubleQuotedFrom (indent : Nat) (split : Bool) : List Char → Bool → List Point → Pen → Pen
  | pending, _, [], pen => pen.put pending
  | pending, inner, point :: rest, pen =>
      let breakable := split && inner && !rest.isEmpty
      match escaped point with
      | .inr escape =>
          let pen := (pen.put pending).put escape
          let following := (rest.head?.map Point.outline).getD 'x'
          let pen := if breakable && width + 1 < pen.column then pen.foldDouble indent following else pen
          doubleQuotedFrom indent split [] true rest pen
      | .inl c =>
          if breakable && (c = ' ' || pending.isEmpty) && width < pen.column + pending.length then
            doubleQuotedFrom indent split [c] true rest ((pen.put pending).foldDouble indent c)
          else doubleQuotedFrom indent split (pending ++ [c]) true rest pen

def doubleQuoted (pen : Pen) (indent : Nat) (split : Bool) (points : List Point) : Pen :=
  (doubleQuotedFrom indent split [] false points (pen.indicator "\"" true)).indicator "\"" false

def scalar (pen : Pen) (style : Style) (indent : Nat) (split : Bool) (text : Text) : Pen :=
  match style with
  | .plain => pen.plain indent split text.outline.toList
  | .single => pen.singleQuoted indent split text.outline.toList
  | .double => pen.doubleQuoted indent split text.points

def block (pen : Pen) (indent : Nat) (lines : List (List Char)) : Pen :=
  lines.foldl (fun pen line => ((pen.lineBreak).indentTo indent).put line) (pen.indicator "|" true)

end Pen

end LaunchPolicy.Yaml
