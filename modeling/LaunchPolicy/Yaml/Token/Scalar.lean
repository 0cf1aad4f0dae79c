import LaunchPolicy.Yaml.Token.Property

/-!
Scalars in their three written forms: quoted, plain, and as a block of lines.
-/

namespace LaunchPolicy.Yaml

/-! Quoted scalars -/

/-- Characters that stand for others after a backslash. -/
def escapedChar? : Char → Option Char
  | '0' => some '\x00'
  | 'a' => some '\x07'
  | 'b' => some '\x08'
  | 't' | '\t' => some '\t'
  | 'n' => some '\n'
  | 'v' => some '\x0b'
  | 'f' => some '\x0c'
  | 'r' => some '\r'
  | 'e' => some '\x1b'
  | ' ' => some ' '
  | '"' => some '"'
  | '\\' => some '\\'
  | '/' => some '/'
  | 'N' => some '\x85'
  | '_' => some '\xa0'
  | 'L' => some '\u2028'
  | 'P' => some '\u2029'
  | _ => none

/-- The number of hexadecimal digits after a letter that introduces a code point. -/
def codeLength? : Char → Option Nat
  | 'x' => some 2
  | 'u' => some 4
  | 'U' => some 8
  | _ => none

/-- The point of a code. Numbers that no signed word of 32 bits holds are out of range, others above the
last code point have no meaning. -/
def pointOfCode (code : Nat) : Except Fault Point :=
  if 0x7FFFFFFF < code then .error .overflow
  else if 0x10FFFF < code then .error .badValue
  else .ok (Point.ofCode code)

/-- A code point of `length` hexadecimal digits. -/
def scanCode (length : Nat) (c : Cursor) : Except Fault (Point × Cursor) := do
  let digits := c.rest.take length
  expect (digits.length = length)
  match digits.mapM Json.hexValue? with
  | none => malformed
  | some values => return (← pointOfCode (Text.ofDigits 16 values), c.skip length)

/-- Empty lines within a quoted scalar, as their breaks. No separator of documents may stand
at the start of a line. -/
def scanQuotedBreaks : Nat → Cursor → Except Fault (List Char × Cursor)
  | 0, _ => malformed
  | fuel + 1, c => do
      expect (!c.atSeparator)
      let c := c.skipWhile isSpaceOrTab
      if isBreak c.peek then
        let (first, after) := c.lineBreak
        let (breaks, after) ← scanQuotedBreaks fuel after
        return (first ++ breaks, after)
      else return ([], c)

/-- What white space in a quoted scalar stands for: itself within a line; a single break is
a space, more are one break less. -/
def scanQuotedSpaces (c : Cursor) : Except Fault (List Char × Cursor) := do
  let (spaces, after) := c.span isSpaceOrTab
  expect (after.peek ≠ endOfText)
  if isBreak after.peek then
    let (first, after) := after.lineBreak
    let (breaks, after) ← scanQuotedBreaks after.reach after
    let folded := if first ≠ ['\n'] then first else if breaks.isEmpty then [' '] else []
    return (folded ++ breaks, after)
  else return (spaces, after)

/-- What a backslash and its followers stand for. -/
def scanEscape (c : Cursor) : Except Fault (List Point × Cursor) := do
  let letter := c.peek 1
  match escapedChar? letter, codeLength? letter with
  | some char, _ => return ([.char char], c.skip 2)
  | none, some length =>
      let (point, after) ← scanCode length (c.skip 2)
      return ([point], after)
  | none, none =>
      expect (isBreak letter)
      let after := c.next.lineBreak.2
      let (breaks, after) ← scanQuotedBreaks after.reach after
      return (breaks.map .char, after)

/-- The points up to the closing quote. -/
def scanQuoted (double : Bool) : Nat → Cursor → Except Fault (List Point × Cursor)
  | 0, _ => malformed
  | fuel + 1, c => do
      let char := c.peek
      if double && char = '"' then return ([], c.next)
      else if !double && char = '\'' && c.peek 1 ≠ '\'' then return ([], c.next)
      else
        let (points, after) ←
          if !double && char = '\'' then pure ([.char '\''], c.skip 2)
          else if double && char = '\\' then scanEscape c
          else if isSpaceOrTab char || endsLine char then do
            let (spaces, after) ← scanQuotedSpaces c
            pure (spaces.map .char, after)
          else pure ([.char char], c.next)
        let (more, after) ← scanQuoted double fuel after
        return (points ++ more, after)

def scanQuotedToken (double : Bool) (c : Cursor) : Except Fault (Token × Cursor) := do
  let (points, after) ← scanQuoted double c.reach c.next
  return (.scalar (Text.ofPoints points) false, after)

/-! Plain scalars -/

def isFlowIndicator (c : Char) : Bool := c = ',' || c = '[' || c = ']' || c = '\x7b' || c = '\x7d'

/-- Where a run of plain characters ends. -/
def endsPlain (inFlow : Bool) (char following : Char) : Bool :=
  endsToken char ||
    (char = ':' && (endsToken following || (inFlow && isFlowIndicator following))) ||
    (inFlow && (char = '?' || isFlowIndicator char))

def plainRun (inFlow : Bool) : List Char → List Char
  | [] => []
  | char :: rest =>
      if endsPlain inFlow char (rest.headD endOfText) then [] else char :: plainRun inFlow rest

/-- Breaks and indentation after the first break in a plain scalar; `none` where the document
ends. -/
def plainBreaks : Nat → Cursor → Option (List Char) × Cursor
  | 0, c => (none, c)
  | fuel + 1, c =>
      let c := c.skipSpaces
      if isBreak c.peek then
        let (first, after) := c.lineBreak
        if after.atSeparator then (none, after)
        else
          let (breaks, after) := plainBreaks fuel after
          (breaks.map (first ++ ·), after)
      else (some [], c)

/-- White space after plain characters: what it stands for if the scalar goes on, the place
after it, and whether it holds a break. -/
def plainSpaces (c : Cursor) : List Char × Cursor × Bool :=
  let (spaces, after) := c.span (· = ' ')
  if isBreak after.peek then
    let (first, after) := after.lineBreak
    if after.atSeparator then ([], after, true)
    else
      match plainBreaks after.reach after with
      | (none, after) => ([], after, true)
      | (some breaks, after) =>
          let folded := if first ≠ ['\n'] then first else if breaks.isEmpty then [' '] else []
          (folded ++ breaks, after, true)
  else (spaces, after, false)

/-- A plain scalar of which `spaces` is pending: its text, the place after the white space
behind it, and whether that white space holds a break. -/
def scanPlain (inFlow : Bool) (indent : Nat) : Nat → List Char → Bool → Cursor → List Char × Cursor × Bool
  | 0, _, broken, c => ([], c, broken)
  | fuel + 1, spaces, broken, c =>
      let run := plainRun inFlow c.rest
      if c.peek = '#' || run.isEmpty then ([], c, broken)
      else
        let text := spaces ++ run
        let (spaces, after, broken) := plainSpaces (c.skip run.length)
        if spaces.isEmpty || after.peek = '#' || (!inFlow && after.column < indent) then
          (text, after, broken)
        else
          let (more, after, broken) := scanPlain inFlow indent fuel spaces broken after
          (text ++ more, after, broken)

def scanPlainToken (inFlow : Bool) (indent : Nat) (c : Cursor) : Token × Cursor × Bool :=
  let (chars, after, broken) := scanPlain inFlow indent c.reach [] false c
  (.scalar (String.ofList chars) true, after, broken)

/-! Block scalars -/

/-- What happens to the breaks at the end of a block scalar. -/
inductive Chomping where
  | strip
  | clip
  | keep
deriving DecidableEq, Repr

def chompingOf? : Char → Option Chomping
  | '+' => some .keep
  | '-' => some .strip
  | _ => none

def indentationOf? (c : Char) : Option Nat := if c.isDigit then some (c.toNat - 48) else none

/-- The header of a block scalar: chomping and indentation, in either order. -/
def scanBlockHeader (c : Cursor) : Except Fault ((Chomping × Option Nat) × Cursor) := do
  let (header, after) :=
    match chompingOf? c.peek, indentationOf? c.peek with
    | some chomping, _ =>
        match indentationOf? (c.peek 1) with
        | some width => ((chomping, some width), c.skip 2)
        | none => ((chomping, none), c.next)
    | none, some width =>
        match chompingOf? (c.peek 1) with
        | some chomping => ((chomping, some width), c.skip 2)
        | none => ((.clip, some width), c.next)
    | none, none => ((.clip, none), c)
  expect (header.2 ≠ some 0)
  expect (endsWord after.peek)
  return (header, ← scanLineEnd after)

/-- Leading breaks and the deepest indentation among them. -/
def blockIndentation : Nat → Nat → Cursor → List Char × Nat × Cursor
  | 0, deepest, c => ([], deepest, c)
  | fuel + 1, deepest, c =>
      if isBreak c.peek then
        let (first, after) := c.lineBreak
        let (breaks, deepest, after) := blockIndentation fuel deepest after
        (first ++ breaks, deepest, after)
      else if c.peek = ' ' then blockIndentation fuel (max deepest (c.column + 1)) c.next
      else ([], deepest, c)

/-- Empty lines of a block scalar, as their breaks. -/
def blockBreaks (indent : Nat) : Nat → Cursor → List Char × Cursor
  | 0, c => ([], c)
  | fuel + 1, c =>
      let c := c.skipSpacesTo indent
      if isBreak c.peek then
        let (first, after) := c.lineBreak
        let (breaks, after) := blockBreaks indent fuel after
        (first ++ breaks, after)
      else ([], c)

/-- The break between two lines of a block scalar. A folded one becomes a space, or nothing
before empty lines, unless one of the lines starts with white space. -/
def joinLines (folded : Bool) (lineBreak breaks : List Char) (plainBefore plainAfter : Bool) : List Char :=
  if folded && lineBreak = ['\n'] && plainBefore && plainAfter then
    if breaks.isEmpty then [' '] else []
  else lineBreak

/-- The lines of a block scalar at its indentation: their text, the last break and the empty
lines after it. -/
def blockLines (folded : Bool) (indent : Nat) :
    Nat → List Char → Cursor → List Char × List Char × List Char × Cursor
  | 0, breaks, c => ([], [], breaks, c)
  | fuel + 1, breaks, c =>
      if c.column = indent && c.peek ≠ endOfText then
        let plainBefore := !isSpaceOrTab c.peek
        let (line, after) := c.span (!endsLine ·)
        let (lineBreak, after) := after.lineBreak
        let (nextBreaks, after) := blockBreaks indent after.reach after
        if after.column = indent && after.peek ≠ endOfText then
          let joint := joinLines folded lineBreak nextBreaks plainBefore (!isSpaceOrTab after.peek)
          let (more, last, trailing, after) := blockLines folded indent fuel nextBreaks after
          (breaks ++ line ++ joint ++ more, last, trailing, after)
        else (breaks ++ line, lineBreak, nextBreaks, after)
      else ([], [], breaks, c)

/-- A block scalar in a collection of the given indentation. -/
def scanBlockToken (folded : Bool) (leastIndent : Nat) (c : Cursor) : Except Fault (Token × Cursor) := do
  let ((chomping, width), c) ← scanBlockHeader c.next
  let (breaks, indent, c) :=
    match width with
    | some width =>
        let indent := leastIndent + width - 1
        let (breaks, c) := blockBreaks indent c.reach c
        (breaks, indent, c)
    | none =>
        let (breaks, deepest, c) := blockIndentation c.reach 0 c
        (breaks, max leastIndent deepest, c)
  let (text, last, trailing, c) := blockLines folded indent c.reach breaks c
  let ending := match chomping with
    | .strip => []
    | .clip => last
    | .keep => last ++ trailing
  return (.scalar (String.ofList (text ++ ending)) false, c)

end LaunchPolicy.Yaml
