/-!
A place in a YAML text, with its line and column, and the classes of characters that
structure the text.
-/

namespace LaunchPolicy.Yaml

/-- Stands for the end of a text; no text contains it. -/
def endOfText : Char := '\x00'

def isBreak (c : Char) : Bool :=
  c = '\n' || c = '\r' || c = '\x85' || c = '\u2028' || c = '\u2029'

def endsLine (c : Char) : Bool := c = endOfText || isBreak c

/-- Ends an indicator or a word: the end of the line or a space. -/
def endsWord (c : Char) : Bool := c = ' ' || endsLine c

/-- The same with tabs. -/
def endsToken (c : Char) : Bool := c = '\t' || endsWord c

def isSpaceOrTab (c : Char) : Bool := c = ' ' || c = '\t'

/-- Characters of names of anchors, directives and tag handles. -/
def isNameChar (c : Char) : Bool := c.isAlphanum || c = '-' || c = '_'

/-- Characters that a YAML text may contain. -/
def isAllowed (c : Char) : Bool :=
  c = '\t' || c = '\n' || c = '\r' || c = '\x85' ||
    (0x20 ≤ c.toNat && c.toNat ≤ 0x7E) || (0xA0 ≤ c.toNat && c.toNat ≤ 0xFFFD) || 0x10000 ≤ c.toNat

def byteOrderMark : Char := '\ufeff'

structure Cursor where
  rest : List Char
  index : Nat := 0
  line : Nat := 0
  column : Nat := 0

namespace Cursor

def peek (c : Cursor) (ahead : Nat := 0) : Char := c.rest.getD ahead endOfText

/-- The place after the next character. A carriage return before a line feed is no break of
its own, and the byte order mark has no width. -/
def next (c : Cursor) : Cursor :=
  match c.rest with
  | [] => c
  | char :: rest =>
      if isBreak char && !(char = '\r' && rest.head? == some '\n') then
        { rest, index := c.index + 1, line := c.line + 1, column := 0 }
      else
        { rest, index := c.index + 1, line := c.line
          column := if char = byteOrderMark then c.column else c.column + 1 }

def skip (c : Cursor) : Nat → Cursor
  | 0 => c
  | count + 1 => c.next.skip count

/-- The longest run of characters of a class, and the place after it. -/
def span (c : Cursor) (accepts : Char → Bool) : List Char × Cursor :=
  let taken := c.rest.takeWhile accepts
  (taken, c.skip taken.length)

def skipWhile (c : Cursor) (accepts : Char → Bool) : Cursor := (c.span accepts).2

def skipSpaces (c : Cursor) : Cursor := c.skipWhile (· = ' ')

/-- Spaces up to a column. -/
def skipSpacesTo (c : Cursor) (column : Nat) : Cursor :=
  let spaces := c.rest.takeWhile (· = ' ')
  c.skip (min spaces.length (column - c.column))

/-- The line break at this place, if there is one. All breaks but the two Unicode
separators read as a line feed. -/
def lineBreak (c : Cursor) : List Char × Cursor :=
  let char := c.peek
  if char = '\r' && c.peek 1 = '\n' then (['\n'], c.skip 2)
  else if char = '\r' || char = '\n' || char = '\x85' then (['\n'], c.next)
  else if char = '\u2028' || char = '\u2029' then ([char], c.next)
  else ([], c)

/-- Three marks and the end of a token, as between documents. -/
def isSeparator (c : Cursor) (mark : Char) : Bool :=
  c.peek = mark && c.peek 1 = mark && c.peek 2 = mark && endsToken (c.peek 3)

def atSeparator (c : Cursor) : Bool := c.isSeparator '-' || c.isSeparator '.'

/-- A number of steps that reaches the end of the text. -/
def reach (c : Cursor) : Nat := c.rest.length + 1

end Cursor

end LaunchPolicy.Yaml
