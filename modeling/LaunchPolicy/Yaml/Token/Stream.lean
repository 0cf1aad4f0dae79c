import LaunchPolicy.Yaml.Token.Scalar

/-!
The tokens of a text. A colon makes a mapping key of what stands before it on its line, so
the reader remembers where such a key may have begun and puts the key's token there once
the colon is found.
-/

namespace LaunchPolicy.Yaml

/-- A token that turns into a key if a colon follows it. A required one must. -/
structure PossibleKey where
  token : Nat
  required : Bool
  index : Nat
  line : Nat
  column : Nat

/-- The state of reading. Indentation counts columns from one, so that zero stands for the
indentation outside every collection. -/
structure Reading where
  cursor : Cursor
  /-- How many flow collections are open. -/
  flow : Nat := 0
  indent : Nat := 0
  outer : List Nat := []
  keyAllowed : Bool := true
  /-- Possible keys by flow level. -/
  possible : List (Nat × PossibleKey) := []
  tokens : Array Token := #[]
  ended : Bool := false

namespace Reading

/-- A step that leaves what it has read behind when it fails. -/
abbrev Step := Reading → Except Fault Reading

def push (r : Reading) (token : Token) : Reading := { r with tokens := r.tokens.push token }

def insertAt (r : Reading) (position : Nat) (token : Token) : Reading :=
  { r with tokens := r.tokens.extract 0 position ++ #[token] ++ r.tokens.extract position r.tokens.size }

/-- The longest distance between the start of a key and its colon. -/
def longestKey : Nat := 1024

def isStale (r : Reading) (key : PossibleKey) : Bool :=
  key.line != r.cursor.line || longestKey < r.cursor.index - key.index

/-- Forgets keys that ended without a colon; a required one is a fault. -/
def dropStaleKeys (r : Reading) : Except Fault Reading := do
  expect (!(r.possible.any fun entry => r.isStale entry.2 && entry.2.required))
  return { r with possible := r.possible.filter fun entry => !r.isStale entry.2 }

def possibleKey? (r : Reading) : Option PossibleKey :=
  (r.possible.find? (·.1 = r.flow)).map (·.2)

def withoutKey (r : Reading) : Reading :=
  { r with possible := r.possible.filter (·.1 ≠ r.flow) }

/-- Forgets the possible key of this flow level; a required one is a fault. -/
def dropKey (r : Reading) : Except Fault Reading := do
  expect (!(r.possibleKey?.any (·.required)))
  return r.withoutKey

/-- Column of the next character, counted from one. -/
def column (r : Reading) : Nat := r.cursor.column + 1

/-- Remembers that the next token may be a key. It is required where a block mapping goes on. -/
def saveKey (r : Reading) : Except Fault Reading := do
  if r.keyAllowed then
    let r ← r.dropKey
    let key : PossibleKey :=
      { token := r.tokens.size
        required := r.flow = 0 && r.indent = r.column
        index := r.cursor.index, line := r.cursor.line, column := r.column }
    return { r with possible := (r.flow, key) :: r.possible }
  else return r

/-- Closes the block collections that are indented deeper than the column. -/
def unwind (column : Nat) : List Nat → Reading → Reading
  | [], r => r
  | indent :: outer, r =>
      if r.flow = 0 && column < r.indent then unwind column outer { r.push .blockEnd with indent, outer }
      else r

def unwindTo (r : Reading) (column : Nat) : Reading := unwind column r.outer r

/-- Opens a block collection at a column, unless one is open there. -/
def openBlock (r : Reading) (column : Nat) : Option Reading :=
  if r.indent < column then some { r with indent := column, outer := r.indent :: r.outer } else none

/-- Opens a block collection at this column outside flow collections, where one may begin. -/
def openHere (r : Reading) (start : Token) : Except Fault Reading := do
  if r.flow = 0 then
    expect r.keyAllowed
    match r.openBlock r.column with
    | some opened => return opened.push start
    | none => return r
  else return r

def skip (r : Reading) (count : Nat) : Reading := { r with cursor := r.cursor.skip count }

/-- White space, comments and line breaks before a token. -/
def skipBlank : Nat → Reading → Reading
  | 0, r => r
  | fuel + 1, r =>
      let c := r.cursor.skipSpaces
      let c := if c.peek = '#' then c.skipWhile (!endsLine ·) else c
      if isBreak c.peek then
        skipBlank fuel { r with cursor := c.lineBreak.2, keyAllowed := r.keyAllowed || r.flow = 0 }
      else { r with cursor := c }

/-- Closes all block collections before a directive, a document's mark or the end. -/
def closeAll (r : Reading) : Except Fault Reading := do
  return { ← (r.unwindTo 0).dropKey with keyAllowed := false }

def endStream : Step := fun r => do
  return { (← r.closeAll).push .streamEnd with possible := [], ended := true }

def directive : Step := fun r => do
  let r ← r.closeAll
  let (token, cursor) ← scanDirective r.cursor
  return { r.push token with cursor }

def documentMark (token : Token) : Step := fun r => do
  return ((← r.closeAll).skip 3).push token

def flowStart (token : Token) : Step := fun r => do
  let r ← r.saveKey
  return { (r.skip 1).push token with flow := r.flow + 1, keyAllowed := true }

/-- A closing bracket without an opening one is a token that nothing can follow. -/
def flowEnd (token : Token) : Step := fun r => do
  let r ← r.dropKey
  return { (r.skip 1).push token with flow := r.flow - 1, keyAllowed := false, ended := r.flow = 0 }

def flowEntry : Step := fun r => do
  let r ← { r with keyAllowed := true }.dropKey
  return (r.skip 1).push .flowEntry

def blockEntry : Step := fun r => do
  let r ← r.openHere .blockSequenceStart
  let r ← { r with keyAllowed := true }.dropKey
  return (r.skip 1).push .blockEntry

def key : Step := fun r => do
  let r ← r.openHere .blockMappingStart
  let r ← { r with keyAllowed := r.flow = 0 }.dropKey
  return (r.skip 1).push .key

/-- The colon after a possible key, whose token comes before the key's own. -/
def valueOfKey (r : Reading) (key : PossibleKey) : Reading :=
  let r := r.withoutKey
  let r := r.insertAt key.token .key
  let r :=
    if r.flow = 0 then
      match r.openBlock key.column with
      | some opened => opened.insertAt key.token .blockMappingStart
      | none => r
    else r
  { r with keyAllowed := false }

def value : Step := fun r => do
  match r.possibleKey? with
  | some key => return ((r.valueOfKey key).skip 1).push .value
  | none =>
      let r ← r.openHere .blockMappingStart
      let r ← { r with keyAllowed := r.flow = 0 }.dropKey
      return (r.skip 1).push .value

/-- A token that may be a key, or part of one. -/
def keyPart (scan : Cursor → Except Fault (Token × Cursor)) : Step := fun r => do
  let r ← r.saveKey
  let (token, cursor) ← scan r.cursor
  return { r.push token with cursor, keyAllowed := false }

def plain : Step := fun r => do
  let r ← r.saveKey
  let (token, cursor, broken) := scanPlainToken (r.flow ≠ 0) r.indent r.cursor
  return { r.push token with cursor, keyAllowed := broken }

def blockScalar (folded : Bool) : Step := fun r => do
  let r ← { r with keyAllowed := true }.dropKey
  let (token, cursor) ← scanBlockToken folded (max 1 r.indent) r.cursor
  return { r.push token with cursor }

def named (make : String → Token) (c : Cursor) : Except Fault (Token × Cursor) := do
  let (name, after) ← scanAnchor c
  return (make name, after)

/-- Whether a plain scalar begins here. -/
def startsPlain (r : Reading) : Bool :=
  let char := r.cursor.peek
  let following := r.cursor.peek 1
  !(endsToken char || "-?:,[]\x7b\x7d#&*!|>'\"%@\x60".toList.contains char) ||
    (!endsToken following && (char = '-' || (r.flow = 0 && (char = '?' || char = ':'))))

/-- How many tokens are settled: none from the first possible key on, for the token of a key
would come before it. -/
def settled (r : Reading) : Nat :=
  r.possible.foldl (fun count entry => min count entry.2.token) r.tokens.size

/-- The next token, whose first character says which it is. -/
def dispatch : Step := fun r =>
  let c := r.cursor
  let atLineStart := c.column = 0
  let standsAlone := endsToken (c.peek 1)
  match c.peek with
  | '\x00' => endStream r
  | '[' => flowStart .flowSequenceStart r
  | '\x7b' => flowStart .flowMappingStart r
  | ']' => flowEnd .flowSequenceEnd r
  | '\x7d' => flowEnd .flowMappingEnd r
  | ',' => flowEntry r
  | '*' => keyPart (named .alias) r
  | '&' => keyPart (named .anchor) r
  | '!' => keyPart scanTag r
  | '\'' => keyPart (scanQuotedToken false) r
  | '"' => keyPart (scanQuotedToken true) r
  | char =>
      if char = '%' && atLineStart then directive r
      else if atLineStart && c.isSeparator '-' then documentMark .documentStart r
      else if atLineStart && c.isSeparator '.' then documentMark .documentEnd r
      else if char = '-' && standsAlone then blockEntry r
      else if char = '?' && (r.flow ≠ 0 || standsAlone) then key r
      else if char = ':' && (r.flow ≠ 0 || standsAlone) then value r
      else if char = '|' && r.flow = 0 then blockScalar false r
      else if char = '>' && r.flow = 0 then blockScalar true r
      else if r.startsPlain then plain r
      else malformed

/-- Reads the next token with the ends of collections before it. -/
def readToken : Step := fun r => do
  let r := skipBlank r.cursor.reach r
  let r ← r.dropStaleKeys
  (← dispatch (r.unwindTo r.column)).dropStaleKeys

/-- Reads up to the end or a fault. Of a text with a fault, only the settled tokens count. -/
def readAll : Nat → Reading → Tokens
  | 0, r => ⟨r.tokens.toList, some .notYaml⟩
  | fuel + 1, r =>
      if r.ended then ⟨r.tokens.toList, none⟩
      else
        match r.readToken with
        | .ok next => readAll fuel next
        | .error fault => ⟨r.tokens.toList.take r.settled, some fault⟩

end Reading

/-- The tokens of a text, at whose start a byte order mark is skipped. -/
def Tokens.ofText (text : List Char) : Tokens :=
  let cursor : Cursor := { rest := text }
  let cursor := if cursor.peek = byteOrderMark then cursor.next else cursor
  Reading.readAll (text.length + 2) { cursor }

/-- Whether a text has only characters that a YAML text may contain. -/
def isText (text : List Char) : Bool := text.all isAllowed

end LaunchPolicy.Yaml
