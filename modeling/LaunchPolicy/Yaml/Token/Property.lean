import LaunchPolicy.Json.Reader
import LaunchPolicy.Yaml.Cursor
import LaunchPolicy.Yaml.Token

/-!
Tokens that describe other tokens: anchors and aliases, tags, and directives.
-/

namespace LaunchPolicy.Yaml

def malformed {α : Type} : Except Fault α := .error .notYaml

/-- A place where the text must go on in a certain way. -/
def expect (holds : Bool) : Except Fault Unit := if holds then .ok () else malformed

/-- One or more characters of a name. -/
def scanName (c : Cursor) : Except Fault (String × Cursor) := do
  let (chars, after) := c.span isNameChar
  expect (!chars.isEmpty)
  return (String.ofList chars, after)

/-- Characters that may follow the name of an anchor. -/
def endsAnchor (c : Char) : Bool := endsToken c || "?:,]\x7d%@\x60".toList.contains c

/-- The name after `&` or `*`. -/
def scanAnchor (c : Cursor) : Except Fault (String × Cursor) := do
  let (name, after) ← scanName c.next
  expect (endsAnchor after.peek)
  return (name, after)

def isUriChar (c : Char) : Bool := c.isAlphanum || "-;/?:@&=+$,_.!~*'()[]%".toList.contains c

/-- An octet written as a percent sign and two hexadecimal digits. -/
def percentOctet? : List Char → Option (UInt8 × List Char)
  | '%' :: a :: b :: rest =>
      match Json.hexValue? a, Json.hexValue? b with
      | some a, some b => some (UInt8.ofNat (a * 16 + b), rest)
      | _, _ => none
  | _ => none

/-- The octets of consecutive escapes. -/
def percentOctets : Nat → List Char → List UInt8 × List Char
  | 0, cs => ([], cs)
  | fuel + 1, cs =>
      match percentOctet? cs with
      | some (octet, rest) =>
          let (octets, after) := percentOctets fuel rest
          (octet :: octets, after)
      | none => ([], cs)

/-- A run of escapes stands for the text that its octets encode. -/
def unescapeUri : Nat → List Char → Except Fault (List Char)
  | 0, _ => .ok []
  | _ + 1, [] => .ok []
  | fuel + 1, c :: rest =>
      if c = '%' then
        let (octets, after) := percentOctets (rest.length + 1) (c :: rest)
        if octets.isEmpty then malformed
        else
          match String.fromUTF8? ⟨octets.toArray⟩ with
          | some text => do return text.toList ++ (← unescapeUri fuel after)
          | none => malformed
      else do return c :: (← unescapeUri fuel rest)

/-- One or more characters of a tag URI. -/
def scanUri (c : Cursor) : Except Fault (String × Cursor) := do
  let (chars, after) := c.span isUriChar
  expect (!chars.isEmpty)
  return (String.ofList (← unescapeUri (chars.length + 1) chars), after)

/-- A tag handle: `!`, `!!`, or a name between exclamation marks. -/
def scanHandle (c : Cursor) : Except Fault (String × Cursor) := do
  expect (c.peek = '!')
  if c.peek 1 = ' ' then return ("!", c.next)
  let (name, after) := c.next.span isNameChar
  expect (after.peek = '!')
  return ("!" ++ String.ofList name ++ "!", after.next)

/-- A tag: verbatim between angle brackets, alone, or a suffix after a handle. -/
def scanTag (c : Cursor) : Except Fault (Token × Cursor) := do
  let scanned : Token × Cursor ←
    if c.peek 1 = '<' then do
      let (uri, after) ← scanUri (c.skip 2)
      expect (after.peek = '>')
      pure (.tag none uri, after.next)
    else if endsToken (c.peek 1) then pure (.tag none "!", c.next)
    else do
      let word := c.next.rest.takeWhile fun char => !endsWord char
      let (handle, after) ← if word.contains '!' then scanHandle c else pure ("!", c.next)
      let (suffix, after) ← scanUri after
      pure (.tag (some handle) suffix, after)
  expect (endsWord scanned.2.peek)
  return scanned

/-- The rest of a line that may hold nothing but a comment, and its break. -/
def scanLineEnd (c : Cursor) : Except Fault Cursor := do
  let c := c.skipSpaces
  let c := if c.peek = '#' then c.skipWhile (!endsLine ·) else c
  expect (endsLine c.peek)
  return c.lineBreak.2

/-- A number is refused if it has more digits than are read. -/
def scanNumber (c : Cursor) : Except Fault (Nat × Cursor) := do
  let (digits, after) := c.span Char.isDigit
  expect (!digits.isEmpty)
  if Text.longestNumeral < digits.length then throw .badValue
  return (Text.ofDigits 10 (digits.map (·.toNat - 48)), after)

def scanVersion (c : Cursor) : Except Fault (Directive × Cursor) := do
  let (major, after) ← scanNumber c.skipSpaces
  expect (after.peek = '.')
  let (_, after) ← scanNumber after.next
  expect (endsWord after.peek)
  return (.version major, after)

def scanTagDirective (c : Cursor) : Except Fault (Directive × Cursor) := do
  let (handle, after) ← scanHandle c.skipSpaces
  expect (after.peek = ' ')
  let (uri, after) ← scanUri after.skipSpaces
  expect (endsWord after.peek)
  return (.tag handle uri, after)

/-- A directive line; directives with other names than the two known ones are skipped. -/
def scanDirective (c : Cursor) : Except Fault (Token × Cursor) := do
  let (name, after) ← scanName c.next
  expect (endsWord after.peek)
  let (directive, after) ←
    if name = "YAML" then scanVersion after
    else if name = "TAG" then scanTagDirective after
    else pure (.other, after.skipWhile (!endsLine ·))
  return (.directive directive, ← scanLineEnd after)

end LaunchPolicy.Yaml
