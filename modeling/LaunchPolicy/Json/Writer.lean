import LaunchPolicy.Value.Refusal

/-!
Values written as JSON text in ASCII: characters outside ASCII as UTF-16 escapes, on one
line or with each item on a line of its own. `render` writes every value, what JSON has no
form for as its plain text; `write` refuses such values, numerals that are too long, and
collections that are nested too deeply.
-/

namespace LaunchPolicy.Json

/-- Everything on one line, or items on lines indented by a unit per level. -/
inductive Layout where
  | compact
  | indented (unit : List Char)
deriving DecidableEq, Repr

def Layout.spaces (count : Nat) : Layout := .indented (List.replicate count ' ')

/-- Spelling of the numbers without digits. -/
def numberSpelling : Binary64.Spelling := ⟨"Infinity", "NaN"⟩

/-- The UTF-16 units of a character. -/
def units (c : Char) : List Nat :=
  if c.toNat < 0x10000 then [c.toNat]
  else [0xD800 + (c.toNat - 0x10000) / 0x400, 0xDC00 + (c.toNat - 0x10000) % 0x400]

/-- The escape of a UTF-16 unit. -/
def escapeUnit (unit : Nat) : List Char := '\\' :: 'u' :: hexPadded 4 unit

def escapeChar (c : Char) : List Char :=
  if c = '"' then ['\\', '"']
  else if c = '\\' then ['\\', '\\']
  else if c = '\n' then ['\\', 'n']
  else if c = '\r' then ['\\', 'r']
  else if c = '\t' then ['\\', 't']
  else if c = '\x0c' then ['\\', 'f']
  else if c = '\x08' then ['\\', 'b']
  else if 0x20 ≤ c.toNat ∧ c.toNat < 0x7F then [c]
  else (units c).flatMap escapeUnit

def escapePoint : Point → List Char
  | .char c => escapeChar c
  | .half h => escapeUnit h.code

def quote (t : Text) : List Char := '"' :: t.points.flatMap escapePoint ++ ['"']

def renderScalar : Scalar → List Char
  | .null => "null".toList
  | .bool true => "true".toList
  | .bool false => "false".toList
  | .int n => (toString n).toList
  | .float x => (x.text numberSpelling).toList
  | .text t => quote t
  | s => quote s.plain

/-- A key is a text; other scalars become the text of their written form. -/
def renderKey : Scalar → List Char
  | .text t => quote t
  | s => match s with
      | .null | .bool _ | .int _ | .float _ => quote (String.ofList (renderScalar s))
      | _ => renderScalar s

/-- What stands between an opening bracket and the first item, at a nesting level. -/
def Layout.lineBreak (layout : Layout) (level : Nat) : List Char :=
  match layout with
  | .compact => []
  | .indented unit => '\n' :: (List.replicate level unit).flatten

def Layout.separator (layout : Layout) (level : Nat) : List Char :=
  match layout with
  | .compact => [',', ' ']
  | .indented _ => ',' :: layout.lineBreak level

/-- Brackets around items, none of them empty. -/
def bracket (layout : Layout) (level : Nat) (opening closing : Char) (items : List (List Char)) :
    List Char :=
  match items with
  | [] => [opening, closing]
  | items =>
      opening :: layout.lineBreak (level + 1) ++
        (items.intersperse (layout.separator (level + 1))).flatten ++
        layout.lineBreak level ++ [closing]

mutual

def renderAt (layout : Layout) (level : Nat) : Value → List Char
  | .scalar s => renderScalar s
  | .list items => bracket layout level '[' ']' (renderItems layout (level + 1) items)
  | .pair a b =>
      bracket layout level '[' ']' [renderAt layout (level + 1) a, renderAt layout (level + 1) b]
  | .set members => quote (Value.plain (.set members))
  | .map fields => bracket layout level '\x7b' '\x7d' (renderFields layout (level + 1) fields)

def renderItems (layout : Layout) (level : Nat) : List Value → List (List Char)
  | [] => []
  | item :: items => renderAt layout level item :: renderItems layout level items

def renderFields (layout : Layout) (level : Nat) : List (Scalar × Value) → List (List Char)
  | [] => []
  | (key, value) :: fields =>
      (renderKey key ++ ':' :: ' ' :: renderAt layout level value) :: renderFields layout level fields

end

def render (layout : Layout) (v : Value) : String := String.ofList (renderAt layout 0 v)

/-- Why a scalar is not written: JSON has no form for it, or its numeral is too long. -/
def scalarFault? : Scalar → Option Fault
  | .bytes _ | .date _ | .moment _ => some .wrongType
  | s => s.textFault?

/-- JSON has no form for sets. -/
def refusal : Refusal := ⟨scalarFault?, fun _ => some .wrongType⟩

/-- Writes a value, with room for a number of levels. -/
def write (room : Nat) (layout : Layout) (v : Value) : Except Fault String :=
  match refusal.fault? room v with
  | none => .ok (render layout v)
  | some fault => .error fault

end LaunchPolicy.Json
