import LaunchPolicy.Text.Base64
import LaunchPolicy.Value.Refusal
import LaunchPolicy.Yaml.Graph
import LaunchPolicy.Yaml.Writer.Pen

/-!
Documents written as a YAML stream: collections in block style with two columns a level,
sequences at the indentation of the field that they belong to, empty collections in
brackets. A value with several places is written once, under an anchor, and its other
places are aliases. `render` writes all documents; `write` refuses numerals that are too long, and
collections that are nested too deeply.
-/

namespace LaunchPolicy.Yaml

/-! Anchors -/

/-- Values that are written again in each of their places. -/
def isWrittenAnew : Scalar → Bool
  | .date _ | .moment _ => false
  | _ => true

/-- Values met so far, and those met twice in the order of their second meeting. -/
structure Meetings where
  met : List Nat := []
  again : List Nat := []

namespace Meetings

/-- Meets a value; true when it is new. -/
def meet (m : Meetings) (id : Nat) : Meetings × Bool :=
  if m.met.contains id then
    (if m.again.contains id then m else { m with again := m.again ++ [id] }, false)
  else ({ m with met := id :: m.met }, true)

def meetKey (m : Meetings) (key : Key) : Meetings :=
  match key.id with
  | some id => if isWrittenAnew key.scalar then m else (m.meet id).1
  | none => m

/-- Meets a value and, when it is new, its parts. -/
def meetAll (g : Graph) : Nat → Meetings → Nat → Meetings
  | 0, m, _ => m
  | fuel + 1, m, id =>
      match g.content? id with
      | none => m
      | some (.scalar s) => if isWrittenAnew s then m else (m.meet id).1
      | some content =>
          match m.meet id, content with
          | (m, false), _ => m
          | (m, true), .scalar _ => m
          | (m, true), .list items => items.foldl (meetAll g fuel) m
          | (m, true), .pairs entries =>
              entries.foldl (fun m entry => meetAll g fuel (meetAll g fuel m entry.1) entry.2) m
          | (m, true), .set members => members.foldl meetKey m
          | (m, true), .map fields =>
              fields.foldl (fun m entry => meetAll g fuel (m.meetKey entry.1) entry.2) m

end Meetings

/-- Names of anchors, by number from one. -/
def anchorName (number : Nat) : String := "id" ++ decimalPadded 3 number

/-! Scalars -/

/-- Spelling of the numbers without digits. -/
def numberSpelling : Binary64.Spelling := ⟨".inf", ".nan"⟩

/-- A number in powers of ten has a point too. -/
def floatText (x : Binary64) : String :=
  let cs := (x.text numberSpelling).toList
  if cs.contains '.' then String.ofList cs
  else String.ofList (cs.flatMap fun c => if c = 'e' then ['.', '0', 'e'] else [c])

/-- A scalar's text, the name of its tag, and whether the text alone gives it that tag. -/
structure ScalarForm where
  text : Text
  tag : String
  readsBack : Bool := true

def ScalarForm.of : Scalar → ScalarForm
  | .null => { text := "null", tag := "null" }
  | .bool b => { text := if b then "true" else "false", tag := "bool" }
  | .int n => { text := toString n, tag := "int" }
  | .float x => { text := floatText x, tag := "float" }
  | .text s => { text := s, tag := "str", readsBack := Tag.ofPlain s.outline = .str }
  | .bytes octets =>
      { text := .string (String.ofList (Text.Base64.encode octets)), tag := "binary", readsBack := false }
  | .date d => { text := d.text, tag := "timestamp" }
  | .moment m => { text := m.text, tag := "timestamp" }

/-- Characters of an encoding that stand on one line. -/
def lineOfOctets : Nat := 76

def linesOf : Nat → List Char → List (List Char)
  | 0, _ => []
  | fuel + 1, cs => if cs.isEmpty then [] else cs.take lineOfOctets :: linesOf fuel (cs.drop lineOfOctets)

/-! Nodes -/

/-- Where a node is written. -/
inductive Spot where
  | root
  | item
  /-- A key or value of a mapping. -/
  | field
  /-- A key on one line with its value. -/
  | simpleKey
deriving DecidableEq

structure Writing where
  pen : Pen := {}
  /-- Anchored values that have been written. -/
  written : List Nat := []

structure Sheet where
  graph : Graph
  anchored : List Nat

namespace Sheet

def anchor? (sheet : Sheet) (id : Nat) : Option String :=
  (sheet.anchored.findIdx? (· = id)).map fun position => anchorName (position + 1)

/-- The indentation inside a scalar. -/
def scalarIndent (indent : Option Nat) : Nat :=
  match indent with
  | none => 2
  | some indent => indent + 2

/-- The indentation inside a collection. -/
def innerIndent (indent : Option Nat) (level : Bool) : Nat :=
  match indent with
  | none => 0
  | some indent => if level then indent else indent + 2

/-- The longest key that stands on one line with its value, its anchor and tag counted. -/
def longestKey : Nat := 127

def writeScalar (s : Scalar) (spot : Spot) (indent : Option Nat) (pen : Pen) : Pen :=
  let form := ScalarForm.of s
  let simpleKey := spot == .simpleKey
  match s with
  | .bytes octets =>
      let pen := pen.indicator "!!binary" true
      if octets.isEmpty then pen.scalar .double (scalarIndent indent) (!simpleKey) ""
      else pen.block (scalarIndent indent) (linesOf form.text.length form.text.outline.toList)
  | _ =>
      let style := styleOf (Analysis.ofText form.text.outline) form.readsBack simpleKey
      let pen := pen.scalar style (scalarIndent indent) (!simpleKey) form.text
      { pen with openEnded := pen.openEnded || (spot == .root && style == .plain) }

/-- Whether a key stands on one line with its value. -/
def isSimple (sheet : Sheet) (written : List Nat) (key : Key) : Bool :=
  let form := ScalarForm.of key.scalar
  let anchor := (key.id.bind sheet.anchor?).filter fun _ => !isWrittenAnew key.scalar
  let marked := (anchor.map (·.length)).getD 0
  let isAlias := anchor.isSome && key.id.any written.contains
  let analysis := Analysis.ofText form.text.outline
  let isBytes := match key.scalar with
    | .bytes _ => true
    | _ => false
  isAlias || (marked + form.tag.length + 2 + form.text.length ≤ longestKey && !analysis.empty &&
    !analysis.multiline && !isBytes)

/-- Writes the anchor of a value, or an alias where the value has been written; true when the
value itself is still to be written. -/
def writeAnchor (sheet : Sheet) (id : Nat) (w : Writing) : Writing × Bool :=
  match sheet.anchor? id with
  | none => (w, true)
  | some name =>
      if w.written.contains id then ({ w with pen := w.pen.indicator ("*" ++ name) true }, false)
      else ({ pen := w.pen.indicator ("&" ++ name) true, written := id :: w.written }, true)

def writeKey (sheet : Sheet) (key : Key) (spot : Spot) (indent : Option Nat) (w : Writing) : Writing :=
  let (w, fresh) := match key.id with
    | some id => if isWrittenAnew key.scalar then (w, true) else sheet.writeAnchor id w
    | none => (w, true)
  if fresh then { w with pen := writeScalar key.scalar spot indent w.pen } else w

/-- Writes a field, the key on a line of its own where it is not simple. -/
def writeField (sheet : Sheet) (key : Key) (indent : Nat) (value : Writing → Writing) (w : Writing) :
    Writing :=
  let w := { w with pen := w.pen.indentTo indent }
  if sheet.isSimple w.written key then
    let w := sheet.writeKey key .simpleKey (some indent) w
    value { w with pen := w.pen.indicator ":" false }
  else
    let w := { w with pen := w.pen.indicator "?" true false true }
    let w := sheet.writeKey key .field (some indent) w
    value { w with pen := (w.pen.indentTo indent).indicator ":" true false true }

def writeItem (indent : Nat) (item : Writing → Writing) (w : Writing) : Writing :=
  item { w with pen := (w.pen.indentTo indent).indicator "-" true false true }

def writeEmpty (opening closing : String) (pen : Pen) : Pen :=
  (pen.indicator opening true true).indicator closing false

/-- The indentation of the items of a sequence, which is its mapping's where the sequence
follows a key on the same line. -/
def itemIndent (spot : Spot) (indent : Option Nat) (pen : Pen) : Nat :=
  innerIndent indent ((spot == .field || spot == .simpleKey) && !pen.indenting)

def writeNode (sheet : Sheet) : Nat → Spot → Option Nat → Nat → Writing → Writing
  | 0, _, _, _, w => w
  | fuel + 1, spot, indent, id, w =>
      match sheet.graph.content? id with
      | none => w
      | some content =>
          let isPlainScalar := match content with
            | .scalar s => isWrittenAnew s
            | _ => false
          let (w, fresh) := if isPlainScalar then (w, true) else sheet.writeAnchor id w
          if !fresh then w
          else
            match content with
            | .scalar s => { w with pen := writeScalar s spot indent w.pen }
            | .list [] | .pairs [] => { w with pen := writeEmpty "[" "]" w.pen }
            | .list items =>
                let inner := itemIndent spot indent w.pen
                items.foldl (fun w item =>
                  writeItem inner (writeNode sheet fuel .item (some inner) item) w) w
            | .pairs entries =>
                let inner := itemIndent spot indent w.pen
                entries.foldl (fun w (first, second) =>
                  writeItem inner (fun w =>
                    let level := innerIndent (some inner) false
                    [first, second].foldl (fun w part =>
                      writeItem level (writeNode sheet fuel .item (some level) part) w) w) w) w
            | .set members =>
                let w := { w with pen := w.pen.indicator "!!set" true }
                let inner := innerIndent indent false
                if members.isEmpty then { w with pen := writeEmpty "\x7b" "\x7d" w.pen }
                else
                  members.foldl (fun w member =>
                    sheet.writeField member inner
                      (fun w => { w with pen := writeScalar .null .field (some inner) w.pen }) w) w
            | .map [] => { w with pen := writeEmpty "\x7b" "\x7d" w.pen }
            | .map fields =>
                let inner := innerIndent indent false
                fields.foldl (fun w (key, value) =>
                  sheet.writeField key inner (writeNode sheet fuel .field (some inner) value) w) w

end Sheet

/-! Streams -/

/-- Writes a document; all but the first begin with a mark. -/
def writeDocument (g : Graph) (first : Bool) (pen : Pen) : Pen :=
  let fuel := 2 * g.contents.size + 2
  let anchored := (Meetings.meetAll g fuel {} g.root).again
  let pen := if first then pen else (pen.indentTo 0).indicator "---" true
  let w := ({ graph := g, anchored } : Sheet).writeNode fuel .root none g.root { pen }
  w.pen.indentTo 0

def writeDocuments : Bool → List Graph → Pen → Pen
  | _, [], pen => pen
  | first, g :: rest, pen => writeDocuments false rest (writeDocument g first pen)

/-- The documents as a YAML text, whose end is marked where it would be open. -/
def render (documents : List Graph) : String :=
  let pen := writeDocuments true documents {}
  (if pen.openEnded then (pen.indicator "..." true).indentTo 0 else pen).text

/-! Refusals -/

def scalarIsWritten (s : Scalar) : Except Fault Unit :=
  match s.textFault? with
  | none => .ok ()
  | some fault => .error fault

/-- Goes through a value and, when it is new, through its parts, with room for a number of levels. Fails
at the first part that is refused, or else gives the collections that have been met. -/
def Graph.isWritten (g : Graph) : Nat → List Nat → Nat → Except Fault (List Nat)
  | room, met, id =>
      match g.content? id with
      | none => .ok met
      | some (.scalar s) => (scalarIsWritten s).map fun _ => met
      | some content =>
          if met.contains id then .ok met
          else
            match room, content with
            | 0, _ => .error .tooDeep
            | _ + 1, .scalar _ => .ok met
            | room + 1, .list items => items.foldlM (isWritten g room) (id :: met)
            | room + 1, .pairs entries =>
                entries.foldlM (fun met (first, second) =>
                  match room with
                  | 0 => .error .tooDeep
                  | room + 1 => do isWritten g room (← isWritten g room met first) second) (id :: met)
            | _ + 1, .set members => do
                members.forM fun member => scalarIsWritten member.scalar
                return id :: met
            | room + 1, .map fields =>
                fields.foldlM (fun met (key, value) => do
                  scalarIsWritten key.scalar
                  isWritten g room met value) (id :: met)

/-- Writes documents that can be written, with room for a number of levels. -/
def write (room : Nat) (documents : List Graph) : Except Fault String := do
  documents.forM fun g => do discard (g.isWritten room [] g.root)
  return render documents

end LaunchPolicy.Yaml
