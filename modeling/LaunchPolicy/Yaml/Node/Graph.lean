import LaunchPolicy.Machine
import LaunchPolicy.Yaml.Graph
import LaunchPolicy.Yaml.Node
import LaunchPolicy.Yaml.ScalarValue

/-!
The graph of a document's nodes: what each node stands for under its tag. The root comes
first, then the parts of each collection, collections in the order in which they are met.
-/

namespace LaunchPolicy.Yaml

/-- The tag of a node, by its form where none is written. -/
def Node.kind (node : Node) : Tag :=
  match node.tag, node.body with
  | some uri, _ => Tag.ofUri uri
  | none, .scalar text => if node.plain then Tag.ofPlain text.outline else .str
  | none, .sequence _ => .seq
  | none, .mapping _ => .map

structure Tagged where
  tag : Tag
  body : NodeBody
deriving DecidableEq, Repr

/-- What is known of each node while a document is read. -/
structure Building where
  nodes : Array Tagged
  contents : Array (Option Content)
  /-- Collections whose parts are still to be read. -/
  waiting : List Nat := []
  /-- Levels of references that are left. -/
  room : Nat

instance : HasRoom Building := ⟨Building.room, fun room s => { s with room }⟩

abbrev Build := StateT Building (Except Fault)

namespace Build

def refuse {α : Type} : Build α := throw .notYaml

def nodeAt (id : Nat) : Build Tagged := do
  match (← get).nodes[id]? with
  | some node => return node
  | none => refuse

def setNode (id : Nat) (node : Tagged) : Build Unit :=
  modify fun s => { s with nodes := s.nodes.setIfInBounds id node }

def setContent (id : Nat) (content : Content) : Build Unit :=
  modify fun s => { s with contents := s.contents.setIfInBounds id (some content) }

def entriesOf (id : Nat) : Build (List (Nat × Nat)) := do
  match (← nodeAt id).body with
  | .mapping entries => return entries
  | _ => refuse

def itemsOf (id : Nat) : Build (List Nat) := do
  match (← nodeAt id).body with
  | .sequence items => return items
  | _ => refuse

/-! Fields taken over from other mappings -/

def setEntries (id : Nat) (entries : List (Nat × Nat)) : Build Unit := do
  setNode id { ← nodeAt id with body := .mapping entries }

mutual

/-- Puts the fields of the mappings that a mapping refers to in front of its own. -/
def flatten : Nat → Nat → Build Unit
  | 0, _ => refuse
  | fuel + 1, id => do
      let inherited ← flattenFrom fuel id 0
      if !inherited.isEmpty then setEntries id (inherited ++ (← entriesOf id))

/-- The inherited fields, from the entry at a position on; entries that name mappings to
inherit from are removed. -/
def flattenFrom : Nat → Nat → Nat → Build (List (Nat × Nat))
  | 0, _, _ => refuse
  | fuel + 1, id, position => do
      let entries ← entriesOf id
      match entries[position]? with
      | none => return []
      | some (key, value) => do
          let keyNode ← nodeAt key
          if keyNode.tag = .merge then
            setEntries id (entries.eraseIdx position)
            let inherited ← inheritedFrom fuel value
            return inherited ++ (← flattenFrom fuel id position)
          else
            if keyNode.tag = .value then setNode key { keyNode with tag := .str }
            flattenFrom fuel id (position + 1)

/-- The fields of one mapping, or of a sequence of mappings of which later ones come first. -/
def inheritedFrom : Nat → Nat → Build (List (Nat × Nat))
  | 0, _ => refuse
  | fuel + 1, id => do
      match (← nodeAt id).body with
      | .mapping _ => do
          deeper (flatten fuel id)
          entriesOf id
      | .sequence items => inheritedFromAll fuel items
      | .scalar _ => refuse

def inheritedFromAll : Nat → List Nat → Build (List (Nat × Nat))
  | 0, _ => refuse
  | _ + 1, [] => return []
  | fuel + 1, id :: ids => do
      match (← nodeAt id).body with
      | .mapping _ => do
          deeper (flatten fuel id)
          let fields ← entriesOf id
          return (← inheritedFromAll fuel ids) ++ fields
      | _ => refuse

end

/-! Values of nodes -/

/-- The text of a scalar, or of the value of the field `=` of a mapping, which may be a mapping again. -/
def textOf : Nat → Nat → Build Text
  | 0, _ => throw .tooDeep
  | room + 1, id => do
      match (← nodeAt id).body with
      | .scalar text => return text
      | .sequence _ => refuse
      | .mapping entries => do
          let tags ← entries.mapM fun entry => do return ((← nodeAt entry.1).tag, entry.2)
          match tags.find? (·.1 = .value) with
          | some (_, value) => textOf room value
          | none => refuse

/-- The content of a collection before its parts are read. -/
def emptyContent? : Tag → Option Content
  | .seq => some (.list [])
  | .omap | .pairs => some (.pairs [])
  | .set => some (.set [])
  | .map => some (.map [])
  | _ => none

/-- Reads a node the first time that it is met. A collection waits for its parts. -/
def meet (id : Nat) : Build Content := do
  match (← get).contents[id]? with
  | some (some content) => return content
  | some none => do
      let node ← nodeAt id
      match emptyContent? node.tag with
      | some content => do
          setContent id content
          modify fun s => { s with waiting := s.waiting ++ [id] }
          return content
      | none => do
          match scalarOf? node.tag "" with
          | none => refuse
          | some _ => do
              let text ← textOf (← get).room id
              if node.tag = .timestamp && !node.body.isScalar then throw .wrongType
              match scalarOf? node.tag text with
              | some r => do
                  let content := Content.scalar (← r)
                  setContent id content
                  return content
              | none => refuse
  | none => refuse

/-- A key is a scalar. -/
def meetKey (id : Nat) : Build Key := do
  match ← meet id with
  | .scalar s => return { scalar := s, id := some id }
  | _ => refuse

/-- The fields of a mapping, of which a repeated one keeps its place and takes the last value. -/
def fieldsOf (id : Nat) : Build (List (Key × Nat)) := do
  let size := (← get).nodes.size
  let total := (← get).nodes.foldl (fun n node => match node.body with
    | .mapping entries => n + entries.length
    | .sequence items => n + items.length
    | .scalar _ => n) 0
  let _ ← entriesOf id
  flatten ((size + 2) * (total + 2)) id
  (← entriesOf id).foldlM (fun fields (key, value) => do
    let key ← meetKey key
    let _ ← meet value
    return putField fields key value) []

/-- A pair, written as a mapping with a single field. -/
def pairOf (id : Nat) : Build (Nat × Nat) := do
  match ← entriesOf id with
  | [(key, value)] => do
      let _ ← meet key
      let _ ← meet value
      return (key, value)
  | _ => refuse

/-- Reads the parts of a collection; the members of a set come in an order of their own. -/
def complete (arrange : List Key → List Key) (id : Nat) : Build Unit := do
  let content : Content ← match (← nodeAt id).tag with
    | .seq => do
        let items ← itemsOf id
        for item in items do
          let _ ← meet item
        pure (.list items)
    | .omap | .pairs => do pure (.pairs (← (← itemsOf id).mapM pairOf))
    | .set => do pure (.set (arrange ((← fieldsOf id).map (·.1))))
    | _ => do pure (.map (← fieldsOf id))
  setContent id content

/-- Completes the waiting collections, one for each step. -/
def completeAll (arrange : List Key → List Key) : Nat → Build Unit
  | 0 => return
  | fuel + 1 => do
      match (← get).waiting with
      | [] => return
      | id :: rest => do
          modify fun s => { s with waiting := rest }
          complete arrange id
          completeAll arrange fuel

end Build

def Written.graph (machine : Machine) (written : Written) : Except Fault Graph := do
  let nodes := written.nodes.map fun node => { tag := node.kind, body := node.body : Tagged }
  let start : Building := { nodes, contents := nodes.map fun _ => none, room := machine.yamlRead }
  let build : Build Unit := do
    let _ ← Build.meet written.root
    Build.completeAll machine.arrange nodes.size
  let (_, built) ← build.run start
  return { contents := built.contents.map (·.getD (.scalar .null)), root := written.root }

end LaunchPolicy.Yaml
