import LaunchPolicy.Yaml.Node

/-!
The documents of a stream, read from its tokens: what each collection may hold, where a
node may be left out, and which properties a node has.
-/

namespace LaunchPolicy.Yaml

/-- The tokens ahead, and what is known of the document so far. -/
structure Composing where
  ahead : List Token
  /-- Why the tokens end where they end. -/
  fault : Fault
  handles : List (String × String) := []
  anchors : List (String × Nat) := []
  nodes : Array Node := #[]
  /-- Levels of nesting that are left. -/
  room : Nat

instance : HasRoom Composing := ⟨Composing.room, fun room s => { s with room }⟩

abbrev Compose := StateT Composing (Except Fault)

namespace Compose

def refuse {α : Type} : Compose α := throw .notYaml

def peek : Compose Token := do
  let s ← get
  match s.ahead with
  | token :: _ => return token
  | [] => throw s.fault

def advance : Compose Unit := modify fun s => { s with ahead := s.ahead.tail }

/-- Handles that need no directive. -/
def standardHandles : List (String × String) := [("!", "!"), ("!!", "tag:yaml.org,2002:")]

/-! Nodes -/

/-- Numbers a new node and files it under its anchor, which must be new in the document. -/
def register (anchor : Option String) (node : Node) : Compose Nat := do
  let s ← get
  match anchor with
  | none =>
      set { s with nodes := s.nodes.push node }
      return s.nodes.size
  | some name =>
      if s.anchors.any (·.1 = name) then refuse
      else
        set { s with nodes := s.nodes.push node, anchors := (name, s.nodes.size) :: s.anchors }
        return s.nodes.size

def fill (id : Nat) (body : NodeBody) : Compose Unit :=
  modify fun s => { s with nodes := s.nodes.modify id fun node => { node with body } }

/-- A node that is left out. -/
def leftOut : Compose Nat := register none { tag := none, plain := true, body := .scalar "" }

def aliased (name : String) : Compose Nat := do
  match (← get).anchors.find? (·.1 = name) with
  | some (_, id) => return id
  | none => refuse

/-- The URI of a tag, whose handle must be known. -/
def uriOf (handle : Option String) (suffix : String) : Compose String := do
  match handle with
  | none => return suffix
  | some handle =>
      match (← get).handles.find? (·.1 = handle) with
      | some (_, uri) => return uri ++ suffix
      | none => refuse

structure Properties where
  anchor : Option String := none
  tag : Option String := none

/-- An anchor and a tag in either order, each of which may be absent. -/
def properties : Compose Properties := do
  match ← peek with
  | .anchor name => do
      advance
      match ← peek with
      | .tag handle suffix => do
          advance
          return { anchor := some name, tag := some (← uriOf handle suffix) }
      | _ => return { anchor := some name }
  | .tag handle suffix => do
      advance
      match ← peek with
      | .anchor name => do
          advance
          return { anchor := some name, tag := some (← uriOf handle suffix) }
      | _ => return { tag := some (← uriOf handle suffix) }
  | _ => return {}

/-- The tag `!` leaves a node to its form. -/
def Properties.ownTag (p : Properties) : Option String := if p.tag = some "!" then none else p.tag

def Properties.scalar (p : Properties) (text : Text) (plain : Bool) : Compose Nat :=
  register p.anchor
    { tag := p.ownTag, plain := plain || p.tag = some "!", body := .scalar text }

/-- Numbers a collection before it reads its content, which may refer to it. -/
def Properties.collection (p : Properties) (empty : NodeBody) (read : Compose NodeBody) : Compose Nat := do
  let id ← register p.anchor { tag := p.ownTag, plain := false, body := empty }
  fill id (← deeper read)
  return id

inductive Place where
  /-- Within brackets. -/
  | flow
  | block
  /-- In a block mapping, where a sequence need not be indented. -/
  | field
deriving DecidableEq

mutual

def node : Nat → Place → Compose Nat
  | 0, _ => refuse
  | fuel + 1, place => do
      match ← peek with
      | .alias name => do
          advance
          aliased name
      | _ => do
          let p ← properties
          match ← peek, place with
          | .blockEntry, .field => p.collection (.sequence []) (.sequence <$> looseItems fuel)
          | .scalar text plain, _ => do
              advance
              p.scalar text plain
          | .flowSequenceStart, _ => do
              advance
              p.collection (.sequence []) (.sequence <$> flowItems fuel true)
          | .flowMappingStart, _ => do
              advance
              p.collection (.mapping []) (.mapping <$> flowFields fuel true)
          | .blockSequenceStart, .block | .blockSequenceStart, .field => do
              advance
              p.collection (.sequence []) (.sequence <$> blockItems fuel)
          | .blockMappingStart, .block | .blockMappingStart, .field => do
              advance
              p.collection (.mapping []) (.mapping <$> blockFields fuel)
          | _, _ =>
              if p.anchor.isSome || p.tag.isSome then p.scalar "" p.ownTag.isNone else refuse

/-- Items of an indented sequence, up to the end of its indentation. -/
def blockItems : Nat → Compose (List Nat)
  | 0 => refuse
  | fuel + 1 => do
      match ← peek with
      | .blockEntry => do
          advance
          let item ← match ← peek with
            | .blockEntry | .blockEnd => leftOut
            | _ => node fuel .block
          return item :: (← blockItems fuel)
      | .blockEnd => do
          advance
          return []
      | _ => refuse

/-- Items of a sequence that stands at the indentation of its mapping. -/
def looseItems : Nat → Compose (List Nat)
  | 0 => refuse
  | fuel + 1 => do
      match ← peek with
      | .blockEntry => do
          advance
          let item ← match ← peek with
            | .blockEntry | .key | .value | .blockEnd => leftOut
            | _ => node fuel .block
          return item :: (← looseItems fuel)
      | _ => return []

/-- A key or value of a block mapping, which may be left out. -/
def blockPart : Nat → Compose Nat
  | 0 => refuse
  | fuel + 1 => do
      match ← peek with
      | .key | .value | .blockEnd => leftOut
      | _ => node fuel .field

def blockFields : Nat → Compose (List (Nat × Nat))
  | 0 => refuse
  | fuel + 1 => do
      match ← peek with
      | .blockEnd => do
          advance
          return []
      | .key => do
          advance
          let key ← blockPart fuel
          let value ← blockValue fuel
          return (key, value) :: (← blockFields fuel)
      | _ => refuse

def blockValue : Nat → Compose Nat
  | 0 => refuse
  | fuel + 1 => do
      match ← peek with
      | .value => do
          advance
          blockPart fuel
      | _ => leftOut

/-- Items between brackets; an item may be a mapping with a single field. -/
def flowItems : Nat → Bool → Compose (List Nat)
  | 0, _ => refuse
  | fuel + 1, first => do
      match ← peek with
      | .flowSequenceEnd => do
          advance
          return []
      | token => do
          if !first then
            if token = .flowEntry then advance else refuse
          match ← peek with
          | .flowSequenceEnd => do
              advance
              return []
          | .key => do
              let item ← Properties.collection {} (.mapping []) do
                advance
                return .mapping [← flowPair fuel .flowSequenceEnd]
              return item :: (← flowItems fuel false)
          | _ => do
              let item ← node fuel .flow
              return item :: (← flowItems fuel false)

/-- A key after its mark, and its value; both may be left out. -/
def flowPair : Nat → Token → Compose (Nat × Nat)
  | 0, _ => refuse
  | fuel + 1, closing => do
      let token ← peek
      let key ←
        if token = .value || token = .flowEntry || token = closing then leftOut else node fuel .flow
      return (key, ← flowValue fuel closing)

def flowValue : Nat → Token → Compose Nat
  | 0, _ => refuse
  | fuel + 1, closing => do
      match ← peek with
      | .value => do
          advance
          let token ← peek
          if token = .flowEntry || token = closing then leftOut else node fuel .flow
      | _ => leftOut

/-- Fields between braces; a node without a mark is a key without a value. -/
def flowFields : Nat → Bool → Compose (List (Nat × Nat))
  | 0, _ => refuse
  | fuel + 1, first => do
      match ← peek with
      | .flowMappingEnd => do
          advance
          return []
      | token => do
          if !first then
            if token = .flowEntry then advance else refuse
          match ← peek with
          | .flowMappingEnd => do
              advance
              return []
          | .key => do
              advance
              let pair ← flowPair fuel .flowMappingEnd
              return pair :: (← flowFields fuel false)
          | _ => do
              let key ← node fuel .flow
              let value ← leftOut
              return (key, value) :: (← flowFields fuel false)

end

/-! Documents -/

/-- The directives before a document: at most one version, which must be of the first major
version, and at most one of each tag handle. -/
def directives : Nat → Bool → List (String × String) → Compose (List (String × String))
  | 0, _, _ => refuse
  | fuel + 1, versioned, handles => do
      match ← peek with
      | .directive d => do
          advance
          match d with
          | .version major =>
              if versioned || major ≠ 1 then refuse else directives fuel true handles
          | .tag handle uri =>
              if handles.any (·.1 = handle) then refuse
              else directives fuel versioned ((handle, uri) :: handles)
          | .other => directives fuel versioned handles
      | _ => return handles

def enoughFuel : Compose Nat := return 3 * (← get).ahead.length + 3

/-- The nodes of one document, after which the end of the document is in sight. -/
def document (root : Compose Nat) : Compose Written := do
  modify fun s => { s with anchors := [], nodes := #[] }
  let root ← root
  match ← peek with
  | .documentEnd => advance
  | _ => pure ()
  return ⟨(← get).nodes, root⟩

def rootNode : Compose Nat := do
  match ← peek with
  | .directive _ | .documentStart | .documentEnd | .streamEnd => leftOut
  | _ => node (← enoughFuel) .block

def skipDocumentEnds : Nat → Compose Unit
  | 0 => return
  | fuel + 1 => do
      match ← peek with
      | .documentEnd => do
          advance
          skipDocumentEnds fuel
      | _ => return

/-- Whether no document follows. -/
def atEnd : Compose Bool := do
  skipDocumentEnds (← enoughFuel)
  return (← peek) = .streamEnd

/-- A document after its start mark, or none at the end of the stream. -/
def markedDocument? : Compose (Option Written) := do
  skipDocumentEnds (← enoughFuel)
  match ← peek with
  | .streamEnd => return none
  | _ => do
      let handles ← directives (← enoughFuel) false []
      match ← peek with
      | .documentStart => do
          advance
          modify fun s => { s with handles := handles ++ standardHandles }
          return some (← document rootNode)
      | _ => refuse

/-- The first document, which needs no start mark. -/
def firstDocument? : Compose (Option Written) := do
  match ← peek with
  | .directive _ | .documentStart | .streamEnd => markedDocument?
  | _ => do
      modify fun s => { s with handles := standardHandles }
      return some (← document (node (← enoughFuel) .block))

end Compose

namespace Composing

/-- Before the first token. -/
def start (room : Nat) (tokens : Tokens) : Composing :=
  { ahead := tokens.items, fault := tokens.fault.getD .notYaml, room }

end Composing

end LaunchPolicy.Yaml
