import LaunchPolicy.Value.Basic

/-!
Documents as graphs. The values of a document are numbered, and collections refer to their
parts by number, so that a value may have several places and may contain itself. Read as
trees, two places of one value hold equal values; changed, both change.
-/

namespace LaunchPolicy.Yaml

/-- A scalar at a key's place, with its number if it has one. -/
structure Key where
  scalar : Scalar
  id : Option Nat := none
deriving DecidableEq, Repr

inductive Content where
  | scalar (s : Scalar)
  | list (items : List Nat)
  | pairs (entries : List (Nat × Nat))
  | set (members : List Key)
  | map (fields : List (Key × Nat))
deriving DecidableEq, Repr

structure Graph where
  contents : Array Content
  root : Nat
deriving DecidableEq, Repr

/-- Gives a key its value: in the place of the field it replaces, or last. -/
def putField (fields : List (Key × Nat)) (key : Key) (value : Nat) : List (Key × Nat) :=
  match fields with
  | [] => [(key, value)]
  | (known, old) :: rest =>
      if known.scalar.sameKey key.scalar then (known, value) :: rest
      else (known, old) :: putField rest key value

def field? (fields : List (Key × Nat)) (name : String) : Option Nat :=
  (fields.find? fun entry => entry.1.scalar.sameKey (.text name)).map (·.2)

namespace Content

/-- A collection's value from those of its parts. -/
def view (parts : Nat → Value) : Content → Value
  | .scalar s => .scalar s
  | .list items => .list (items.map parts)
  | .pairs entries => .list (entries.map fun entry => .pair (parts entry.1) (parts entry.2))
  | .set members => .set (members.map (·.scalar))
  | .map fields => .map (fields.map fun entry => (entry.1.scalar, parts entry.2))

end Content

namespace Graph

def content? (g : Graph) (id : Nat) : Option Content := g.contents[id]?

/-- The values read as trees that end at a depth, where null stands for what is below. -/
def views (g : Graph) : Nat → Array Value
  | 0 => g.contents.map (Content.view fun _ => .null)
  | depth + 1 =>
      let below := g.views depth
      g.contents.map (Content.view fun id => below.getD id .null)

/-- The root read as a tree of a depth. -/
def view (g : Graph) (depth : Nat) : Value := (g.views depth).getD g.root .null

/-- A depth at which the tree of a graph without cycles is complete. -/
def fullDepth (g : Graph) : Nat := g.contents.size

def isNull (g : Graph) : Bool := g.content? g.root == some (.scalar .null)

def set (g : Graph) (id : Nat) (content : Content) : Graph :=
  { g with contents := g.contents.setIfInBounds id content }

/-- Numbers a new value. -/
def add (g : Graph) (content : Content) : Graph × Nat :=
  ({ g with contents := g.contents.push content }, g.contents.size)

/-- Sets the field of the mapping with the number `id`. -/
def setField (g : Graph) (id : Nat) (name : String) (value : Nat) : Graph :=
  match g.content? id with
  | some (.map fields) => g.set id (.map (putField fields { scalar := .text name } value))
  | _ => g

/-- The field of a value that is a mapping. -/
def field? (g : Graph) (id : Nat) (name : String) : Option Nat :=
  match g.content? id with
  | some (.map fields) => Yaml.field? fields name
  | _ => none

def isMap (g : Graph) (id : Nat) : Bool :=
  match g.content? id with
  | some (.map _) => true
  | _ => false

end Graph

end LaunchPolicy.Yaml
