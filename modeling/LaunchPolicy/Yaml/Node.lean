import LaunchPolicy.Yaml.Token

/-!
The nodes of a document as they are written. Nodes are numbered in the order in which they
begin; an alias is the number of the node that has its anchor, so that a node may occur in
several places, within itself too.
-/

namespace LaunchPolicy.Yaml

inductive NodeBody where
  | scalar (text : Text)
  | sequence (items : List Nat)
  | mapping (entries : List (Nat × Nat))
deriving DecidableEq, Repr

def NodeBody.isScalar : NodeBody → Bool
  | .scalar _ => true
  | _ => false

/-- A node with the URI of its tag, which is absent where the form decides. -/
structure Node where
  tag : Option String
  /-- Written without quotes and not as a block. -/
  plain : Bool
  body : NodeBody
deriving DecidableEq, Repr

structure Written where
  nodes : Array Node
  root : Nat
deriving Repr

/-! Readers of nodes count the levels that they have gone down. -/

/-- States that know how many levels are left. -/
class HasRoom (σ : Type) where
  room : σ → Nat
  setRoom : Nat → σ → σ

/-- Reads a level further down, if there is one left. -/
def deeper {σ α : Type} [HasRoom σ] (read : StateT σ (Except Fault) α) : StateT σ (Except Fault) α := do
  match HasRoom.room (← get) with
  | 0 => throw .tooDeep
  | room + 1 =>
      modify (HasRoom.setRoom room)
      let a ← read
      modify (HasRoom.setRoom (room + 1))
      return a

end LaunchPolicy.Yaml
