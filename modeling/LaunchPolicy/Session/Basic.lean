import LaunchPolicy.Session.World

/-!
The state of a compilation: which config maps it has read, what it has asked of its
surroundings and what it has noted along the way, oldest first. An action that fails
keeps the state that it has reached.
-/

namespace LaunchPolicy

/-- What a compilation notes. -/
inductive Event where
  | extracted (kind workload : Text) (containers initContainers volumes : Nat)
  | inspecting (command : List Text)
  | readingConfigMap (space map : Text)
  | madeWritable (destination : Value)
  | buildingSandbox (image : Text)
  | annotated (kind : Text) (size : Nat)
  | documentStarted (kind workload : Text)
  | containerCompiled (container : Text) (args env mounts : Nat)
  | documentCompiled (kind workload : Text) (containers : Nat)
  | documentSkipped (index : Nat) (reason : PolicyError)
  | documentFailed (kind workload : Text) (reason : PolicyError)
deriving DecidableEq, Repr

/-- A config map that has been read, by namespace and name. -/
structure KnownMap where
  space : Scalar
  map : Text
  data : Fields
deriving DecidableEq, Repr

structure Session where
  connected : Bool := false
  maps : List KnownMap := []
  calls : List Call := []
  events : List Event := []
deriving DecidableEq, Repr

/-- An action in given surroundings. -/
abbrev Compile := ReaderT World (ExceptT Failure (StateM Session))

namespace Compile

variable {α : Type}

def run (action : Compile α) (world : World) (session : Session) : Except Failure α × Session :=
  (ReaderT.run action world).run session

def ofExcept (r : Except Failure α) : Compile α := fun _ => ExceptT.mk (pure r)

def fail (e : PolicyError) : Compile α := ofExcept (.error (.policy e))

def ofFault (r : Except Fault α) : Compile α := ofExcept (r.mapError .data)

def ofPolicy (r : Except PolicyError α) : Compile α := ofExcept (r.mapError .policy)

def machine : Compile Machine := do return (← read).machine

def note (event : Event) : Compile Unit := modify fun s => { s with events := s.events ++ [event] }

def ask (call : Call) : Compile Unit := modify fun s => { s with calls := s.calls ++ [call] }

end Compile

end LaunchPolicy
