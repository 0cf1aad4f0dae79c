import LaunchPolicy.Fault

/-!
Arguments of an operation, given by position or by name, matched with its parameters.
-/

namespace LaunchPolicy

/-- A parameter, required when it has no default. -/
structure Parameter where
  name : Text
  default : Option Value := none

structure Arguments where
  positional : List Value := []
  named : List (Text × Value) := []

namespace Arguments

private def valueOf (named : List (Text × Value)) (p : Parameter) : Except Fault Value :=
  match named.find? (·.1 = p.name), p.default with
  | some (_, value), _ => .ok value
  | none, some value => .ok value
  | none, none => .error .wrongType

/-- One value for each parameter. Surplus, unknown, repeated and missing arguments are faults. -/
def bind (parameters : List Parameter) (arguments : Arguments) : Except Fault (List Value) :=
  let given := arguments.positional
  let unfilled := parameters.drop given.length
  if parameters.length < given.length then .error .wrongType
  else if arguments.named.any fun a => !(unfilled.any (·.name = a.1)) then .error .wrongType
  else do return given ++ (← unfilled.mapM (valueOf arguments.named))

/-- The arguments for parameters, and the named ones that are for none of them. -/
def separate (parameters : List Parameter) (arguments : Arguments) : Arguments × List (Text × Value) :=
  let (known, free) := arguments.named.partition fun a => parameters.any (·.name = a.1)
  ({ arguments with named := known }, free)

end Arguments

end LaunchPolicy
