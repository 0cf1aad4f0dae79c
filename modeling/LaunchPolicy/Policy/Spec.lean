import LaunchPolicy.Value.Coerce

/-!
What a container may be launched with: its process and its mounts, in the form of a
runtime specification. Fields that a guest compares as text hold whatever value the
specification was read with; `toValue` and `ofValue` write and read its JSON form.
-/

namespace LaunchPolicy

/-- Version that specifications built on the runtime's defaults declare. -/
def ociVersion : String := "1.0.2-dev"

structure User where
  uid : Int := 0
  gid : Int := 0
deriving DecidableEq, Repr

/-- The launched process. An empty working directory stands for the inherited one. -/
structure ProcessSpec where
  user : User := {}
  cwd : Value := .text ""
  args : List Value := []
  env : List Value := []
  terminal : Bool := false
deriving DecidableEq, Repr

/-- A mount point; two mounts are the same mount point when their destinations are. -/
structure Mount where
  destination : Value
  source : Value := .text ""
  type : Value := .text ""
  options : List Text := []
deriving DecidableEq, Repr

structure LaunchSpec where
  ociVersion : Value := .text ""
  process : ProcessSpec := {}
  mounts : List Mount := []
deriving DecidableEq, Repr

namespace User

def toValue (user : User) : Value := .object [("uid", .int user.uid), ("gid", .int user.gid)]

def ofValue (v : Value) : Except Fault User := do
  let uid ← (← v.field "uid" (.int 0)).integer
  let gid ← (← v.field "gid" (.int 0)).integer
  return ⟨uid, gid⟩

end User

namespace ProcessSpec

/-- The terminal is written only when there is one. -/
def toValue (process : ProcessSpec) : Value :=
  .object ((if process.terminal then [("terminal", .bool true)] else [] : List (Text × Value)) ++
    ([("user", process.user.toValue), ("args", .list process.args), ("env", .list process.env),
      ("cwd", process.cwd)] : List (Text × Value)))

def ofValue (v : Value) : Except Fault ProcessSpec := do
  let user ← User.ofValue (← v.field "user" (.map []))
  let cwd ← v.field "cwd" (.text "")
  let args ← (← v.field "args" (.list [])).items
  let env ← (← v.field "env" (.list [])).items
  let terminal ← v.field "terminal" (.bool false)
  return ⟨user, cwd, args, env, terminal.truthy⟩

end ProcessSpec

namespace Mount

def toValue (mount : Mount) : Value :=
  .object [("destination", mount.destination), ("source", mount.source), ("type", mount.type),
    ("options", .texts mount.options)]

/-- Options must be a list of texts, and there must be a destination. -/
def ofValue (v : Value) : Except Fault Mount := do
  let options ← v.field "options" (.list [])
  match options.texts? with
  | none => throw (.mountOptions options)
  | some options =>
      match v.get? "destination" with
      | none => throw (.missingField "destination")
      | some destination =>
          return { destination, options
                   source := ← v.field "source" (.text "")
                   type := ← v.field "type" (.text "") }

end Mount

namespace LaunchSpec

def toValue (spec : LaunchSpec) : Value :=
  .object [("ociVersion", spec.ociVersion), ("process", spec.process.toValue),
    ("mounts", .list (spec.mounts.map Mount.toValue))]

def ofValue (v : Value) : Except Fault LaunchSpec := do
  let ociVersion ← v.field "ociVersion" (.text "")
  let process ← ProcessSpec.ofValue (← v.field "process" (.map []))
  let mounts ← (← (← v.field "mounts" (.list [])).items).mapM Mount.ofValue
  return ⟨ociVersion, process, mounts⟩

end LaunchSpec

end LaunchPolicy
