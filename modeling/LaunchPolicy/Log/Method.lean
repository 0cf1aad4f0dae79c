import LaunchPolicy.Log.Logger
import LaunchPolicy.Value.Arguments

/-!
What a logger can be told, by name: a text at a level with free fields, or a milestone.
-/

namespace LaunchPolicy.Log

inductive Method where
  /-- At the level that is the first argument. -/
  | log
  | debug
  | info
  | warning
  | error
  | documentStarted
  | containerCompiled
  | documentCompiled
  | documentSkipped
  | documentFailed
deriving DecidableEq, Repr

namespace Method

def names : List (String × Method) :=
  [("log", .log), ("debug", .debug), ("info", .info), ("warning", .warning), ("error", .error),
    ("document_started", .documentStarted), ("container_compiled", .containerCompiled),
    ("document_compiled", .documentCompiled), ("document_skipped", .documentSkipped),
    ("document_failed", .documentFailed)]

def ofName? (name : String) : Option Method := (names.find? (·.1 = name)).map (·.2)

/-- Names that no argument may have beside those of parameters. -/
def receiver : Parameter := ⟨"self", some .null⟩

/-- A text at a level. The named arguments that are for no parameter are the record's fields;
the flag says whether the error at hand is reported. -/
def levelled (given : List Value) (arguments : Arguments) : Except Fault (Message × Bool) := do
  let parameters : List Parameter :=
    [receiver, ⟨"level", none⟩, ⟨"message", none⟩, ⟨"exc_info", some (.bool false)⟩]
  let arguments := { arguments with positional := .null :: given ++ arguments.positional : Arguments }
  let (known, fields) := arguments.separate parameters
  match ← known.bind parameters with
  | [_, .int level, text, reportsError] =>
      return ({ level, text := text.plain, fields := fields.map fun f => (.text f.1, f.2) },
        reportsError.truthy)
  | _ => throw .wrongType

def values (names : List String) (arguments : Arguments) : Except Fault (List Value) := do
  let parameters := receiver :: names.map fun name : String => ⟨name, none⟩
  return (← { arguments with positional := .null :: arguments.positional : Arguments }.bind parameters).drop 1

/-- What is logged of the arguments, and whether an error is reported. -/
def message (method : Method) (arguments : Arguments) : Except Fault (Message × Bool) := do
  match method with
  | .log => levelled [] arguments
  | .debug => levelled [.int Level.debug] arguments
  | .info => levelled [.int Level.info] arguments
  | .warning => levelled [.int Level.warning] arguments
  | .error => levelled [.int Level.error] arguments
  | .documentStarted => match ← values ["kind", "workload"] arguments with
      | [kind, workload] => return (.documentStarted kind workload, false)
      | _ => throw .wrongType
  | .containerCompiled =>
      match ← values ["container", "arg_count", "env_count", "mount_count"] arguments with
      | [container, args, env, mounts] => return (.containerCompiled container args env mounts, false)
      | _ => throw .wrongType
  | .documentCompiled => match ← values ["kind", "workload", "container_count"] arguments with
      | [kind, workload, containers] => return (.documentCompiled kind workload containers, false)
      | _ => throw .wrongType
  | .documentSkipped => match ← values ["index", "reason"] arguments with
      | [index, reason] => return (.documentSkipped index reason, false)
      | _ => throw .wrongType
  | .documentFailed => match ← values ["kind", "workload", "error"] arguments with
      | [kind, workload, reason] => return (.documentFailed kind workload reason, false)
      | _ => throw .wrongType

end Method

/-- What is written when a method of a logger is called. -/
def Logger.call (logger : Logger) (logging : Logging) (machine : Machine) (method : Method)
    (arguments : Arguments) (time : String) : Except Fault (Option (Outlet × Text)) := do
  let (message, reportsError) ← method.message arguments
  logger.log logging machine message reportsError time

end LaunchPolicy.Log
