import LaunchPolicy.Log.Line
import LaunchPolicy.Value.Display

/-!
What a log is told of a compilation: remarks, which are a text alone, and milestones, which
carry an event type and fields for programs that collect logs.
-/

namespace LaunchPolicy.Log

/-- What is told, before the record has a logger and a time. -/
structure Message where
  level : Level
  text : Text
  fields : Fields := []
deriving DecidableEq, Repr

namespace Message

def milestone (type : String) (fields : List (Text × Value)) : Fields :=
  (.text "event_type", .text type) :: fields.map fun field => (.text field.1, field.2)

def documentStarted (kind workload : Value) : Message where
  level := Level.info
  text := "Compiling policy for " ++ kind.plain ++ " " ++ workload.plain
  fields := milestone "document.started" [("kind", kind), ("workload", workload)]

def containerCompiled (container args env mounts : Value) : Message where
  level := Level.debug
  text := "Container " ++ container.plain ++ ": " ++ args.plain ++ " args, " ++ env.plain ++
    " env rules, " ++ mounts.plain ++ " mounts"
  fields := milestone "container.compiled"
    [("container", container), ("arg_count", args), ("env_count", env), ("mount_count", mounts)]

def documentCompiled (kind workload containers : Value) : Message where
  level := Level.info
  text := "Compiled policy for " ++ kind.plain ++ " " ++ workload.plain ++ " with " ++
    containers.plain ++ " containers"
  fields := milestone "document.compiled"
    [("kind", kind), ("workload", workload), ("container_count", containers)]

def documentSkipped (index reason : Value) : Message where
  level := Level.info
  text := "Skipping document " ++ index.plain ++ ": " ++ reason.plain
  fields := milestone "document.skipped" [("index", index), ("reason", reason)]

def documentFailed (kind workload reason : Value) : Message where
  level := Level.error
  text := "Failed to compile policy for " ++ kind.plain ++ " " ++ workload.plain ++ ": " ++ reason.plain
  fields := milestone "document.failed" [("kind", kind), ("workload", workload), ("error", reason)]

def remark (text : Text) : Message where
  level := Level.debug
  text := text

end Message

end LaunchPolicy.Log
