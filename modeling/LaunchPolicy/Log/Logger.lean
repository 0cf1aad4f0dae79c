import LaunchPolicy.Log.Message
import LaunchPolicy.Value.Coerce

/-!
Loggers. Their names form a hierarchy along the dots; a logger without a level of its own
has that of the nearest logger above it. Records of the program's loggers go to one sink;
records of others are written as bare messages when they are warnings at least.
-/

namespace LaunchPolicy.Log

inductive Outlet where
  | output
  | errors
deriving DecidableEq, Repr

/-- Where records are written, and how. -/
structure Sink where
  style : LineStyle := .plain {}
  outlet : Outlet := .errors
deriving DecidableEq, Repr

def programLogger : String := "ccpolicy"

def topLogger : String := "root"

structure Logging where
  /-- Own levels of loggers. -/
  levels : List (String × Level) := [(topLogger, Level.warning), (programLogger, Level.warning)]
  /-- Where records of the program go, once that is settled. -/
  sink : Option Sink := none
deriving DecidableEq, Repr

/-- The names above a name, nearest first. -/
def namesAbove (name : String) : List String :=
  let parts := name.splitOn "."
  (List.range (parts.length - 1)).map fun dropped => ".".intercalate (parts.take (parts.length - 1 - dropped))

namespace Logging

def ownLevel (logging : Logging) (name : String) : Level :=
  match logging.levels.find? (·.1 = name) with
  | some (_, level) => level
  | none => Level.unset

def setLevel (logging : Logging) (name : String) (level : Level) : Logging :=
  { logging with levels := (name, level) :: logging.levels.filter (·.1 ≠ name) }

/-- Sets a logger's own level to a number or a name; null leaves it. -/
def setLevelOf (logging : Logging) (name : String) (level : Value) : Except Fault Logging :=
  match level with
  | .null => .ok logging
  | .int level => .ok (logging.setLevel name level)
  | .bool b => .ok (logging.setLevel name (if b then 1 else 0))
  | .text levelName => match Level.ofName? levelName.outline with
      | some level => .ok (logging.setLevel name level)
      | none => .error .badValue
  | _ => .error .wrongType

/-- The level from which on a logger's records count. -/
def threshold (logging : Logging) (name : String) : Level :=
  match ((name :: namesAbove name ++ [topLogger]).map logging.ownLevel).find? (· ≠ Level.unset) with
  | some level => level
  | none => Level.unset

/-- Records without importance never count. -/
def counts (logging : Logging) (name : String) (level : Level) : Bool :=
  Level.unset < level && logging.threshold name ≤ level

def isOfProgram (name : String) : Bool := name == programLogger || (namesAbove name).contains programLogger

def bareLine (r : Record) : Text :=
  match r.exception with
  | some text => r.message ++ "\n" ++ text
  | none => r.message

/-- What is written of a record that counts, and where. A record that has no line is passed over,
unless it is nested too deeply. -/
def written (logging : Logging) (machine : Machine) (r : Record) : Except Fault (Option (Outlet × Text)) :=
  if isOfProgram r.logger then
    match logging.sink with
    | none => .ok none
    | some sink =>
        match sink.style.line machine r with
        | .ok line => .ok (some (sink.outlet, line ++ "\n"))
        | .error .tooDeep => .error .tooDeep
        | .error _ => .ok none
  else if Level.warning ≤ r.level then .ok (some (.errors, bareLine r ++ "\n"))
  else .ok none

/-- The fields of every record; empty values stand for none. -/
def extraFields (extra : Value) : Except Fault Fields :=
  if extra.truthy then
    match extra with
    | .map fields => .ok fields
    | .text _ => .error .badValue
    | _ => .error .wrongType
  else .ok []

/-- The level of a name in letters of either case. -/
def levelOf (level : Value) : Except Fault Level :=
  match level with
  | .text name => match Level.ofText? name.outline with
      | some level => .ok level
      | none => .error .badValue
  | _ => .error .notText

/-- The style of a format; colours are for terminals. -/
def styleOf (format extra : Value) (terminal : Bool) : Except Fault LineStyle :=
  if format = .text "json" then do return .structured { extra := ← extraFields extra }
  else .ok (.plain { coloured := terminal })

def outletOf (output : Value) : Outlet := if output = .text "stdout" then .output else .errors

/-- Sets level and sink of the program's loggers. -/
def configure (logging : Logging) (level format output extra : Value) (terminal : Bool) :
    Except Fault Logging := do
  let style ← styleOf format extra terminal
  let level ← levelOf level
  return { logging.setLevel programLogger level with sink := some { style, outlet := outletOf output } }

end Logging

structure Logger where
  name : String
  context : Fields := []
deriving DecidableEq, Repr

namespace Logger

def ofPart (part : String) : Logger := { name := programLogger ++ "." ++ part }

def ofName (name : String) : Logger := { name := if name.isEmpty then topLogger else name }

def setContext (logger : Logger) (fields : Fields) : Logger :=
  { logger with context := override logger.context fields }

def clearContext (logger : Logger) : Logger := { logger with context := [] }

/-- What stands for the error of a record when there is none. -/
def noError : String := "NoneType: None"

/-- The first field whose name is not free. -/
def reserved? (fields : Fields) : Option Text :=
  fields.findSome? fun entry =>
    match entry.1 with
    | .text name => if Record.isReserved name then some name else none
    | _ => none

/-- What is written of a message. -/
def log (logger : Logger) (logging : Logging) (machine : Machine) (message : Message)
    (reportsError : Bool) (time : String) : Except Fault (Option (Outlet × Text)) :=
  if logging.counts logger.name message.level then
    let fields := override logger.context message.fields
    match reserved? fields with
    | some name => .error (.reservedField name)
    | none => logging.written machine
        { logger := logger.name, level := message.level, message := message.text, time,
          exception := if reportsError then some noError else none, fields }
  else .ok none

end Logger

end LaunchPolicy.Log
