import LaunchPolicy.Value.Basic

/-!
Log records: what one line of a log reports. Beside its standard parts a record has fields
of its own: those whose names differ from the names of the standard parts.
-/

namespace LaunchPolicy.Log

/-- How much a record matters. Six numbers have names. -/
abbrev Level := Int

namespace Level

/-- The level of a logger that leaves its threshold to the loggers above it. -/
def unset : Level := 0
def debug : Level := 10
def info : Level := 20
def warning : Level := 30
def error : Level := 40
def critical : Level := 50

def names : List (String × Level) :=
  [("NOTSET", unset), ("DEBUG", debug), ("INFO", info), ("WARNING", warning), ("ERROR", error),
    ("CRITICAL", critical), ("WARN", warning), ("FATAL", critical)]

def name (level : Level) : String :=
  match names.find? (·.2 = level) with
  | some (name, _) => name
  | none => "Level " ++ toString level

def ofName? (name : String) : Option Level := (names.find? (·.1 = name)).map (·.2)

/-- The capital of a letter that a level's name may be written with: dotless and long forms
have the capitals of the usual ones. -/
def capital (c : Char) : Char :=
  if c = 'ı' then 'I' else if c = 'ſ' then 'S' else c.toUpper

/-- The level of a name in letters of either case. -/
def ofText? (text : String) : Option Level := ofName? (text.map capital)

end Level

structure Location where
  file : Value := .null
  line : Value := .null
  function : Value := .null
deriving DecidableEq, Repr

structure Record where
  logger : String
  level : Level
  levelName : String := level.name
  message : Text
  /-- The time at which the record was made, as its line shows it. -/
  time : String := ""
  location : Location := {}
  /-- The text of the error that the record reports. -/
  exception : Option Text := none
  /-- What was set on the record, be it a standard part or not. -/
  fields : Fields := []
deriving DecidableEq, Repr

namespace Record

/-- Names of the standard parts, which no field of its own has. -/
def reserved : List Text :=
  ["name", "msg", "args", "levelname", "levelno", "pathname", "filename", "module", "exc_info",
    "exc_text", "stack_info", "lineno", "funcName", "created", "msecs", "relativeCreated", "thread",
    "threadName", "processName", "process", "message", "asctime"]

def isReserved (name : Text) : Bool := reserved.contains name

def isOwn : Scalar → Bool
  | .text name => !isReserved name
  | _ => true

def ownFields (r : Record) : Fields := r.fields.filter fun entry => isOwn entry.1

end Record

/-- Fields with later values in the places of the earlier ones that they replace. -/
def override (fields later : Fields) : Fields :=
  later.foldl (fun fields entry => fields.put entry.1 entry.2) fields

end LaunchPolicy.Log
