import LaunchPolicy.Json.Writer
import LaunchPolicy.Log.Record
import LaunchPolicy.Machine
import LaunchPolicy.Text.Lower

/-!
Lines of a log. A structured line is one JSON object: the standard parts, then the record's
own fields, then the fields that the log adds to every record, a later field replacing an
earlier one of its name. A line for people is text, in colours on a terminal.
-/

namespace LaunchPolicy.Log

structure StructuredStyle where
  showsTime : Bool := true
  showsLocation : Bool := false
  extra : Fields := []
deriving DecidableEq, Repr

def Location.toValue (location : Location) : Value :=
  .object [("file", location.file), ("line", location.line), ("function", location.function)]

/-- The level's name on structured lines. -/
def lowered (name : String) : String := String.ofList (Text.lower name.toList)

namespace StructuredStyle

/-- A field, if it is shown. -/
def shown (condition : Bool) (name : String) (value : Value) : Fields :=
  if condition then [(.text name, value)] else []

def standardFields (style : StructuredStyle) (r : Record) : Fields :=
  shown style.showsTime "timestamp" (.text r.time) ++
  [(.text "level", .text (lowered r.levelName)), (.text "logger", .text r.logger),
    (.text "message", .text r.message)] ++
  shown style.showsLocation "location" r.location.toValue ++
  (match r.exception with
   | some text => [(.text "exception", .text text)]
   | none => [])

def entry (style : StructuredStyle) (r : Record) : Fields :=
  override (override (style.standardFields r) r.ownFields) style.extra

def line (style : StructuredStyle) (machine : Machine) (r : Record) : Except Fault String :=
  Json.write machine.jsonWritten .compact (.map (style.entry r))

end StructuredStyle

structure PlainStyle where
  coloured : Bool := true
  showsTime : Bool := false
deriving DecidableEq, Repr

namespace PlainStyle

def escape (code : Nat) : String := "\x1b[" ++ toString code ++ "m"

def colours : List (Level × Nat) :=
  [(Level.debug, 36), (Level.info, 32), (Level.warning, 33), (Level.error, 31), (Level.critical, 35)]

def levelColumns : Nat := 8

def padded (name : String) : String := name ++ "".pushn ' ' (levelColumns - name.length)

def levelText (style : PlainStyle) (r : Record) : String :=
  let text := padded r.levelName
  match colours.find? (·.1 = r.level) with
  | some (_, colour) => if style.coloured then escape colour ++ text ++ escape 0 else text
  | none => text

def line (style : PlainStyle) (r : Record) : Text :=
  (if style.showsTime then "[" ++ r.time ++ "] " else "") ++
  style.levelText r ++ " " ++ r.logger ++ ": " ++ r.message ++
  (match r.exception with
   | some text => "\n" ++ text
   | none => "" : Text)

end PlainStyle

inductive LineStyle where
  | structured (style : StructuredStyle)
  | plain (style : PlainStyle)
deriving DecidableEq, Repr

namespace LineStyle

def line (machine : Machine) : LineStyle → Record → Except Fault Text
  | .structured style, r => (style.line machine r).map .string
  | .plain style, r => .ok (style.line r)

def isStructured : LineStyle → Bool
  | .structured _ => true
  | .plain _ => false

end LineStyle

end LaunchPolicy.Log
