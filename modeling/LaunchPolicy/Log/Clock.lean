import LaunchPolicy.Fault
import LaunchPolicy.Log.Line
import LaunchPolicy.Value.Calendar

/-!
The time of a log record as its line shows it, from seconds since the start of 1970 in
universal time. The years from 1 to 9999 can be shown.
-/

namespace LaunchPolicy.Log

/-- A point of time: whole seconds since the start of 1970, and microseconds. -/
structure Instant where
  seconds : Int
  microsecond : Nat
deriving DecidableEq, Repr

namespace Instant

/-- Seconds that can be counted. -/
def greatest : Int := Nat.pow 2 63

def checked (seconds : Int) (microsecond : Nat) : Except Fault Instant :=
  if -greatest ≤ seconds ∧ seconds < greatest then .ok ⟨seconds, microsecond⟩ else .error .overflow

/-- Splits seconds into whole ones and microseconds, rounded to the nearest. -/
def ofFloat (x : Binary64) : Except Fault Instant :=
  match x.ratio?, x.truncate? with
  | some (negative, numerator, denominator), some whole =>
      let part := Binary64.ofRatio negative (numerator % denominator) denominator
      match (part.mul (Binary64.ofInt 1000000)).ratio? with
      | some (_, n, d) =>
          let micros := Binary64.roundHalfEven n d
          if negative ∧ micros ≠ 0 then
            if micros = 1000000 then checked (whole - 1) 0 else checked (whole - 1) (1000000 - micros)
          else if micros = 1000000 then checked (whole + 1) 0
          else checked whole micros
      | none => .error .badValue
  | _, _ => if x = .notANumber then .error .badValue else .error .overflow

def ofValue : Value → Except Fault Instant
  | .int n => checked n 0
  | .bool b => checked (if b then 1 else 0) 0
  | .float x => ofFloat x
  | _ => .error .wrongType

/-- Days from the first of March of the year 0. -/
def day (i : Instant) : Int := (Date.dayNumber ⟨1970, 1, 1⟩) + i.seconds.fdiv 86400

def date? (i : Instant) : Option Date :=
  if Date.dayNumber ⟨1, 1, 1⟩ ≤ i.day ∧ i.day ≤ Date.dayNumber ⟨9999, 12, 31⟩ then
    some (Date.ofDayNumber i.day.toNat)
  else none

def secondOfDay (i : Instant) : Nat := (i.seconds.fmod 86400).toNat

/-- The date with the year as it is, and the time of day. -/
def texts (i : Instant) (date : Date) : String × String :=
  let second := i.secondOfDay
  (toString date.year ++ "-" ++ decimalPadded 2 date.month ++ "-" ++ decimalPadded 2 date.day,
    decimalPadded 2 (second / 3600) ++ ":" ++ decimalPadded 2 (second / 60 % 60) ++ ":" ++
      decimalPadded 2 (second % 60))

end Instant

/-- Time on structured lines, with microseconds. -/
def StructuredStyle.timeText (i : Instant) : Except Fault String :=
  match i.date? with
  | some date =>
      let (day, clock) := i.texts date
      .ok (day ++ "T" ++ clock ++ "." ++ decimalPadded 6 i.microsecond ++ "Z")
  | none => .error .badValue

/-- Time on lines for people, in local time: the day before must be one that can be shown
too, since the clock might have been set back. -/
def PlainStyle.timeText (i : Instant) : Except Fault String :=
  match i.date?, { i with seconds := i.seconds - 86400 : Instant }.date? with
  | some date, some _ =>
      let (day, clock) := i.texts date
      .ok (day ++ " " ++ clock)
  | _, _ => .error .badValue

/-- The time that a line shows, empty where lines show none. -/
def LineStyle.timeText (style : LineStyle) (seconds : Value) : Except Fault String :=
  match style with
  | .structured s => if s.showsTime then Instant.ofValue seconds >>= StructuredStyle.timeText else .ok ""
  | .plain s => if s.showsTime then Instant.ofValue seconds >>= PlainStyle.timeText else .ok ""

/-- The line of a record that is made at a time. -/
def LineStyle.lineAt (style : LineStyle) (machine : Machine) (seconds : Value) (r : Record) :
    Except Fault Text :=
  style.timeText seconds >>= fun time => style.line machine { r with time }

end LaunchPolicy.Log
