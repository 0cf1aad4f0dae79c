/-!
Calendar dates and moments of the years 1 to 9999, and their text forms.
-/

namespace LaunchPolicy

structure Date where
  year : Nat
  month : Nat
  day : Nat
deriving DecidableEq, Repr

/-- A date with a time of day, and the offset in seconds from universal time if it is known. -/
structure Moment where
  date : Date
  hour : Nat
  minute : Nat
  second : Nat
  microsecond : Nat
  offset : Option Int
deriving DecidableEq, Repr

def decimalPadded (width n : Nat) : String :=
  let digits := (toString n).toList
  String.ofList (List.replicate (width - digits.length) '0' ++ digits)

namespace Date

def isLeapYear (year : Nat) : Bool := year % 4 = 0 ∧ (year % 100 ≠ 0 ∨ year % 400 = 0)

def daysInMonth (year month : Nat) : Nat :=
  if month = 2 then (if isLeapYear year then 29 else 28)
  else if month ∈ [4, 6, 9, 11] then 30
  else 31

def of? (year month day : Nat) : Option Date :=
  if 1 ≤ year ∧ year ≤ 9999 ∧ 1 ≤ month ∧ month ≤ 12 ∧ 1 ≤ day ∧ day ≤ daysInMonth year month then
    some ⟨year, month, day⟩
  else none

/-- Days since the first of March of the year 0 of the proleptic calendar. -/
def dayNumber (d : Date) : Int :=
  let year := if d.month ≤ 2 then d.year - 1 else d.year
  let month := if d.month ≤ 2 then d.month + 9 else d.month - 3
  (year * 365 + year / 4 - year / 100 + year / 400 + (153 * month + 2) / 5 + (d.day - 1) : Nat)

def ofDayNumber (number : Nat) : Date :=
  let era := number / 146097
  let dayOfEra := number % 146097
  let yearOfEra := (dayOfEra - dayOfEra / 1460 + dayOfEra / 36524 - dayOfEra / 146096) / 365
  let dayOfYear := dayOfEra - (365 * yearOfEra + yearOfEra / 4 - yearOfEra / 100)
  let month := (5 * dayOfYear + 2) / 153
  let day := dayOfYear - (153 * month + 2) / 5 + 1
  let year := yearOfEra + era * 400
  if month < 10 then ⟨year, month + 3, day⟩ else ⟨year + 1, month - 9, day⟩

def text (d : Date) : String :=
  decimalPadded 4 d.year ++ "-" ++ decimalPadded 2 d.month ++ "-" ++ decimalPadded 2 d.day

end Date

namespace Moment

def secondsPerDay : Nat := 86400

/-- A moment exists when the clock reading does and the offset is less than a day. -/
def of? (date : Date) (hour minute second microsecond : Nat) (offset : Option Int) : Option Moment :=
  if hour ≤ 23 ∧ minute ≤ 59 ∧ second ≤ 59 ∧ microsecond ≤ 999999 ∧
      offset.all (·.natAbs < secondsPerDay) then
    some ⟨date, hour, minute, second, microsecond, offset⟩
  else none

/-- Microseconds since the first of March of the year 0, universal time where the offset is known. -/
def instant (m : Moment) : Int :=
  let seconds : Int := m.date.dayNumber * secondsPerDay + (m.hour * 3600 + m.minute * 60 + m.second : Nat)
  (seconds - m.offset.getD 0) * 1000000 + m.microsecond

/-- Two moments are the same instant; a known offset never equals an unknown one. -/
def sameInstant (a b : Moment) : Bool := a.offset.isSome == b.offset.isSome && a.instant == b.instant

private def offsetText (offset : Int) : String :=
  let magnitude := offset.natAbs
  let seconds := magnitude % 60
  (if offset < 0 then "-" else "+") ++ decimalPadded 2 (magnitude / 3600) ++ ":" ++
    decimalPadded 2 (magnitude / 60 % 60) ++ (if seconds = 0 then "" else ":" ++ decimalPadded 2 seconds)

def text (m : Moment) : String :=
  m.date.text ++ " " ++ decimalPadded 2 m.hour ++ ":" ++ decimalPadded 2 m.minute ++ ":" ++
    decimalPadded 2 m.second ++
    (if m.microsecond = 0 then "" else "." ++ decimalPadded 6 m.microsecond) ++
    (m.offset.map offsetText).getD ""

end Moment

end LaunchPolicy
