import ServiceMigration.Number.Decimal
/-!
# Dates and times in documents

A document may hold a plain date or a date with a time of day.  Such a value is never interpreted;
it is only written, on its own (`Moment.text`) or inside a list (`Moment.constructorText`).
-/

namespace ServiceMigration

/-- A time of day, with its distance from universal time in minutes if one is given. -/
structure Clock where
  hour : Nat
  minute : Nat
  second : Nat
  micros : Nat
  offset : Option Int
  deriving DecidableEq, Repr

structure Moment where
  year : Nat
  month : Nat
  day : Nat
  clock : Option Clock
  deriving DecidableEq, Repr

/-- A number with at least `width` digits. -/
def paddedNat (width n : Nat) : String :=
  let ds := Decimal.digits n
  String.ofList (List.replicate (width - ds.length) '0' ++ ds)

namespace Clock

def offsetText (minutes : Int) : String :=
  (if minutes < 0 then "-" else "+") ++ paddedNat 2 (minutes.natAbs / 60) ++ ":" ++
    paddedNat 2 (minutes.natAbs % 60)

/-- Hours, minutes and seconds, then what is finer and the offset where there is one. -/
def text (c : Clock) : String :=
  paddedNat 2 c.hour ++ ":" ++ paddedNat 2 c.minute ++ ":" ++ paddedNat 2 c.second ++
    (if c.micros = 0 then "" else "." ++ paddedNat 6 c.micros) ++
    (c.offset.map offsetText).getD ""

/-- A span of minutes other than none, in days and seconds. -/
def spanConstructor (minutes : Int) : String :=
  let days : Int := Int.fdiv minutes 1440
  let seconds : Nat := ((minutes - days * 1440) * 60).toNat
  "datetime.timedelta(" ++
    (if days = 0 then "" else "days=" ++ toString days ++ (if seconds = 0 then "" else ", ")) ++
    (if seconds = 0 then "" else "seconds=" ++ toString seconds) ++ ")"

def offsetConstructor (minutes : Int) : String :=
  if minutes = 0 then "datetime.timezone.utc"
  else "datetime.timezone(" ++ spanConstructor minutes ++ ")"

/-- An offset of a day or more does not exist. -/
def offsetProblem? (c : Clock) : Option String :=
  match c.offset with
  | none => none
  | some minutes =>
    if minutes.natAbs < 1440 then none
    else
      some ("offset must be a timedelta strictly between -timedelta(hours=24) and " ++
        "timedelta(hours=24), not " ++ spanConstructor minutes ++ ".")

end Clock

namespace Moment

def dateText (m : Moment) : String :=
  paddedNat 4 m.year ++ "-" ++ paddedNat 2 m.month ++ "-" ++ paddedNat 2 m.day

/-- The text of a moment that stands on its own. -/
def text (m : Moment) : String :=
  match m.clock with
  | none => m.dateText
  | some c => m.dateText ++ " " ++ c.text

def constructorText (m : Moment) : String :=
  let date := toString m.year ++ ", " ++ toString m.month ++ ", " ++ toString m.day
  match m.clock with
  | none => "datetime.date(" ++ date ++ ")"
  | some c =>
    "datetime.datetime(" ++ date ++ ", " ++ toString c.hour ++ ", " ++ toString c.minute ++
      (if c.second = 0 && c.micros = 0 then "" else ", " ++ toString c.second) ++
      (if c.micros = 0 then "" else ", " ++ toString c.micros) ++
      ((c.offset.map fun o => ", tzinfo=" ++ Clock.offsetConstructor o).getD "") ++ ")"

/-- Days of a month in the calendar without a switch. -/
def daysIn (year month : Nat) : Nat :=
  if month = 2 then
    if year % 4 = 0 && (year % 100 != 0 || year % 400 = 0) then 29 else 28
  else if month = 4 || month = 6 || month = 9 || month = 11 then 30
  else 31

/-- Why a date does not exist, if it does not. -/
def dateProblem? (m : Moment) : Option String :=
  if m.year = 0 then some "year 0 is out of range"
  else if m.month = 0 || 12 < m.month then some "month must be in 1..12"
  else if m.day = 0 || daysIn m.year m.month < m.day then some "day is out of range for month"
  else none

/-- Why a time of day does not exist, if it does not. -/
def timeProblem? (c : Clock) : Option String :=
  if 23 < c.hour then some "hour must be in 0..23"
  else if 59 < c.minute then some "minute must be in 0..59"
  else if 59 < c.second then some "second must be in 0..59"
  else none

/-- Why a moment does not exist, if it does not: the offset is looked at first. -/
def problem? (m : Moment) : Option String :=
  match m.clock with
  | none => m.dateProblem?
  | some c => c.offsetProblem?.or (m.dateProblem?.or (timeProblem? c))

end Moment

end ServiceMigration
