/-!
# Days and times

A day of the calendar, and a time on a day with or without an offset from universal time. Both have
two forms: one to stand alone and one that names its parts, for use inside a list. Whether a day or
a time exists is checked part by part, and the first part that is wrong is the fault.
-/

namespace CellWeave

structure Day where
  year : Nat
  month : Nat
  day : Nat
  deriving DecidableEq

/-- `zone` is the offset from universal time in seconds. -/
structure Moment where
  day : Day
  hour : Nat
  minute : Nat
  second : Nat
  micro : Nat
  zone : Option Int
  deriving DecidableEq

inductive CalendarFault where
  | year (year : Nat)
  | month
  | day
  | hour
  | minute
  | second
  | zone (seconds : Int)
  deriving DecidableEq

/-- A number with zeros before it up to a width. -/
def padded (width n : Nat) : String :=
  let digits := toString n
  String.ofList (List.replicate (width - digits.length) '0') ++ digits

/-- Days and the seconds of a last day that is not over. -/
def durationShown (seconds : Int) : String :=
  let days := Int.fdiv seconds 86400
  let rest := Int.fmod seconds 86400
  let parts := (if days = 0 then [] else [s!"days={days}"]) ++
    (if rest = 0 then [] else [s!"seconds={rest}"])
  let shown := if parts.isEmpty then "0" else String.intercalate ", " parts
  s!"datetime.timedelta({shown})"

namespace CalendarFault

def message : CalendarFault → String
  | year number => s!"year {number} is out of range"
  | month => "month must be in 1..12"
  | day => "day is out of range for month"
  | hour => "hour must be in 0..23"
  | minute => "minute must be in 0..59"
  | second => "second must be in 0..59"
  | zone seconds =>
    "offset must be a timedelta strictly between -timedelta(hours=24) and timedelta(hours=24), " ++
      s!"not {durationShown seconds}."

end CalendarFault

namespace Day

def isLeapYear (year : Nat) : Bool :=
  year % 4 = 0 && (year % 100 ≠ 0 || year % 400 = 0)

def monthLength (year month : Nat) : Nat :=
  if month = 2 then (if isLeapYear year then 29 else 28)
  else if [4, 6, 9, 11].contains month then 30
  else 31

def check (day : Day) : Except CalendarFault Day :=
  if day.year < 1 ∨ day.year > 9999 then .error (.year day.year)
  else if day.month < 1 ∨ day.month > 12 then .error .month
  else if day.day < 1 ∨ day.day > monthLength day.year day.month then .error .day
  else .ok day

/-- Days since the first day of the year 1. -/
def number (day : Day) : Nat :=
  let before := day.year - 1
  let months := (List.range (day.month - 1)).foldl (fun n m ↦ n + monthLength day.year (m + 1)) 0
  before * 365 + before / 4 - before / 100 + before / 400 + months + day.day

def shown (day : Day) : String :=
  s!"{padded 4 day.year}-{padded 2 day.month}-{padded 2 day.day}"

def parts (day : Day) : String :=
  s!"datetime.date({day.year}, {day.month}, {day.day})"

end Day

namespace Moment

def check (moment : Moment) : Except CalendarFault Moment := do
  if let some seconds := moment.zone then
    if seconds.natAbs ≥ 86400 then throw (.zone seconds)
  let _ ← moment.day.check
  if moment.hour > 23 then throw .hour
  if moment.minute > 59 then throw .minute
  if moment.second > 59 then throw .second
  return moment

/-- Seconds since the start of the first day, moved to universal time. -/
def instant (moment : Moment) : Int :=
  (moment.day.number * 86400 + moment.hour * 3600 + moment.minute * 60 + moment.second : Nat) -
    moment.zone.getD 0

/-- Whether two times are one: both have an offset or neither has, and the instants are the same. -/
def same (first second : Moment) : Bool :=
  first.zone.isSome == second.zone.isSome && first.instant == second.instant &&
    first.micro == second.micro

def zoneShown (seconds : Int) : String :=
  let size := seconds.natAbs
  let rest := if size % 60 = 0 then "" else ":" ++ padded 2 (size % 60)
  (if seconds < 0 then "-" else "+") ++
    s!"{padded 2 (size / 3600)}:{padded 2 (size / 60 % 60)}" ++ rest

def shown (moment : Moment) : String :=
  let micro := if moment.micro = 0 then "" else "." ++ padded 6 moment.micro
  let zone := (moment.zone.map zoneShown).getD ""
  s!"{moment.day.shown} {padded 2 moment.hour}:{padded 2 moment.minute}:" ++
    padded 2 moment.second ++ micro ++ zone

def zoneParts (seconds : Int) : String :=
  if seconds = 0 then "datetime.timezone.utc"
  else s!"datetime.timezone({durationShown seconds})"

/-- Seconds and their fractions are named only if they are not zero. -/
def parts (moment : Moment) : String :=
  let fields := [moment.day.year, moment.day.month, moment.day.day, moment.hour, moment.minute] ++
    (if moment.micro ≠ 0 then [moment.second, moment.micro]
      else if moment.second ≠ 0 then [moment.second]
      else [])
  let zone : List String := match moment.zone with
    | some seconds => ["tzinfo=" ++ zoneParts seconds]
    | none => []
  "datetime.datetime(" ++ String.intercalate ", " (fields.map toString ++ zone) ++ ")"

end Moment

end CellWeave
