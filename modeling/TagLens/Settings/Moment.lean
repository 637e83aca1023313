/-!
# Dates and times in configurations

Calendar dates, times of day, and their combination, with or without a distance from
universal time in minutes.
-/

namespace TagLens.Settings

/-- A calendar date. -/
structure Date where
  year : Nat
  month : Nat
  day : Nat
  deriving DecidableEq, Repr

/-- A time of day. -/
structure TimeOfDay where
  hour : Nat
  minute : Nat
  second : Nat
  microsecond : Nat
  deriving DecidableEq, Repr

/-- A date, a time of day, or both; the latter perhaps with its distance from universal time. -/
inductive Moment where
  | date (date : Date)
  | time (time : TimeOfDay)
  | dateTime (date : Date) (time : TimeOfDay) (offsetMinutes : Option Int)
  deriving DecidableEq, Repr

/-- The number of days in a month. -/
def daysInMonth (year month : Nat) : Nat :=
  if month == 2 then
    if year % 4 == 0 && (year % 100 != 0 || year % 400 == 0) then 29 else 28
  else if month == 4 || month == 6 || month == 9 || month == 11 then 30
  else 31

/-- Does the date exist in the calendar? Years are counted from one. -/
def Date.isValid (date : Date) : Bool :=
  1 ≤ date.year && 1 ≤ date.month && date.month ≤ 12 && 1 ≤ date.day
    && date.day ≤ daysInMonth date.year date.month

namespace Moment

/-- The name of the type in messages. -/
def typeName : Moment → String
  | .date _ => "datetime.date"
  | .time _ => "datetime.time"
  | .dateTime _ _ _ => "datetime.datetime"

/-- The fields of a date. -/
def dateFields (date : Date) : List String :=
  [toString date.year, toString date.month, toString date.day]

/-- The fields of a time of day; seconds and microseconds are left out when nothing but zeros
follows. -/
def timeFields (time : TimeOfDay) : List String :=
  let seconds :=
    if time.microsecond != 0 then [toString time.second, toString time.microsecond]
    else if time.second != 0 then [toString time.second]
    else []
  [toString time.hour, toString time.minute] ++ seconds

/-- A distance from universal time; one to the west is written as a day less and the seconds
that are left. -/
def offsetField (minutes : Int) : String :=
  if minutes == 0 then "tzinfo=datetime.timezone.utc"
  else
    let days := if minutes < 0 then "days=-1, " else ""
    let seconds := if minutes < 0 then 86400 + 60 * minutes else 60 * minutes
    "tzinfo=datetime.timezone(datetime.timedelta(" ++ days ++ "seconds=" ++ toString seconds
      ++ "))"

/-- The moment as it is quoted in a message. -/
def render (moment : Moment) : String :=
  let fields := match moment with
    | .date d => dateFields d
    | .time t => timeFields t
    | .dateTime d t offset => dateFields d ++ timeFields t ++ (offset.map offsetField).toList
  moment.typeName ++ "(" ++ ", ".intercalate fields ++ ")"

end Moment
end TagLens.Settings
