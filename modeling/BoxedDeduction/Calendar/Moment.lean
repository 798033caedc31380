import BoxedDeduction.Calendar.Date

/-!
# Moments

A moment is a time of day on a date. It may say how far its clock is ahead of
the common clock; only then is it known how it lies to moments on other clocks.
-/

namespace BoxedDeduction

/-- A time of day on a date, which need not exist. -/
structure Moment where
  /-- The date. -/
  date : CalendarDate
  /-- The hour. -/
  hour : Nat
  /-- The minute. -/
  minute : Nat
  /-- The second. -/
  second : Nat
  /-- The millionths of a second. -/
  micro : Nat
  /-- How many minutes the clock is ahead, if that is known. -/
  ahead : Option Int
  deriving DecidableEq

namespace Moment

/-- The minutes of a day. -/
def dayMinutes : Nat := 24 * 60

/-- Whether there is such a moment. A clock is less than a day ahead or behind. -/
def isReal (moment : Moment) : Bool :=
  moment.date.isReal && moment.hour < 24 && moment.minute < 60 && moment.second < 60 &&
    moment.ahead.all fun minutes => minutes.natAbs < dayMinutes

/-- The count of millionths of a second up to a moment on its own clock. -/
def clock (moment : Moment) : Nat :=
  let minutes := dayMinutes * moment.date.dayNumber + 60 * moment.hour + moment.minute
  1000000 * (60 * minutes + moment.second) + moment.micro

/-- Whether two moments are the same. On known clocks they are when they are at once, on unknown
clocks when they show the same time. -/
def isSame (one other : Moment) : Bool :=
  match one.ahead, other.ahead with
  | none, none => one = other
  | some here, some there =>
    (one.clock : Int) - 60000000 * here = other.clock - 60000000 * there
  | _, _ => false

/-- How far a clock is ahead, in hours and minutes with a sign. -/
def printAhead (minutes : Int) : String :=
  (if minutes < 0 then "-" else "+") ++ CalendarDate.padded 2 (minutes.natAbs / 60) ++ ":" ++
    CalendarDate.padded 2 (minutes.natAbs % 60)

/-- A moment with colons between hour, minute and second. Parts of a second are left out when there
are none. -/
def print (moment : Moment) : String :=
  moment.date.print ++ " " ++ CalendarDate.padded 2 moment.hour ++ ":" ++
    CalendarDate.padded 2 moment.minute ++ ":" ++ CalendarDate.padded 2 moment.second ++
    (if moment.micro = 0 then "" else "." ++ CalendarDate.padded 6 moment.micro) ++
    ((moment.ahead.map printAhead).getD "")

/-- The numbers of a moment. Zeros at the end are left out, but not the hour and the minute. -/
def numbers (moment : Moment) : List Nat :=
  moment.date.numbers ++ [moment.hour, moment.minute] ++
    (if moment.micro ≠ 0 then [moment.second, moment.micro]
      else if moment.second ≠ 0 then [moment.second] else [])

/-- An expression for how far a clock is ahead. A clock behind is a day behind and ahead by the
rest. -/
def aheadExpression (minutes : Int) : String :=
  if minutes = 0 then "datetime.timezone.utc"
  else
    let parts :=
      if minutes < 0 then "days=-1, seconds=" ++ toString (60 * (minutes + dayMinutes))
      else "seconds=" ++ toString (60 * minutes)
    "datetime.timezone(datetime.timedelta(" ++ parts ++ "))"

/-- An expression for a moment. -/
def expression (moment : Moment) : String :=
  let clock := (moment.ahead.map fun minutes => "tzinfo=" ++ aheadExpression minutes).toList
  "datetime.datetime(" ++ ", ".intercalate (moment.numbers.map toString ++ clock) ++ ")"

end Moment

end BoxedDeduction
