/-!
# Dates

A date is a day of a month of a year. Years have four digits and begin with the
year one, and the rule of leap years is the one in use today for all of them.
-/

namespace BoxedDeduction

/-- A day of a month of a year, which need not exist. -/
structure CalendarDate where
  /-- The year. -/
  year : Nat
  /-- The month, counted from one. -/
  month : Nat
  /-- The day of the month, counted from one. -/
  day : Nat
  deriving DecidableEq

namespace CalendarDate

/-- Whether a year has a day more. -/
def isLeap (year : Nat) : Bool := year % 4 == 0 && (year % 100 != 0 || year % 400 == 0)

/-- The number of days of a month. -/
def monthLength (year month : Nat) : Nat :=
  if month = 2 then if isLeap year then 29 else 28
  else if [4, 6, 9, 11].contains month then 30 else 31

/-- Whether there is such a day. -/
def isReal (date : CalendarDate) : Bool :=
  1 ≤ date.year && 1 ≤ date.month && date.month ≤ 12 && 1 ≤ date.day &&
    date.day ≤ monthLength date.year date.month

/-- The count of days from the first day of the year one up to a date. -/
def dayNumber (date : CalendarDate) : Nat :=
  let past := date.year - 1
  let before := 365 * past + past / 4 - past / 100 + past / 400
  let months := List.range' 1 (date.month - 1)
  months.foldl (fun count month => count + monthLength date.year month) before + date.day

/-- A number filled up with zeros. -/
def padded (width number : Nat) : String :=
  let digits := Nat.toDigits 10 number
  String.ofList (List.replicate (width - digits.length) '0' ++ digits)

/-- A date with dashes between year, month and day. -/
def print (date : CalendarDate) : String :=
  padded 4 date.year ++ "-" ++ padded 2 date.month ++ "-" ++ padded 2 date.day

/-- The numbers of a date. -/
def numbers (date : CalendarDate) : List Nat := [date.year, date.month, date.day]

/-- An expression for a date. -/
def expression (date : CalendarDate) : String :=
  "datetime.date(" ++ ", ".intercalate (date.numbers.map toString) ++ ")"

end CalendarDate

end BoxedDeduction
