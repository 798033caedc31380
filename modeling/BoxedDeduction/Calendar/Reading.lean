import BoxedDeduction.Calendar.Moment
import BoxedDeduction.Number.Decimal

/-!
# Dates and moments in text

A date is written with dashes. A moment follows on it after a `T` or blanks, with
colons between hour, minute and second, with parts of a second behind a point,
and with a `Z` or a distance in hours and minutes for its clock. Of the parts of
a second the first six digits count.
-/

namespace BoxedDeduction

/-- A date, or a moment on one. -/
inductive DateOrMoment where
  /-- A date. -/
  | date (value : CalendarDate)
  /-- A moment. -/
  | moment (value : Moment)
  deriving DecidableEq

namespace DateOrMoment

/-- Read a number with a least and a greatest count of digits, as many as there are. -/
def number? (least most : Nat) (cs : List Char) : Option (Nat × List Char) :=
  let digits := (cs.take most).takeWhile Char.isDigit
  if digits.length < least then none
  else some (Decimal.digitsValue digits, cs.drop digits.length)

/-- Read a sign. -/
def mark? (sign : Char) : List Char → Option (List Char)
  | c :: rest => if c = sign then some rest else none
  | [] => none

/-- Read a number behind a sign. -/
def numberBehind? (sign : Char) (least most : Nat) (cs : List Char) : Option (Nat × List Char) :=
  (mark? sign cs).bind (number? least most)

/-- Whether a character is blank. -/
def isBlank (c : Char) : Bool := c = ' ' || c = '\t'

/-- Read the parts of a second, in millionths, if there are any. -/
def micro (cs : List Char) : Nat × List Char :=
  match cs with
  | '.' :: rest =>
    let digits := rest.takeWhile Char.isDigit
    (Decimal.digitsValue ((digits ++ List.replicate 6 '0').take 6), rest.drop digits.length)
  | _ => (0, cs)

/-- Read how many minutes the clock is ahead, up to the end of the text. -/
def clock? (cs : List Char) : Option (Option Int) :=
  match cs, cs.dropWhile isBlank with
  | [], _ => some none
  | _, ['Z'] => some (some 0)
  | _, sign :: rest => do
    let (hours, behind) ← number? 1 2 rest
    let (minutes, last) ← if behind = [] then some (0, []) else numberBehind? ':' 2 2 behind
    let distance : Int := 60 * hours + minutes
    if last ≠ [] then none
    else if sign = '+' then some (some distance)
    else if sign = '-' then some (some (-distance))
    else none
  | _, [] => none

/-- Read the time of day on a date. -/
def moment? (date : CalendarDate) (cs : List Char) : Option Moment := do
  let (hour, rest) ← number? 1 2 cs
  let (minute, rest) ← numberBehind? ':' 2 2 rest
  let (second, rest) ← numberBehind? ':' 2 2 rest
  let (millionths, rest) := micro rest
  return ⟨date, hour, minute, second, millionths, ← clock? rest⟩

/-- Read a date or a moment, which need not exist. -/
def read? (cs : List Char) : Option DateOrMoment := do
  let (year, rest) ← number? 4 4 cs
  let (month, rest) ← numberBehind? '-' 1 2 rest
  let (day, rest) ← numberBehind? '-' 1 2 rest
  let date : CalendarDate := ⟨year, month, day⟩
  match rest with
  | [] => return .date date
  | c :: behind =>
    if c = 'T' ∨ c = 't' then return .moment (← moment? date behind)
    else if isBlank c then return .moment (← moment? date (behind.dropWhile isBlank))
    else none

/-- Whether there is such a date or moment. -/
def isReal : DateOrMoment → Bool
  | .date value => value.isReal
  | .moment value => value.isReal

end DateOrMoment

end BoxedDeduction
