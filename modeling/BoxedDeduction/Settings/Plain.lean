import BoxedDeduction.Calendar.Moment
import BoxedDeduction.Number.Slots
import BoxedDeduction.Text.Bytes

/-!
# Plain values

A plain value has no parts. Plain values are the keys of objects and the members
of sets, where numbers of the same size count as one, whole or not, and truth
values count as one and zero.
-/

namespace BoxedDeduction

/-- A value without parts. -/
inductive PlainValue where
  /-- No value. -/
  | null
  /-- A truth value. -/
  | bool (value : Bool)
  /-- A whole number. -/
  | int (value : Int)
  /-- A fraction. -/
  | fraction (value : Fraction)
  /-- A text. -/
  | text (value : String)
  /-- Bytes. -/
  | bytes (value : List UInt8)
  /-- A date. -/
  | date (value : CalendarDate)
  /-- A moment. -/
  | moment (value : Moment)
  deriving DecidableEq

/-- Why a value stands for no whole number. -/
inductive WidthError where
  /-- The value is neither a number nor a truth value nor a text. -/
  | notConvertible
  /-- The text is not a whole number, or the number is not defined. -/
  | notNumeric
  /-- The number is beyond all whole numbers. -/
  | outOfRange
  deriving DecidableEq

namespace PlainValue

/-- Whether a value counts as true. Zero, the empty text and the missing value do not. -/
def isTruthy : PlainValue → Bool
  | .null => false
  | .bool b => b
  | .int i => i ≠ 0
  | .fraction f => !f.isZero
  | .text t => t ≠ ""
  | .bytes given => !given.isEmpty
  | .date _ | .moment _ => true

/-- The whole number that is spelled, if there is one. -/
def spelled : Option Int → Except WidthError Int
  | some i => .ok i
  | none => .error .notNumeric

/-- The whole number that a value stands for. Fractions are cut toward zero. -/
def toInt : PlainValue → Except WidthError Int
  | .bool b => .ok (if b then 1 else 0)
  | .int i => .ok i
  | .fraction (.finite number) => .ok number.truncated
  | .fraction (.infinite _) => .error .outOfRange
  | .fraction .undefined => .error .notNumeric
  | .text t => spelled (WholeNumber.read? t)
  | .bytes given => spelled (Bytes.whole? given)
  | .null | .date _ | .moment _ => .error .notConvertible

/-- A value inside another one in text. -/
def nestedText : PlainValue → String
  | .null => "None"
  | .bool b => if b then "True" else "False"
  | .int i => toString i
  | .fraction f => f.print
  | .text t => Quoted.quote t
  | .bytes given => Bytes.quote given
  | .date day => day.expression
  | .moment time => time.expression

/-- A value in text. Texts, dates and moments stand for themselves. -/
def toText : PlainValue → String
  | .text t => t
  | .date day => day.print
  | .moment time => time.print
  | value => value.nestedText

/-- The greatest count of digits with which a whole number is written. -/
def digitLimit : Nat := 4300

/-- Whether a value can be written. -/
def isPrintable : PlainValue → Bool
  | .int i => i.natAbs < Nat.pow 10 digitLimit
  | _ => true

/-- The size of a value that is a number or counts as one, as a numerator and a denominator. -/
def size? : PlainValue → Option (Int × Nat)
  | .bool b => some (if b then 1 else 0, 1)
  | .int i => some (i, 1)
  | .fraction (.finite number) => some number.signed
  | _ => none

/-- The code by which a value that is a number or counts as one is listed in a set. -/
def code? : PlainValue → Option Nat
  | .bool b => some (if b then 1 else 0)
  | .int i => some (Slots.codeOf (i < 0) i.natAbs 0)
  | .fraction f => Slots.codeOfFraction? f
  | _ => none

/-- Different values in the order in which a set lists them. Numbers are listed by their slots;
where a value is no number, all stay in the order in which they come. -/
def arrange (members : List PlainValue) : List PlainValue :=
  match members.mapM fun member => member.code?.map fun code => (member, code) with
  | some coded => Slots.arrange coded
  | none => members

/-- Whether two values count as one. -/
def isSame (one other : PlainValue) : Bool :=
  match one, other with
  | .moment one, .moment other => one.isSame other
  | _, _ =>
    match one.size?, other.size? with
    | some (a, b), some (c, d) => a * d = c * b
    | _, _ => one = other

end PlainValue

end BoxedDeduction
