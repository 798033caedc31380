import BoxedDeduction.Number.Binary

/-!
# Fractions

A fraction is a binary number, or one of the values that stand for what is out
of range or not defined.
-/

namespace BoxedDeduction

/-- A fraction. -/
inductive Fraction where
  /-- A number in range. -/
  | finite (number : Binary)
  /-- What lies beyond all numbers. -/
  | infinite (negative : Bool)
  /-- What is not defined. -/
  | undefined
  deriving DecidableEq

namespace Fraction

/-- The fraction that a decimal number stands for. -/
def ofDecimal (decimal : Decimal) : Fraction :=
  ((Binary.ofDecimal? decimal).map .finite).getD (.infinite decimal.negative)

/-- The fraction of the same size with the other sign. -/
def negated : Fraction → Fraction
  | .finite number => .finite { number with negative := !number.negative }
  | .infinite negative => .infinite (!negative)
  | .undefined => .undefined

/-- The product with a positive number. -/
def times (fraction : Fraction) (factor : Binary) : Fraction :=
  match fraction with
  | .finite number => ((number.times? factor).map .finite).getD (.infinite number.negative)
  | other => other

/-- The sum of two fractions. What lies beyond all numbers on both sides has no sum. -/
def plus : Fraction → Fraction → Fraction
  | .finite one, .finite other =>
    ((one.plus? other).map .finite).getD (.infinite one.negative)
  | .infinite one, .infinite other => if one = other then .infinite one else .undefined
  | .undefined, _ | _, .undefined => .undefined
  | .infinite negative, .finite _ | .finite _, .infinite negative => .infinite negative

/-- Read a fraction in decimal digits. -/
def read? (cs : List Char) : Option Fraction := (Decimal.read? cs).map ofDecimal

/-- Whether a fraction is zero, with either sign. -/
def isZero : Fraction → Bool
  | .finite number => number.isZero
  | _ => false

/-- Whether a fraction is less than a whole number. -/
def isBelow (fraction : Fraction) (whole : Int) : Bool :=
  match fraction with
  | .finite number => decide (number.signed.1 < whole * number.signed.2)
  | .infinite negative => negative
  | .undefined => false

/-- The difference from a whole number. -/
def minus (fraction : Fraction) (whole : Int) : Fraction :=
  match fraction with
  | .finite number => ((number.minus? whole).map .finite).getD (.infinite (decide (0 < whole)))
  | other => other

/-- The text of a fraction. -/
def print : Fraction → String
  | .finite number => number.shortest.print
  | .infinite negative => if negative then "-inf" else "inf"
  | .undefined => "nan"

end Fraction

end BoxedDeduction
