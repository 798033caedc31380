import BoxedDeduction.Number.Fraction
import BoxedDeduction.Text.WholeNumber

/-!
# Fractions in text

A fraction is written with decimal digits of any script, with an optional sign,
an optional point and an optional power of ten, and with blanks around it. Words
stand for what is out of range and for what is not defined.
-/

namespace BoxedDeduction.FractionText

/-- The words for what lies beyond all numbers. -/
def infiniteWords : List String := ["inf", "infinity"]

/-- The word for what is not defined. -/
def undefinedWord : String := "nan"

/-- A digit of any script as an ASCII digit. -/
def asciiDigit (c : Char) : Char :=
  ((WholeNumber.digit? c).map fun value => Char.ofNat ('0'.toNat + value)).getD c

/-- The fraction without a sign that letters denote. -/
def size? (cs : List Char) : Option Fraction :=
  let word := String.ofList (cs.map Char.toLower)
  if infiniteWords.contains word then some (.infinite false)
  else if word = undefinedWord then some .undefined
  else if cs.head? = some '-' then none
  else Fraction.read? cs

/-- The fraction that letters denote. -/
def read? (cs : List Char) : Option Fraction :=
  match (WholeNumber.trim cs).map asciiDigit with
  | '-' :: rest => (size? rest).map Fraction.negated
  | '+' :: rest => size? rest
  | rest => size? rest

end BoxedDeduction.FractionText
