import BoxedDeduction.Number.Decimal

/-!
# Binary numbers

Fractions are kept as binary numbers with 53 significant places. Each decimal
number stands for the binary number nearest to it, of two equally near ones for
the one that ends in an even place. Each binary number is written with the
fewest decimal digits that stand for it. All steps are exact.
-/

namespace BoxedDeduction

/-- A binary number: a whole number scaled by a power of two, with a sign of its own. -/
structure Binary where
  /-- Whether it is written with a minus. -/
  negative : Bool
  /-- Its significant places as a whole number. -/
  mantissa : Nat
  /-- The power of two that scales them. -/
  power : Int
  deriving DecidableEq

namespace Binary

/-- The number of significant places. -/
def precision : Nat := 53

/-- The power of two of the last place of the smallest numbers. -/
def leastPower : Int := -1074

/-- Numbers of this power of two and beyond are out of range. -/
def greatestPower : Nat := 1024

/-- A whole number scaled by a power, as a numerator and a denominator. -/
def ratio (base magnitude : Nat) (power : Int) : Nat × Nat :=
  (magnitude * Nat.pow base power.toNat, Nat.pow base (-power).toNat)

/-- A quotient to the nearest whole number, a half to the even one. -/
def roundDiv (numerator denominator : Nat) : Nat :=
  let quotient := numerator / denominator
  let rest := 2 * (numerator % denominator)
  if rest < denominator then quotient
  else if denominator < rest then quotient + 1
  else quotient + quotient % 2

/-- The power of two of the last place of a number, given as a quotient. -/
def lastPlace (numerator denominator : Nat) : Int :=
  let estimate := (Nat.log2 numerator : Int) - Nat.log2 denominator - precision
  let (scaled, unit) := ratio 2 denominator estimate
  let places := numerator * unit / scaled
  max (if places < Nat.pow 2 precision then estimate else estimate + 1) leastPower

/-- The number nearest to a quotient, unless it is out of range. -/
def nearest? (negative : Bool) (numerator denominator : Nat) : Option Binary :=
  if numerator = 0 then some ⟨negative, 0, 0⟩
  else
    let power := lastPlace numerator denominator
    let (scaled, unit) := ratio 2 denominator power
    let mantissa := roundDiv (numerator * unit) scaled
    let number : Binary :=
      if mantissa = Nat.pow 2 precision then ⟨negative, Nat.pow 2 (precision - 1), power + 1⟩
      else ⟨negative, mantissa, power⟩
    if (greatestPower : Int) < number.power + precision then none else some number

/-- The number nearest to a decimal number, unless it is out of range. Powers of ten far out of
range are not computed. -/
def ofDecimal? (decimal : Decimal) : Option Binary :=
  let point := decimal.length + decimal.power
  if decimal.magnitude = 0 ∨ point < -400 then some ⟨decimal.negative, 0, 0⟩
  else if 400 < point then none
  else
    let (numerator, denominator) := ratio 10 decimal.magnitude decimal.power
    nearest? decimal.negative numerator denominator

/-- The size of a number as a quotient. -/
def size (number : Binary) : Nat × Nat := ratio 2 number.mantissa number.power

/-- Whether a number is zero, with either sign. -/
def isZero (number : Binary) : Bool := number.mantissa = 0

/-- The whole number that is left when the places behind the point are cut. -/
def truncated (number : Binary) : Int :=
  let whole : Nat := number.size.1 / number.size.2
  if number.negative then -(whole : Int) else whole

/-- The number as a signed numerator and a denominator. -/
def signed (number : Binary) : Int × Nat :=
  (if number.negative then -(number.size.1 : Int) else number.size.1, number.size.2)

/-- The number nearest to the difference from a whole number, unless it is out of range. -/
def minus? (number : Binary) (whole : Int) : Option Binary :=
  let (numerator, denominator) := number.signed
  let difference := numerator - whole * denominator
  let negative := difference < 0 ∨ (number.negative ∧ difference = 0 ∧ whole = 0)
  nearest? negative difference.natAbs denominator

/-- The number nearest to the product with another number, unless it is out of range. -/
def times? (number other : Binary) : Option Binary :=
  let (numerator, denominator) := number.size
  let (factor, divisor) := other.size
  nearest? (number.negative ≠ other.negative) (numerator * factor) (denominator * divisor)

/-- The number nearest to the sum with another number, unless it is out of range. A sum of nothing
has a minus only if both numbers have one. -/
def plus? (number other : Binary) : Option Binary :=
  let (numerator, denominator) := number.signed
  let (summand, divisor) := other.signed
  let sum := numerator * divisor + summand * denominator
  let negative := sum < 0 ∨ (number.negative ∧ other.negative ∧ sum = 0)
  nearest? negative sum.natAbs (denominator * divisor)

/-- The number nearest to a whole number, unless it is out of range. -/
def ofNat? (whole : Nat) : Option Binary := nearest? false whole 1

/-- The count of digits in front of the point. For a number below one tenth it is the count of zeros
behind the point, with a minus. -/
def point (number : Binary) : Int :=
  let (numerator, denominator) := number.size
  (Nat.toDigits 10 (numerator * Nat.pow 10 400 / denominator)).length - 400

/-- The decimal number with a count of digits that stands for a number, if there is one. Of two it
is the nearer. The bounds within which a decimal number stands for the number are counted in
quarters of its last place; below a power of two the places are half as wide. -/
def withDigits? (number : Binary) (count : Nat) : Option Decimal :=
  let scale := number.point - count
  let (unit, grid) := ratio 10 1 scale
  let (quarter, share) := ratio 2 1 (number.power - 2)
  let narrow := number.mantissa = Nat.pow 2 (precision - 1) ∧ leastPower < number.power
  let centre := 4 * number.mantissa * quarter * grid
  let low := (4 * number.mantissa - if narrow then 1 else 2) * quarter * grid
  let high := (4 * number.mantissa + 2) * quarter * grid
  let step := unit * share
  let below := centre / step
  let fits (digits : Nat) : Bool :=
    let place := digits * step
    (low < place || (low == place && number.mantissa % 2 == 0)) &&
      (place < high || (place == high && number.mantissa % 2 == 0))
  let decimal (digits : Nat) : Decimal := ⟨number.negative, digits, scale⟩
  match fits below, fits (below + 1) with
  | true, false => some (decimal below)
  | false, true => some (decimal (below + 1))
  | false, false => none
  | true, true =>
    let middle := (2 * below + 1) * step
    if 2 * centre < middle then some (decimal below)
    else if middle < 2 * centre then some (decimal (below + 1))
    else some (decimal (below + below % 2))

/-- The decimal number with the fewest digits that stands for a number. Seventeen always do. -/
def shortest (number : Binary) : Decimal :=
  if number.isZero then ⟨number.negative, 0, 0⟩
  else ((List.range' 1 17).findSome? number.withDigits?).getD ⟨number.negative, 0, 0⟩

end Binary

end BoxedDeduction
