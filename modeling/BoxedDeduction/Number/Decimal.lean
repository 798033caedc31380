/-!
# Decimal numbers in text

A decimal number is a whole number scaled by a power of ten, with a sign of its
own, so that there is a negative zero. It is read with an optional point and an
optional power of ten. It is written by places when its size is moderate, and
with a power of ten otherwise.
-/

namespace BoxedDeduction

/-- A decimal number. -/
structure Decimal where
  /-- Whether it is written with a minus. -/
  negative : Bool
  /-- Its digits as a whole number. -/
  magnitude : Nat
  /-- The power of ten that scales the digits. -/
  power : Int
  deriving DecidableEq

namespace Decimal

/-- The count of the digits. -/
def length (decimal : Decimal) : Nat := (Nat.toDigits 10 decimal.magnitude).length

/-- The whole number that ASCII digits denote. -/
def digitsValue (digits : List Char) : Nat :=
  digits.foldl (fun value c => 10 * value + (c.toNat - '0'.toNat)) 0

/-- The power of ten behind a fraction: nothing, or an `e`, an optional sign and digits. -/
def readPower? : List Char → Option Int
  | [] => some 0
  | mark :: rest =>
    let (negative, digits) := match rest with
      | '-' :: digits => (true, digits)
      | '+' :: digits => (false, digits)
      | digits => (false, digits)
    if (mark = 'e' ∨ mark = 'E') ∧ digits ≠ [] ∧ digits.all Char.isDigit then
      some (if negative then -(digitsValue digits : Int) else digitsValue digits)
    else none

/-- Read a decimal number. There must be a digit in front of the point or behind it. -/
def read? (cs : List Char) : Option Decimal :=
  let (negative, digits) := match cs with
    | '-' :: digits => (true, digits)
    | digits => (false, digits)
  let whole := digits.takeWhile Char.isDigit
  let (places, behind) := match digits.dropWhile Char.isDigit with
    | '.' :: rest => (rest.takeWhile Char.isDigit, rest.dropWhile Char.isDigit)
    | rest => ([], rest)
  if whole ++ places = [] then none
  else (readPower? behind).map fun power =>
    ⟨negative, digitsValue (whole ++ places), power - places.length⟩

/-- Digits with the point at a place, filled up with zeros. -/
def writePlaces (digits : List Char) (point : Int) : List Char :=
  if point ≤ 0 then '0' :: '.' :: List.replicate (-point).toNat '0' ++ digits
  else if digits.length ≤ point.toNat then
    digits ++ List.replicate (point.toNat - digits.length) '0' ++ ['.', '0']
  else digits.take point.toNat ++ '.' :: digits.drop point.toNat

/-- Digits with the point behind the first of them, and the power of ten with a sign and at least
two digits. -/
def writePower (digits : List Char) (power : Int) : List Char :=
  let size := Nat.toDigits 10 power.natAbs
  let fraction := digits.drop 1
  digits.take 1 ++ (if fraction.isEmpty then [] else '.' :: fraction) ++
    'e' :: (if power < 0 then '-' else '+') ::
      (if size.length < 2 then '0' :: size else size)

/-- The text of a decimal number. It is written by places when its first digit stands from four
places behind the point to sixteen before it, and with a power of ten otherwise. -/
def print (decimal : Decimal) : String :=
  let digits := ((Nat.toDigits 10 decimal.magnitude).reverse.dropWhile (· = '0')).reverse
  let point := decimal.length + decimal.power
  let written :=
    if decimal.magnitude = 0 then ['0', '.', '0']
    else if -4 < point ∧ point ≤ 16 then writePlaces digits point
    else writePower digits (point - 1)
  String.ofList (if decimal.negative then '-' :: written else written)

end Decimal

end BoxedDeduction
