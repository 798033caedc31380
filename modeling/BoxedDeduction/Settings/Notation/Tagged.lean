import BoxedDeduction.Settings.Notation.Fault
import BoxedDeduction.Settings.Notation.Tag
import BoxedDeduction.Settings.Plain
import BoxedDeduction.Text.FractionText

/-!
# The values of tagged texts

The tag of a text says how it is read. Numbers are read without their underscores
and may be written in base sixty with colons between the places, of which each
counts for itself. A whole number that begins with a zero is in base eight, or in
another base that is marked.
-/

namespace BoxedDeduction

namespace TaggedText

/-- What is read, or the fault of a text that is no number. -/
def orBadNumber {α : Type} : Option α → Except NotationFault α
  | some value => .ok value
  | none => .error .badNumber

/-- The letters of a number without underscores and without the sign in front, and whether the sign
is a minus. -/
def signed (text : String) : Except NotationFault (Bool × List Char) :=
  match text.toList.filter (· ≠ '_') with
  | [] => .error .noLetters
  | c :: rest => .ok (c = '-', if c = '-' ∨ c = '+' then rest else c :: rest)

/-- The whole number that places of base sixty stand for, the first being the most significant. -/
def ofSixtieths (places : List Int) : Int :=
  places.foldl (fun value place => 60 * value + place) 0

/-- The whole number that letters without a sign of their own stand for. -/
def wholeSize (cs : List Char) : Except NotationFault Int :=
  match cs with
  | [] => .error .noLetters
  | '0' :: 'b' :: rest => orBadNumber (WholeNumber.readIn? 2 rest)
  | '0' :: 'x' :: rest => orBadNumber (WholeNumber.readIn? 16 rest)
  | '0' :: _ => orBadNumber (WholeNumber.readIn? 8 cs)
  | _ =>
    if ':' ∈ cs then
      orBadNumber (((cs.splitOn ':').mapM (WholeNumber.readIn? 10)).map ofSixtieths)
    else orBadNumber (WholeNumber.readIn? 10 cs)

/-- The whole number that a text stands for. -/
def whole (text : String) : Except NotationFault Int := do
  let (negative, cs) ← signed text
  let size ← wholeSize cs
  return if negative then -size else size

/-- The sum of fractional places, the least significant first, each times a power of sixty. Each
product and each sum is rounded. -/
def sumOfSixtieths (power : Nat) (sum : Fraction) : List Fraction → Except NotationFault Fraction
  | [] => .ok sum
  | place :: rest =>
    match Binary.ofNat? power with
    | none => .error .outOfRange
    | some factor => sumOfSixtieths (60 * power) (sum.plus (place.times factor)) rest

/-- The fraction that letters without a sign of their own stand for. -/
def fractionSize (cs : List Char) : Except NotationFault Fraction :=
  let word := String.ofList (cs.map Char.toLower)
  if SettingTag.infiniteWords.contains word then .ok (.infinite false)
  else if SettingTag.undefinedWords.contains word then .ok .undefined
  else if ':' ∈ cs then do
    let places ← orBadNumber ((cs.splitOn ':').mapM FractionText.read?)
    sumOfSixtieths 1 (.finite ⟨false, 0, 0⟩) places.reverse
  else orBadNumber (FractionText.read? cs)

/-- The fraction that a text stands for. -/
def fraction (text : String) : Except NotationFault Fraction := do
  let (negative, cs) ← signed text
  let size ← fractionSize cs
  return if negative then size.negated else size

/-- The truth value that a text stands for, in any case of letters. -/
def bool (text : String) : Except NotationFault Bool :=
  match SettingTag.boolWords.lookup (String.ofList (text.toList.map Char.toLower)) with
  | some value => .ok value
  | none => .error .badWord

/-- The bytes that a text stands for. Only ASCII characters may stand in it. -/
def bytes (text : String) : Except NotationFault (List UInt8) :=
  match if text.toList.all (·.toNat < 0x80) then Bytes.read? text.toList else none with
  | some value => .ok value
  | none => .error .badValue

/-- The date or the moment that a text stands for. A line feed at its end does not count. -/
def moment (text : String) : Except NotationFault PlainValue :=
  let cs := text.toList
  match DateOrMoment.read? (if cs.getLast? = some '\n' then cs.dropLast else cs) with
  | none => .error .badMoment
  | some given =>
    if !given.isReal then .error .badNumber
    else
      match given with
      | .date value => .ok (.date value)
      | .moment value => .ok (.moment value)

end TaggedText

/-- The plain value of a text with a tag. -/
def SettingTag.plainValue (tag : SettingTag) (text : String) : Except NotationFault PlainValue :=
  match tag with
  | .null => .ok .null
  | .bool => (TaggedText.bool text).map .bool
  | .int => (TaggedText.whole text).map .int
  | .fraction => (TaggedText.fraction text).map .fraction
  | .bytes => (TaggedText.bytes text).map .bytes
  | .moment => TaggedText.moment text
  | .text => .ok (.text text)
  | _ => .error .badValue

end BoxedDeduction
