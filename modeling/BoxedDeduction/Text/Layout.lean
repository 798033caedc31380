import BoxedDeduction.Text.Padding
import BoxedDeduction.Text.WholeNumber

/-!
# Layout of a text in a field

A layout says how a text is cut to a length and filled up to a width. Its
written form has an optional fill character with an alignment, a width, a point
with a length, and the letter `s`, each of which may be missing. Signs,
separators of digits and other letters belong to numbers and are refused.
-/

namespace BoxedDeduction

/-- Where a text stands in its field. -/
inductive Alignment where
  | left
  | center
  | right
  deriving DecidableEq

/-- The layout of a text. -/
structure Layout where
  /-- The character that fills the field. -/
  fill : Char := ' '
  /-- Where the text stands. -/
  alignment : Alignment := .left
  /-- The least number of characters. -/
  width : Nat := 0
  /-- The number of characters that are kept. -/
  length : Option Nat := none
  deriving DecidableEq

namespace Layout

/-- The largest number that is read. -/
def numberLimit : Nat := Nat.pow 2 63 - 1

/-- The alignment that a sign stands for. -/
def alignmentOf? : Char → Option Alignment
  | '<' => some .left
  | '^' => some .center
  | '>' => some .right
  | _ => none

/-- Whether a sign is an alignment, also one that only numbers know. -/
def isAlignmentSign (c : Char) : Bool := c = '=' || (alignmentOf? c).isSome

/-- The fill character, the sign of alignment and the text behind them. A zero in front of the
width fills as well, unless another character was named. -/
def readFill : List Char → Option Char × Option Char × List Char
  | first :: second :: rest =>
    if isAlignmentSign second then (some first, some second, rest)
    else if isAlignmentSign first then (none, some first, second :: rest)
    else (none, none, first :: second :: rest)
  | [first] => if isAlignmentSign first then (none, some first, []) else (none, none, [first])
  | [] => (none, none, [])

/-- The number at the start of a text, with the text behind it. A number beyond the limit is an
error. -/
def readNumber? (cs : List Char) : Option (Option Nat × List Char) :=
  let isDigit (c : Char) : Bool := (WholeNumber.digit? c).isSome
  let digits := (cs.takeWhile isDigit).filterMap WholeNumber.digit?
  let value := WholeNumber.ofDigits 10 digits
  if numberLimit < value then none
  else some (if digits = [] then none else some value, cs.dropWhile isDigit)

/-- The length behind a point, with the text behind it. A point needs a number. -/
def readLength? : List Char → Option (Option Nat × List Char)
  | '.' :: rest =>
    match readNumber? rest with
    | some (some length, behind) => some (some length, behind)
    | _ => none
  | rest => some (none, rest)

/-- Read a layout. -/
def read? (cs : List Char) : Option Layout := do
  let (fill, sign, rest) := readFill cs
  let zero := fill = none ∧ rest.head? = some '0'
  let (width, rest) ← readNumber? (if zero then rest.drop 1 else rest)
  let (length, rest) ← readLength? rest
  let alignment ← match sign with
    | some sign => alignmentOf? sign
    | none => some .left
  if rest = [] ∨ rest = ['s'] then
    some ⟨fill.getD (if zero then '0' else ' '), alignment, width.getD 0, length⟩
  else none

/-- Whether there is room for a number of characters, which may be limited. -/
def hasRoom (room : Option Nat) (count : Nat) : Bool := room.all (count ≤ ·)

/-- The characters in front of a text that lacks some. -/
def before : Alignment → Nat → Nat
  | .left, _ => 0
  | .center, missing => missing / 2
  | .right, missing => missing

/-- Lay out a text. -/
def apply (layout : Layout) (text : String) : String :=
  let kept := match layout.length with
    | some length => String.ofList (text.toList.take length)
    | none => text
  let missing := layout.width - kept.length
  let front := before layout.alignment missing
  Padding.repeated layout.fill front ++ kept ++ Padding.repeated layout.fill (missing - front)

end Layout

end BoxedDeduction
