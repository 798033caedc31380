import BoxedDeduction.Text.Blank

/-!
# Whole numbers in text

A whole number is written with decimal digits of any script, with an optional
sign, with single underscores between digits and with blanks around it. In
other bases the letters go on behind the digits, and a mark for the base may
stand in front. A text with more than `digitLimit` digits is not read as a
number, unless the base is a power of two.
-/

namespace BoxedDeduction.WholeNumber

/-- The largest count of digits that is read. -/
def digitLimit : Nat := 4300

/-- The zeros of the scripts that write decimal numbers. The other nine digits follow each. -/
def zeros : List Nat :=
  [0x30, 0x660, 0x6F0, 0x7C0, 0x966, 0x9E6, 0xA66, 0xAE6, 0xB66, 0xBE6, 0xC66, 0xCE6, 0xD66,
    0xDE6, 0xE50, 0xED0, 0xF20, 0x1040, 0x1090, 0x17E0, 0x1810, 0x1946, 0x19D0, 0x1A80, 0x1A90,
    0x1B50, 0x1BB0, 0x1C40, 0x1C50, 0xA620, 0xA8D0, 0xA900, 0xA9D0, 0xA9F0, 0xAA50, 0xABF0,
    0xFF10, 0x104A0, 0x10D30, 0x11066, 0x110F0, 0x11136, 0x111D0, 0x112F0, 0x11450, 0x114D0,
    0x11650, 0x116C0, 0x11730, 0x118E0, 0x11950, 0x11C50, 0x11D50, 0x11DA0, 0x16A60, 0x16AC0,
    0x16B50, 0x1D7CE, 0x1D7D8, 0x1D7E2, 0x1D7EC, 0x1D7F6, 0x1E140, 0x1E2F0, 0x1E950, 0x1FBF0]

/-- The value of a digit of any script. -/
def digit? (c : Char) : Option Nat :=
  (zeros.find? fun base => base ≤ c.toNat && c.toNat < base + 10).map (c.toNat - ·)

/-- Whether a character may stand around a number: the ASCII blanks, and beyond ASCII all
characters that separate words. -/
def isMargin (c : Char) : Bool :=
  if c.toNat < 0x80 then c == ' ' || (0x09 ≤ c.toNat && c.toNat ≤ 0x0D) else Blank.isBlank c

/-- The value of a digit or a letter in a base. -/
def digitIn? (base : Nat) (c : Char) : Option Nat :=
  let value :=
    if 'a' ≤ c ∧ c ≤ 'z' then some (c.toNat - 'a'.toNat + 10)
    else if 'A' ≤ c ∧ c ≤ 'Z' then some (c.toNat - 'A'.toNat + 10)
    else digit? c
  value.filter (· < base)

/-- The digits of a number. An underscore needs a digit on both sides. -/
def digits? (base : Nat) : List Char → Option (List Nat)
  | [] => none
  | [c] => (digitIn? base c).map ([·])
  | c :: '_' :: rest => do return (← digitIn? base c) :: (← digits? base rest)
  | c :: rest => do return (← digitIn? base c) :: (← digits? base rest)

/-- The number that digits denote, the first being the most significant. -/
def ofDigits (base : Nat) (digits : List Nat) : Nat :=
  digits.foldl (fun value digit => base * value + digit) 0

/-- The letters that announce a base behind a zero. -/
def marks : List (Nat × List Char) := [(2, ['b', 'B']), (8, ['o', 'O']), (16, ['x', 'X'])]

/-- Digits without the mark of their base, behind which an underscore may stand. -/
def withoutMark (base : Nat) (cs : List Char) : List Char :=
  match cs with
  | '0' :: mark :: rest =>
    if ((marks.lookup base).getD []).contains mark then
      if rest.head? = some '_' then rest.drop 1 else rest
    else cs
  | _ => cs

/-- The number without a sign that letters denote, within the limit of digits. -/
def natural? (base : Nat) (cs : List Char) : Option Nat := do
  let digits ← digits? base (withoutMark base cs)
  if digits.length ≤ digitLimit ∨ base ∈ marks.map Prod.fst then some (ofDigits base digits)
  else none

/-- Letters without the blanks around them. -/
def trim (cs : List Char) : List Char :=
  ((cs.dropWhile isMargin).reverse.dropWhile isMargin).reverse

/-- The number that letters denote in a base. -/
def readIn? (base : Nat) (cs : List Char) : Option Int :=
  match trim cs with
  | '-' :: rest => (natural? base rest).map fun value => -(value : Int)
  | '+' :: rest => (natural? base rest).map fun value => (value : Int)
  | rest => (natural? base rest).map fun value => (value : Int)

/-- The number that a text denotes. -/
def read? (text : String) : Option Int := readIn? 10 text.toList

end BoxedDeduction.WholeNumber
