import BoxedDeduction.Text.CharRange
import BoxedDeduction.Text.HalfCharacter
import BoxedDeduction.Text.PrintableTable

/-!
# Quoted text

A quoted text stands between single quotes, or between double quotes when it
holds a single quote and no double one. Inside, the backslash and the chosen
quote are escaped, and every character without a visible form is written by
its code point.
-/

namespace BoxedDeduction.Quoted

/-- Whether a character is printed as it stands. -/
def isVisible (c : Char) : Bool := !CharRange.contains invisibleRanges c

/-- A code point in hexadecimal digits, filled up with zeros. -/
def hexadecimal (width code : Nat) : List Char :=
  let digits := Nat.toDigits 16 code
  List.replicate (width - digits.length) '0' ++ digits

/-- The escape of a character by its code point, in the shortest of three forms. -/
def escapeCode (c : Char) : List Char :=
  let code := HalfCharacter.code c
  if code < 0x100 then '\\' :: 'x' :: hexadecimal 2 code
  else if code < 0x10000 then '\\' :: 'u' :: hexadecimal 4 code
  else '\\' :: 'U' :: hexadecimal 8 code

/-- One character inside quotes. -/
def escape (mark c : Char) : List Char :=
  if c = mark || c = '\\' then ['\\', c]
  else if c = '\t' then ['\\', 't']
  else if c = '\n' then ['\\', 'n']
  else if c = '\r' then ['\\', 'r']
  else if isVisible c then [c]
  else escapeCode c

/-- The quotation mark that suits a text. -/
def markFor (cs : List Char) : Char :=
  if cs.contains '\'' && !cs.contains '"' then '"' else '\''

/-- Letters in quotes. -/
def quoteLetters (cs : List Char) : List Char :=
  let mark := markFor cs
  mark :: cs.flatMap (escape mark) ++ [mark]

/-- A text in quotes. -/
def quote (text : String) : String := String.ofList (quoteLetters text.toList)

/-- Letters of which all beyond ASCII are written by their code points. -/
def asciiOnly (cs : List Char) : List Char :=
  cs.flatMap fun c => if c.toNat < 0x80 then [c] else escapeCode c

end BoxedDeduction.Quoted
