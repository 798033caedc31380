import BoxedDeduction.Text.CharRange

/-!
# Blank characters

Two classes of blanks are in use. Between the tokens of a command only five
characters may stand: blank, tab, line feed, form feed and carriage return.
The wider class holds every character that separates words: the ASCII controls
that do so and the Unicode spaces and separators.
-/

namespace BoxedDeduction.Blank

/-- The ranges of the characters that separate words. -/
def ranges : List (Nat × Nat) :=
  [(0x09, 0x0D), (0x1C, 0x20), (0x85, 0x85), (0xA0, 0xA0), (0x1680, 0x1680), (0x2000, 0x200A),
    (0x2028, 0x2029), (0x202F, 0x202F), (0x205F, 0x205F), (0x3000, 0x3000)]

/-- Whether a character separates words. -/
def isBlank (c : Char) : Bool := CharRange.contains ranges c

/-- Whether a character may stand between tokens. -/
def isTokenGap (c : Char) : Bool :=
  c == ' ' || c == '\t' || c == '\n' || c == '\x0c' || c == '\r'

/-- Letters without the blanks at both ends. -/
def stripLetters (cs : List Char) : List Char :=
  ((cs.dropWhile isBlank).reverse.dropWhile isBlank).reverse

/-- A text without the blanks at both ends. -/
def strip (text : String) : String := String.ofList (stripLetters text.toList)

/-- Everything that may stand between tokens separates words. -/
theorem isBlank_of_isTokenGap {c : Char} (h : isTokenGap c = true) : isBlank c = true := by
  simp only [isTokenGap, Bool.or_eq_true, beq_iff_eq] at h
  rcases h with (((rfl | rfl) | rfl) | rfl) | rfl <;> decide

end BoxedDeduction.Blank
