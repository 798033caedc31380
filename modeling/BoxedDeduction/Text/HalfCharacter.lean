/-!
# Halves of characters

Some codes stand for halves of characters and for no character of their own. A
text that must hold such a half holds a character for private use in its place.
-/

namespace BoxedDeduction.HalfCharacter

/-- The first code of a half. -/
def first : Nat := 0xD800

/-- The number of halves. -/
def count : Nat := 0x800

/-- The code of the character that is held in place of the first half. -/
def base : Nat := 0x10F000

/-- The character with a code, or the one that is held in its place. -/
def ofCode (code : Nat) : Char :=
  Char.ofNat (if first ≤ code ∧ code < first + count then base + (code - first) else code)

/-- Whether a character is held in place of a half. -/
def isHalf (c : Char) : Bool := base ≤ c.toNat && c.toNat < base + count

/-- The code that a character stands for. -/
def code (c : Char) : Nat := if isHalf c then first + (c.toNat - base) else c.toNat

end BoxedDeduction.HalfCharacter
