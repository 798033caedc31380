/-!
# Fields of a fixed width

A field is padded with blanks up to a number of characters. A text that is
already wide enough is never cut.
-/

namespace BoxedDeduction.Padding

/-- The blanks that a text lacks. -/
def blanks (width : Nat) (text : String) : String :=
  "".pushn ' ' (width - text.length)

/-- Pad on the left, so the text stands at the right edge. -/
def right (width : Nat) (text : String) : String := blanks width text ++ text

/-- Pad on the right, so the text stands at the left edge. -/
def left (width : Nat) (text : String) : String := text ++ blanks width text

/-- A character written a number of times. -/
def repeated (c : Char) (count : Nat) : String := "".pushn c count

/-- The width of a right-aligned field is the larger of the two widths. -/
theorem length_right (width : Nat) (text : String) :
    (right width text).length = max width text.length := by
  simp only [right, blanks, String.length_append, String.length_pushn, String.length_empty]
  omega

/-- The width of a left-aligned field is the larger of the two widths. -/
theorem length_left (width : Nat) (text : String) :
    (left width text).length = max width text.length := by
  simp only [left, blanks, String.length_append, String.length_pushn, String.length_empty]
  omega

/-- A repeated character is as long as its count. -/
@[simp] theorem length_repeated (c : Char) (count : Nat) : (repeated c count).length = count := by
  simp only [repeated, String.length_pushn, String.length_empty, Nat.zero_add]

end BoxedDeduction.Padding
