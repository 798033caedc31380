import BoxedDeduction.Settings.Notation.Fault

/-!
# Places in the text of settings

A cursor stands at a place in a text and knows its line and its column, as the
notation of settings depends on both. Lines end with a line feed or with one of
three other characters that break lines.
-/

namespace BoxedDeduction

/-- A place in a text. -/
structure TextCursor where
  /-- The text from here on. -/
  rest : List Char
  /-- The number of characters before. -/
  offset : Nat := 0
  /-- The number of lines before. -/
  line : Nat := 0
  /-- The number of characters before on the same line. -/
  column : Nat := 0
  /-- Whether behind the text stand characters that cannot be read. -/
  isSealed : Bool := false
  deriving DecidableEq

namespace TextCursor

/-- The mark that may stand at the start of a text. It takes no column. -/
def byteOrderMark : Char := '\ufeff'

/-- Whether a character breaks a line. -/
def isBreak (c : Char) : Bool := c = '\n' || c = '\x85' || c = '\u2028' || c = '\u2029'

/-- Whether a character is blank within a line. -/
def isBlank (c : Char) : Bool := c = ' ' || c = '\t'

/-- Whether a place is the end of a word: the end of the text, a blank or a break. -/
def isGap (next : Option Char) : Bool := next.all fun c => isBlank c || isBreak c

/-- Whether a place is the end of a line: the end of the text or a break. -/
def isLineEnd (next : Option Char) : Bool := next.all isBreak

/-- The next character. -/
def next? (cursor : TextCursor) : Option Char := cursor.rest.head?

/-- The character at a distance. -/
def ahead? (cursor : TextCursor) (distance : Nat) : Option Char := cursor.rest[distance]?

/-- The place behind the next character. -/
def advance (cursor : TextCursor) : TextCursor :=
  match cursor.rest with
  | [] => cursor
  | c :: rest =>
    if isBreak c then ⟨rest, cursor.offset + 1, cursor.line + 1, 0, cursor.isSealed⟩
    else
      ⟨rest, cursor.offset + 1, cursor.line,
        if c = byteOrderMark then cursor.column else cursor.column + 1, cursor.isSealed⟩

/-- Whether a place is the end of a text behind which stand characters that cannot be read. -/
def isCut (cursor : TextCursor) : Bool := cursor.isSealed && cursor.rest.isEmpty

/-- What is wrong at a place where a token cannot go on. -/
def fault (cursor : TextCursor) : NotationFault :=
  if cursor.isCut then .unprintable else .badToken

/-- The place behind a number of characters. -/
def skip (cursor : TextCursor) : Nat → TextCursor
  | 0 => cursor
  | count + 1 => cursor.advance.skip count

/-- The characters from here on that have a property. -/
def span (cursor : TextCursor) (holds : Char → Bool) : List Char := cursor.rest.takeWhile holds

/-- The place behind the characters that have a property. -/
def skipWhile (cursor : TextCursor) (holds : Char → Bool) : TextCursor :=
  cursor.skip (cursor.span holds).length

/-- The place at the end of the line if a comment begins here. -/
def skipComment (cursor : TextCursor) : TextCursor :=
  if cursor.next? = some '#' then cursor.skipWhile (!isBreak ·) else cursor

/-- Whether three signs stand here that separate documents. -/
def atSigns (cursor : TextCursor) (sign : Char) : Bool :=
  cursor.rest.take 3 == [sign, sign, sign] && isGap (cursor.ahead? 3)

/-- Whether a separator of documents stands here. -/
def atSeparator (cursor : TextCursor) : Bool := cursor.atSigns '-' || cursor.atSigns '.'

/-- What a break stands for in a text: a line feed, or one of the two breaks that are kept. -/
def keptBreak (c : Char) : Char := if c = '\x85' then '\n' else c

/-- What the breaks between two lines of a text stand for. A single line feed joins the lines with a
blank, and of several the first one is left out. -/
def joinBreaks (first : Char) (others : List Char) : List Char :=
  if first ≠ '\n' then first :: others else if others.isEmpty then [' '] else others

end TextCursor

end BoxedDeduction
