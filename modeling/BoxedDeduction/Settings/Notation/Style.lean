import BoxedDeduction.Settings.Notation.Cursor
import BoxedDeduction.Settings.Notation.Tag

/-!
# Styles of texts

A text in a document of settings is written plain where it is read back as
itself, in single quotes where its lines can be folded and unfolded again, and in
double quotes otherwise. Some styles are not possible for a key that stands on
one line with its value.
-/

namespace BoxedDeduction

/-- How a text is written. -/
inductive TextStyle where
  /-- Without quotes. -/
  | plain
  /-- In single quotes. -/
  | single
  /-- In double quotes, with escapes. -/
  | double
  deriving DecidableEq

namespace TextStyle

open TextCursor

/-- The characters with which no plain text begins. -/
def openers : List Char :=
  ['#', ',', '[', ']', '\x7b', '\x7d', '&', '*', '!', '|', '>', '\'', '"', '%', '@',
    Char.ofNat 0x60]

/-- Whether a place is the end of a word. -/
def isWordEnd (next : Option Char) : Bool := isGap next || next = some '\r'

/-- Whether a plain text that begins like this would be read as something else. -/
def opensMark : List Char → Bool
  | [] => false
  | c :: rest =>
    openers.contains c || (['?', ':', '-'].contains c && isWordEnd rest.head?) ||
      ["---".toList, "...".toList].contains ((c :: rest).take 3)

/-- Whether a text has a colon in front of a gap or a comment behind one, after a first
character. -/
def holdsMark : List Char → Bool
  | [] | [_] => false
  | before :: c :: rest =>
    (c = ':' && isWordEnd rest.head?) || (c = '#' && isWordEnd (some before)) ||
      holdsMark (c :: rest)

/-- Whether a character can be written as it is outside of double quotes. -/
def isOrdinary (c : Char) : Bool :=
  let code := c.toNat
  c = '\n' || (0x20 ≤ code && code ≤ 0x7E) || c = '\x85' ||
    (0xA0 ≤ code && code ≤ 0xFFFD && c ≠ byteOrderMark) || (0x10000 ≤ code && code < 0x10FFFF)

/-- Whether a blank stands beside a break in a text. -/
def hasLooseBlank : List Char → Bool
  | [] | [_] => false
  | a :: b :: rest =>
    (a = ' ' && isBreak b) || (isBreak a && b = ' ') || hasLooseBlank (b :: rest)

/-- Whether a text has several lines. -/
def isMultiline (cs : List Char) : Bool := cs.any isBreak

/-- Whether a text can be folded. -/
def allowsSingle (cs : List Char) : Bool := cs.all isOrdinary && !hasLooseBlank cs

/-- Whether a text can be written without quotes, as far as its characters go. -/
def allowsPlain (cs : List Char) : Bool :=
  let isOuterBlank (c : Option Char) : Bool := c = some ' '
  allowsSingle cs && !isMultiline cs && !isOuterBlank cs.head? && !isOuterBlank cs.getLast? &&
    !opensMark cs && !holdsMark cs

/-- The style of a text. It can be plain if its form suggests its tag. A key on one line with its
value has letters on that line. -/
def choose (suggested isLineKey : Bool) (cs : List Char) : TextStyle :=
  if suggested && allowsPlain cs && !(isLineKey && cs.isEmpty) then .plain
  else if allowsSingle cs && !(isLineKey && isMultiline cs) then .single
  else .double

end TextStyle

end BoxedDeduction
