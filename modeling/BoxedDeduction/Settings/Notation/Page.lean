import BoxedDeduction.Settings.Notation.Style
import BoxedDeduction.Text.Quoted

/-!
# Pages

A page is written from left to right and from line to line. It knows the column
that is reached, whether a gap is in front of it, and whether the line has
nothing but indentation and marks. Texts are folded at single blanks where the
line has become too long.
-/

namespace BoxedDeduction

/-- A page on which settings are written. -/
structure Page where
  /-- What is written, the last character first. -/
  written : List Char := []
  /-- The number of characters on the line. -/
  column : Nat := 0
  /-- Whether what comes next is set off by a gap. -/
  afterGap : Bool := true
  /-- Whether the line has nothing but indentation and marks. -/
  atMargin : Bool := true

namespace Page

open TextCursor

/-- A line is too long behind this column. -/
def width : Nat := 80

/-- Write characters on the line. -/
def add (page : Page) (cs : List Char) : Page :=
  { page with written := cs.reverse ++ page.written, column := page.column + cs.length }

/-- Go to the next line behind a character that breaks lines. -/
def breakLine (page : Page) (c : Char) : Page := ⟨c :: page.written, 0, true, true⟩

/-- Go to an indentation, on this line if it is not used yet. -/
def indentTo (page : Page) (indent : Nat) : Page :=
  let isUsed := !page.atMargin || indent < page.column ||
    (page.column = indent && !page.afterGap)
  let fresh := if isUsed then page.breakLine '\n' else page
  if fresh.column < indent then
    { fresh.add (List.replicate (indent - fresh.column) ' ') with afterGap := true }
  else fresh

/-- Write what begins a word. -/
def word (page : Page) (cs : List Char) : Page :=
  { page.add (if page.afterGap then cs else ' ' :: cs) with afterGap := false, atMargin := false }

/-- Write what ends a word. -/
def close (page : Page) (cs : List Char) : Page :=
  { page.add cs with afterGap := false, atMargin := false }

/-- Write a mark behind which the margin goes on. -/
def mark (page : Page) (c : Char) : Page := { page.word [c] with atMargin := page.atMargin }

/-- Whether the line is too long. -/
def isFull (page : Page) : Bool := width < page.column

/-- The characters of a text in runs of blanks, of breaks and of others. -/
def runs (cs : List Char) : List (List Char) :=
  cs.splitBy fun a b => (a = ' ') == (b = ' ') && isBreak a == isBreak b

/-- Write a plain text. -/
def plain (page : Page) (indent : Nat) (folds : Bool) (cs : List Char) : Page :=
  (runs cs).foldl (fun page run =>
    if run = [' '] ∧ folds ∧ page.isFull then
      { page.indentTo indent with afterGap := false, atMargin := false }
    else page.add run) (page.word [])

/-- Write runs of a text in single quotes behind the first one. -/
def singleRuns (page : Page) (indent : Nat) (folds : Bool) : List (List Char) → Page
  | [] => page
  | run :: rest =>
    let next :=
      if run = [' '] ∧ folds ∧ page.isFull ∧ rest ≠ [] then page.indentTo indent
      else if run.any isBreak then
        let first := if run.head? = some '\n' then page.breakLine '\n' else page
        (run.foldl breakLine first).indentTo indent
      else page.add (run.flatMap fun c => if c = '\'' then ['\'', '\''] else [c])
    next.singleRuns indent folds rest

/-- Write a text in single quotes. A blank at an end of it is no place to fold. -/
def single (page : Page) (indent : Nat) (folds : Bool) (cs : List Char) : Page :=
  let opened := page.word ['\'']
  let done := match runs cs with
    | [' '] :: rest => (opened.add [' ']).singleRuns indent folds rest
    | all => opened.singleRuns indent folds all
  done.close ['\'']

/-- The letters that stand for characters behind a backslash. -/
def escapes : List (Char × Char) :=
  [('\x00', '0'), ('\x07', 'a'), ('\x08', 'b'), ('\t', 't'), ('\n', 'n'), ('\x0b', 'v'),
    ('\x0c', 'f'), ('\r', 'r'), ('\x1b', 'e'), ('"', '"'), ('\\', '\\'), ('\x85', 'N'),
    ('\u2028', 'L'), ('\u2029', 'P')]

/-- The escape of a character that does not stand for itself in double quotes. -/
def escape? (c : Char) : Option (List Char) :=
  let code := c.toNat
  let capitals (width : Nat) : List Char :=
    (Quoted.hexadecimal width code).map Char.toUpper
  if let some letter := escapes.lookup c then some ['\\', letter]
  else if (0x20 ≤ code ∧ code ≤ 0x7E) ∨ (0xA0 ≤ code ∧ code ≤ 0xFFFD ∧ c ≠ byteOrderMark) then none
  else if code ≤ 0xFF then some ('\\' :: 'x' :: capitals 2)
  else if code ≤ 0xFFFF then some ('\\' :: 'u' :: capitals 4)
  else some ('\\' :: 'U' :: capitals 8)

/-- Fold a text in double quotes in front of the next character. A backslash ends the line, and
another one keeps a blank at the beginning of the next line. -/
def foldDouble (page : Page) (indent : Nat) (next : Option Char) : Page :=
  let folded := { (page.add ['\\']).indentTo indent with afterGap := false, atMargin := false }
  if next = some ' ' then folded.add ['\\'] else folded

/-- Write the letters of a text in double quotes, of which some in a row are pending. A fold is
possible behind an escape and in front of a blank, but not at the ends of the text. -/
def doubleFrom (indent : Nat) (folds : Bool) (page : Page) (isFirst : Bool)
    (pending : List Char) : List Char → Page
  | [] => page.add pending.reverse
  | c :: rest =>
    let mayFold := folds && !isFirst && !rest.isEmpty
    match escape? c with
    | some escaped =>
      let behind := (page.add pending.reverse).add escaped
      let next :=
        if mayFold && width < behind.column - 1 then behind.foldDouble indent rest.head? else behind
      doubleFrom indent folds next false [] rest
    | none =>
      let isFull := width < page.column + pending.length
      if mayFold && isFull && (c = ' ' || pending.isEmpty) then
        let next := (page.add pending.reverse).foldDouble indent (some c)
        doubleFrom indent folds next false [c] rest
      else doubleFrom indent folds page false (c :: pending) rest

/-- Write a text in double quotes. -/
def double (page : Page) (indent : Nat) (folds : Bool) (cs : List Char) : Page :=
  (doubleFrom indent folds (page.word ['"']) true [] cs).close ['"']

/-- Write a text in a style. -/
def text (page : Page) (style : TextStyle) (indent : Nat) (folds : Bool) (cs : List Char) : Page :=
  match style with
  | .plain => page.plain indent folds cs
  | .single => page.single indent folds cs
  | .double => page.double indent folds cs

/-- The text of a page. -/
def print (page : Page) : String := String.ofList page.written.reverse

end Page

end BoxedDeduction
