import BoxedDeduction.Settings.Notation.Cursor
import BoxedDeduction.Settings.Notation.Fault
import BoxedDeduction.Number.Decimal
import BoxedDeduction.Text.HalfCharacter

/-!
# Texts in settings

A text in settings is plain, quoted or a block of lines. A plain text ends
where something else can begin. Quoted texts are folded: the lines of a text
are joined with blanks, and an empty line stands for a line feed. A block of
lines is indented and keeps or folds its breaks.
-/

namespace BoxedDeduction

open TextCursor

/-- A text with the place behind it. -/
abbrev ReadText := List Char × TextCursor

namespace SettingScalar

/-! ## Plain texts -/

/-- A plain text with the place behind it. -/
structure PlainText where
  /-- The letters. -/
  letters : List Char
  /-- The place behind the text and the gap that follows it. -/
  cursor : TextCursor
  /-- Whether the gap has a break. -/
  crossed : Bool

/-- The characters between which items are listed. -/
def isFlowSign (c : Char) : Bool := c = ',' || c = '[' || c = ']' || c = '\x7b' || c = '\x7d'

/-- Whether a colon in front of a place ends a key. -/
def endsKey (inFlow : Bool) (next : Option Char) : Bool :=
  isGap next || (inFlow && next.any isFlowSign)

/-- A part of a plain text without gaps. -/
def plainPart (inFlow : Bool) : List Char → List Char
  | [] => []
  | c :: rest =>
    if isGap (some c) || (c = ':' && endsKey inFlow rest.head?) ||
        (inFlow && (c = '?' || isFlowSign c)) then []
    else c :: plainPart inFlow rest

/-- The breaks after the first break in a gap, unless they lead to a separator of documents. -/
def plainBreaks : Nat → TextCursor → Option (List Char) × TextCursor
  | 0, cursor => (some [], cursor)
  | fuel + 1, cursor =>
    match cursor.next? with
    | some c =>
      if c = ' ' then plainBreaks fuel cursor.advance
      else if isBreak c then
        if cursor.advance.atSeparator then (none, cursor.advance)
        else
          let (breaks, last) := plainBreaks fuel cursor.advance
          (breaks.map (keptBreak c :: ·), last)
      else (some [], cursor)
    | none => (some [], cursor)

/-- The gap behind a part of a plain text: what it stands for and the place behind it. A gap at
which the text must end stands for nothing. -/
def plainGap (cursor : TextCursor) : PlainText :=
  let after := cursor.skipWhile (· = ' ')
  match after.next? with
  | some c =>
    if isBreak c then
      if after.advance.atSeparator then ⟨[], after.advance, true⟩
      else
        let (breaks, last) := plainBreaks after.rest.length after.advance
        ⟨(breaks.map (joinBreaks (keptBreak c))).getD [], last, true⟩
    else ⟨cursor.span (· = ' '), after, false⟩
  | none => ⟨cursor.span (· = ' '), after, false⟩

/-- A plain text, of which the gap before the next part is known. Outside of brackets it goes on
only in lines with an indentation. -/
def plainFrom (inFlow : Bool) (indent : Int) : Nat → PlainText → PlainText
  | 0, gap => ⟨[], gap.cursor, gap.crossed⟩
  | fuel + 1, gap =>
    let part := plainPart inFlow gap.cursor.rest
    if gap.cursor.next? = some '#' ∨ part = [] then ⟨[], gap.cursor, gap.crossed⟩
    else
      let next := plainGap (gap.cursor.skip part.length)
      if next.letters = [] ∨ (¬inFlow ∧ (next.cursor.column : Int) < indent) then
        ⟨gap.letters ++ part, next.cursor, next.crossed⟩
      else
        let more := plainFrom inFlow indent fuel next
        ⟨gap.letters ++ part ++ more.letters, more.cursor, more.crossed⟩

/-- The plain text at a place. -/
def plain (inFlow : Bool) (indent : Int) (cursor : TextCursor) : PlainText :=
  plainFrom inFlow indent (cursor.rest.length + 1) ⟨[], cursor, false⟩

/-! ## Quoted texts -/

/-- The breaks after the first break between two lines, with the blanks around them. -/
def quotedBreaks : Nat → TextCursor → Except NotationFault ReadText
  | 0, cursor => .ok ([], cursor)
  | fuel + 1, cursor => do
    if cursor.atSeparator then throw .badToken
    let after := cursor.skipWhile isBlank
    match after.next? with
    | some c =>
      if isBreak c then
        let (breaks, last) ← quotedBreaks fuel after.advance
        return (keptBreak c :: breaks, last)
      else return ([], after)
    | none => return ([], after)

/-- The characters that stand for others behind a backslash. -/
def escapes : List (Char × Char) :=
  [('0', '\x00'), ('a', '\x07'), ('b', '\x08'), ('t', '\t'), ('\t', '\t'), ('n', '\n'),
    ('v', '\x0b'), ('f', '\x0c'), ('r', '\r'), ('e', '\x1b'), (' ', ' '), ('"', '"'),
    ('\\', '\\'), ('/', '/'), ('N', '\x85'), ('_', '\xa0'), ('L', '\u2028'), ('P', '\u2029')]

/-- The numbers of hexadecimal digits behind the letters that announce a code point. -/
def codeLengths : List (Char × Nat) := [('x', 2), ('u', 4), ('U', 8)]

/-- Codes from here on are not computed with. -/
def codeLimit : Nat := 0x80000000

/-- The value of a hexadecimal digit. -/
def hexDigit? (c : Char) : Option Nat :=
  if c.isDigit then some (c.toNat - '0'.toNat)
  else if 'a' ≤ c ∧ c ≤ 'f' then some (c.toNat - 'a'.toNat + 10)
  else if 'A' ≤ c ∧ c ≤ 'F' then some (c.toNat - 'A'.toNat + 10)
  else none

/-- The number that hexadecimal digits denote. -/
def hexValue? (cs : List Char) : Option Nat :=
  (cs.mapM hexDigit?).map fun digits => digits.foldl (fun value digit => 16 * value + digit) 0

/-- What stands behind a backslash at a place. -/
def escaped (cursor : TextCursor) : Except NotationFault ReadText := do
  let some c := cursor.next? | throw cursor.fault
  if let some meant := escapes.lookup c then return ([meant], cursor.advance)
  if isBreak c then return ← quotedBreaks cursor.rest.length cursor.advance
  let some length := codeLengths.lookup c | throw .badToken
  let digits := cursor.advance.rest.take length
  let some code := hexValue? digits | throw .badToken
  if digits.length < length then throw (cursor.skip (length + 1)).fault
  if codeLimit ≤ code then throw .outOfRange
  if 0x110000 ≤ code then throw .badNumber
  return ([HalfCharacter.ofCode code], cursor.skip (length + 1))

/-- A quoted text from a place behind its opening quote. -/
def quotedFrom (quote : Char) : Nat → TextCursor → Except NotationFault ReadText
  | 0, _ => .error .badToken
  | fuel + 1, cursor => do
    let some c := cursor.next? | throw cursor.fault
    let goOn (letters : List Char) (after : TextCursor) : Except NotationFault ReadText := do
      let (more, last) ← quotedFrom quote fuel after
      return (letters ++ more, last)
    if isGap (some c) then
      let after := cursor.skipWhile isBlank
      match after.next? with
      | none => throw after.fault
      | some b =>
        if isBreak b then
          let (breaks, last) ← quotedBreaks after.rest.length after.advance
          goOn (joinBreaks (keptBreak b) breaks) last
        else goOn (cursor.span isBlank) after
    else if quote = '"' ∧ c = '\\' then
      let (meant, after) ← escaped cursor.advance
      goOn meant after
    else if c ≠ quote then goOn [c] cursor.advance
    else if quote = '\'' ∧ cursor.ahead? 1 = some '\'' then goOn ['\''] (cursor.skip 2)
    else return ([], cursor.advance)

/-- The quoted text at a place. -/
def quoted (quote : Char) (cursor : TextCursor) : Except NotationFault ReadText :=
  quotedFrom quote (cursor.rest.length + 1) cursor.advance

/-! ## Blocks of lines -/

/-- What becomes of the breaks at the end of a block. -/
inductive Chomping where
  /-- One break is kept. -/
  | clip
  /-- No break is kept. -/
  | strip
  /-- All breaks are kept. -/
  | keep
  deriving DecidableEq

/-- The first line of a block. -/
structure BlockHeader where
  /-- What becomes of the breaks at the end. -/
  chomping : Chomping := .clip
  /-- How much deeper than its surroundings the block is indented, if that is given. -/
  increment : Option Nat := none

/-- The meaning of a sign in the first line of a block. -/
def chompingOf? : Option Char → Option Chomping
  | some '+' => some .keep
  | some '-' => some .strip
  | _ => none

/-- Read the signs behind the mark of a block: a sign and a digit, in any order. -/
def blockHeader (cursor : TextCursor) : Except NotationFault (BlockHeader × TextCursor) := do
  let digit (c : Option Char) : Option Nat :=
    (c.filter Char.isDigit).map fun d => d.toNat - '0'.toNat
  let first := cursor.next?
  let second := cursor.ahead? 1
  let (header, length) : BlockHeader × Nat :=
    match chompingOf? first, digit first with
    | some chomping, _ => (⟨chomping, digit second⟩, if (digit second).isSome then 2 else 1)
    | none, some increment =>
      (⟨(chompingOf? second).getD .clip, some increment⟩,
        if (chompingOf? second).isSome then 2 else 1)
    | none, none => ({}, 0)
  if header.increment = some 0 then throw .badToken
  let after := cursor.skip length
  if !isLineEnd after.next? && after.next? != some ' ' then throw .badToken
  let last := (after.skipWhile (· = ' ')).skipComment
  if !isLineEnd last.next? then throw .badToken
  return (header, last.advance)

/-- The breaks of empty lines in front of a block, and the greatest number of blanks in them and in
front of its first line. -/
def leadingLines : Nat → TextCursor → List Char × Nat × TextCursor
  | 0, cursor => ([], 0, cursor)
  | fuel + 1, cursor =>
    match cursor.next? with
    | some c =>
      if isBreak c then
        let (breaks, indent, last) := leadingLines fuel cursor.advance
        (keptBreak c :: breaks, indent, last)
      else if c = ' ' then
        let after := cursor.skipWhile (· = ' ')
        let (breaks, indent, last) := leadingLines fuel after
        (breaks, max after.column indent, last)
      else ([], 0, cursor)
    | none => ([], 0, cursor)

/-- The place behind the blanks of an indentation. -/
def skipIndent (indent : Nat) (cursor : TextCursor) : TextCursor :=
  cursor.skip (min (cursor.span (· = ' ')).length (indent - cursor.column))

/-- The breaks of empty lines in a block. -/
def emptyLines (indent : Nat) : Nat → TextCursor → List Char × TextCursor
  | 0, cursor => ([], cursor)
  | fuel + 1, cursor =>
    let after := skipIndent indent cursor
    match after.next? with
    | some c =>
      if isBreak c then
        let (breaks, last) := emptyLines indent fuel after.advance
        (keptBreak c :: breaks, last)
      else ([], after)
    | none => ([], after)

/-- Lines of a block with the breaks behind them. -/
structure BlockLines where
  /-- The letters of the lines. -/
  letters : List Char
  /-- The break of the last line. -/
  lastBreak : List Char
  /-- The breaks of the empty lines behind. -/
  breaks : List Char
  /-- The place behind. -/
  cursor : TextCursor

/-- The lines of a block from a place on, of which the breaks in front are known. -/
def blockLines (folded : Bool) (indent : Nat) : Nat → List Char → TextCursor → BlockLines
  | 0, breaks, cursor => ⟨[], [], breaks, cursor⟩
  | fuel + 1, breaks, cursor =>
    if cursor.column ≠ indent ∨ cursor.next? = none then ⟨[], [], breaks, cursor⟩
    else
      let line := cursor.span (!isBreak ·)
      let after := cursor.skip line.length
      let lastBreak := (after.next?.map keptBreak).toList
      let (empty, next) := emptyLines indent after.rest.length after.advance
      if next.column ≠ indent ∨ next.next? = none then
        ⟨breaks ++ line, lastBreak, empty, next⟩
      else
        let folds := folded && lastBreak == ['\n'] && !line.head?.any isBlank &&
          !next.next?.any isBlank
        let glue := if !folds then lastBreak else if empty.isEmpty then [' '] else []
        let more := blockLines folded indent fuel empty next
        { more with letters := breaks ++ line ++ glue ++ more.letters }

/-- The block at a place inside an indentation. -/
def block (folded : Bool) (indent : Int) (cursor : TextCursor) : Except NotationFault ReadText := do
  let (header, start) ← blockHeader cursor.advance
  let least := (max (indent + 1) 1).toNat
  let fuel := start.rest.length + 1
  let lines := match header.increment with
    | some increment =>
      let (breaks, first) := emptyLines (least + increment - 1) fuel start
      blockLines folded (least + increment - 1) fuel breaks first
    | none =>
      let (breaks, deepest, first) := leadingLines fuel start
      blockLines folded (max least deepest) fuel breaks first
  let ending := match header.chomping with
    | .clip => lines.lastBreak
    | .strip => []
    | .keep => lines.lastBreak ++ lines.breaks
  return (lines.letters ++ ending, lines.cursor)

end SettingScalar

end BoxedDeduction
