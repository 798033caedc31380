import BoxedDeduction.Settings.Notation.Scalar
import BoxedDeduction.Text.WholeNumber

/-!
# Tokens of settings

The text of settings is cut into tokens. Outside of brackets the indentation of
a line opens and closes lists and objects, and this too becomes tokens. A text
may turn out to be a key when a colon follows it on the same line; then tokens
for the key, and for the object that it opens, are put in front of it. A place
that begins no token ends the work. What stood in front of it may still be read
from the tokens, up to a text that could have become a key.
-/

namespace BoxedDeduction

open TextCursor

/-- A token of the text of settings. -/
inductive SettingToken where
  /-- The version of the notation, by its first number. -/
  | version (number : Nat)
  /-- A short form of tags, with what it stands for. -/
  | tagHandle (handle meaning : String)
  /-- An instruction without a meaning. -/
  | instruction
  /-- The beginning of a document. -/
  | documentStart
  /-- The end of a document. -/
  | documentEnd
  /-- The beginning of an indented list. -/
  | blockList
  /-- The beginning of an indented object. -/
  | blockObject
  /-- The end of an indented list or object. -/
  | blockEnd
  /-- The beginning of a list in brackets. -/
  | flowList
  /-- The end of a list in brackets. -/
  | flowListEnd
  /-- The beginning of an object in braces. -/
  | flowObject
  /-- The end of an object in braces. -/
  | flowObjectEnd
  /-- A dash in front of an item. -/
  | blockItem
  /-- A comma between items. -/
  | flowItem
  /-- The mark of a key. -/
  | key
  /-- The mark of a value. -/
  | value
  /-- A reference to a node with a name. -/
  | reference (name : String)
  /-- The name of the node that follows. -/
  | anchor (name : String)
  /-- The tag of the node that follows, with the short form that it begins with. -/
  | tag (handle : Option String) (suffix : String)
  /-- A text, quoted or not. -/
  | scalar (text : String) (isPlain : Bool)
  deriving DecidableEq

/-- A text that may turn out to be a key. -/
structure PossibleKey where
  /-- The number of tokens in front of it. -/
  number : Nat
  /-- Whether it must be a key, as it stands at the indentation of an object. -/
  required : Bool
  /-- The place where it begins. -/
  cursor : TextCursor

/-- The state of cutting a text into tokens. -/
structure Tokenizing where
  /-- The place in the text. -/
  cursor : TextCursor
  /-- The tokens so far. -/
  tokens : Array SettingToken := #[]
  /-- The number of open brackets. -/
  flow : Nat := 0
  /-- The indentation of the innermost indented list or object. -/
  indent : Int := -1
  /-- The indentations around it, the innermost first. -/
  outer : List Int := []
  /-- Whether a key may begin here. -/
  allowsKey : Bool := true
  /-- The possible keys, each with the number of brackets around it. -/
  keys : List (Nat × PossibleKey) := []

namespace Tokenizing

/-- The state with a token more. -/
def push (state : Tokenizing) (token : SettingToken) : Tokenizing :=
  { state with tokens := state.tokens.push token }

/-- The state at another place. -/
def moveTo (state : Tokenizing) (cursor : TextCursor) : Tokenizing :=
  { state with cursor := cursor }

/-- The greatest distance between the beginning of a key and its colon. -/
def keyLimit : Nat := 1024

/-- Whether a text can no longer become a key. -/
def isStale (state : Tokenizing) (key : PossibleKey) : Bool :=
  key.cursor.line ≠ state.cursor.line || keyLimit < state.cursor.offset - key.cursor.offset

/-- Forget the keys that are no longer possible. None of them may be required. -/
def dropStale (state : Tokenizing) : Except NotationFault Tokenizing :=
  if state.keys.any fun (_, key) => state.isStale key && key.required then .error .badToken
  else .ok { state with keys := state.keys.filter fun (_, key) => !state.isStale key }

/-- Forget the possible key within the innermost brackets. It may not be required. -/
def dropKey (state : Tokenizing) : Except NotationFault Tokenizing :=
  match state.keys.lookup state.flow with
  | some key =>
    if key.required then .error .badToken
    else .ok { state with keys := state.keys.filter (·.1 ≠ state.flow) }
  | none => .ok state

/-- Note that what begins here may be a key. -/
def noteKey (state : Tokenizing) : Except NotationFault Tokenizing := do
  if !state.allowsKey then return state
  let required := state.flow = 0 && state.indent = state.cursor.column
  let cleared ← state.dropKey
  let key : PossibleKey := ⟨state.tokens.size, required, state.cursor⟩
  return { cleared with keys := (state.flow, key) :: cleared.keys }

/-- Close the indented lists and objects that are deeper than a column. -/
def closeTo (state : Tokenizing) (column : Int) : Tokenizing :=
  if state.flow ≠ 0 then state
  else
    let open_ := state.indent :: state.outer
    let closed := open_.takeWhile (column < ·)
    let left := open_.drop closed.length
    { state with
      tokens := state.tokens ++ (closed.map fun _ => SettingToken.blockEnd).toArray
      indent := left.head?.getD (-1)
      outer := left.drop 1 }

/-- Open an indented list or object if a column is deeper than the indentation. Its token stands at
a number. -/
def openAt (state : Tokenizing) (column number : Nat) (token : SettingToken) : Tokenizing :=
  if state.flow = 0 ∧ state.indent < column then
    { state with
      tokens := state.tokens.insertIdxIfInBounds number token
      indent := column
      outer := state.indent :: state.outer }
  else state

/-- Skip blanks, comments and breaks. Behind a break a key may begin. -/
def skipGaps : Nat → Tokenizing → Tokenizing
  | 0, state => state
  | fuel + 1, state =>
    let after := (state.cursor.skipWhile (· = ' ')).skipComment
    if after.next?.any isBreak then
      skipGaps fuel
        { state with cursor := after.advance, allowsKey := state.allowsKey || state.flow = 0 }
    else state.moveTo after

/-! ## Single tokens -/

/-- Whether a character belongs to a name. -/
def isNameLetter (c : Char) : Bool := c.isAlphanum || c = '-' || c = '_'

/-- Whether a character belongs to a tag. -/
def isTagLetter (c : Char) : Bool := c.isAlphanum || "-;/?:@&=+$,_.!~*'()[]%".toList.contains c

/-- The name behind a sign. -/
def name (cursor : TextCursor) : Except NotationFault (String × TextCursor) :=
  let letters := cursor.advance.span isNameLetter
  let after := cursor.advance.skip letters.length
  if letters ≠ [] ∧ (isGap after.next? ∨ after.next?.any ("?:,]\x7d%@`".toList.contains ·)) then
    .ok (String.ofList letters, after)
  else .error .badToken

/-- The bytes of escapes in a row, each of two hexadecimal digits behind a percent sign, and the
letters behind them. -/
def escapedBytes : List Char → Except NotationFault (List UInt8 × List Char)
  | '%' :: high :: low :: rest => do
    let some code := SettingScalar.hexValue? [high, low] | throw .badToken
    let (bytes, last) ← escapedBytes rest
    return (UInt8.ofNat code :: bytes, last)
  | c :: rest => if c = '%' then .error .badToken else .ok ([], c :: rest)
  | [] => .ok ([], [])

/-- The letters of a tag, with escapes for the bytes of characters. -/
def tagLetters : Nat → List Char → Except NotationFault (List Char)
  | 0, _ => .ok []
  | fuel + 1, cs => do
    let plain := cs.takeWhile (· ≠ '%')
    match cs.dropWhile (· ≠ '%') with
    | [] => return plain
    | escapes =>
      let (bytes, rest) ← escapedBytes escapes
      let some meant := String.fromUTF8? ⟨bytes.toArray⟩ | throw .badToken
      return plain ++ meant.toList ++ (← tagLetters fuel rest)

/-- The letters of a tag at a place, of which there must be some. -/
def tagText (cursor : TextCursor) : Except NotationFault (String × TextCursor) := do
  let letters := cursor.span isTagLetter
  if letters = [] then throw .badToken
  let meant ← tagLetters letters.length letters
  return (String.ofList meant, cursor.skip letters.length)

/-- The short form at the beginning of a tag: letters between two exclamation marks, or one mark. -/
def tagHandle (cursor : TextCursor) : Except NotationFault (String × TextCursor) :=
  let letters := cursor.advance.span isNameLetter
  let after := cursor.advance.skip letters.length
  if after.next? = some '!' then
    .ok (String.ofList ('!' :: letters ++ ['!']), after.advance)
  else .error .badToken

/-- The tag at a place. -/
def tag (cursor : TextCursor) : Except NotationFault (SettingToken × TextCursor) := do
  let second := cursor.ahead? 1
  let hasHandle := (cursor.advance.span fun c => c ≠ ' ' && !isBreak c).contains '!'
  let (token, after) ←
    if second = some '<' then do
      let (suffix, after) ← tagText (cursor.skip 2)
      if after.next? ≠ some '>' then throw .badToken
      pure (SettingToken.tag none suffix, after.advance)
    else if isGap second then pure (SettingToken.tag none "!", cursor.advance)
    else do
      let (handle, after) ← if hasHandle then tagHandle cursor else pure ("!", cursor.advance)
      let (suffix, after) ← tagText after
      pure (SettingToken.tag (some handle) suffix, after)
  if after.next? ≠ some ' ' ∧ ¬isLineEnd after.next? then throw .badToken
  return (token, after)

/-- Skip blanks and a comment up to the end of the line. -/
def endOfInstruction (cursor : TextCursor) : Except NotationFault TextCursor :=
  let after := (cursor.skipWhile (· = ' ')).skipComment
  if isLineEnd after.next? then .ok after.advance else .error .badToken

/-- The two numbers of a version, of which the first counts. -/
def version (cursor : TextCursor) : Except NotationFault (SettingToken × TextCursor) := do
  let start := cursor.skipWhile (· = ' ')
  let first := start.span Char.isDigit
  let point := start.skip first.length
  let second := point.advance.span Char.isDigit
  let after := point.advance.skip second.length
  if WholeNumber.digitLimit < first.length then throw .badNumber
  if first = [] ∨ second = [] ∨ point.next? ≠ some '.' then throw .badToken
  if WholeNumber.digitLimit < second.length then throw .badNumber
  if after.next? ≠ some ' ' ∧ ¬isLineEnd after.next? then throw .badToken
  return (.version (Decimal.digitsValue first), after)

/-- A short form of tags and what it stands for. -/
def tagMeaning (cursor : TextCursor) : Except NotationFault (SettingToken × TextCursor) := do
  let start := cursor.skipWhile (· = ' ')
  if start.next? ≠ some '!' then throw .badToken
  let (handle, after) ←
    if start.ahead? 1 = some ' ' then pure ("!", start.advance) else tagHandle start
  if after.next? ≠ some ' ' then throw .badToken
  let (meaning, last) ← tagText (after.skipWhile (· = ' '))
  if last.next? ≠ some ' ' ∧ ¬isLineEnd last.next? then throw .badToken
  return (.tagHandle handle meaning, last)

/-- The instruction at a place. -/
def instruction (cursor : TextCursor) : Except NotationFault (SettingToken × TextCursor) := do
  let letters := cursor.advance.span isNameLetter
  let after := cursor.advance.skip letters.length
  if letters = [] ∨ (after.next? ≠ some ' ' ∧ ¬isLineEnd after.next?) then throw .badToken
  let (token, last) ←
    if letters = "YAML".toList then version after
    else if letters = "TAG".toList then tagMeaning after
    else pure (.instruction, after.skipWhile (!isBreak ·))
  return (token, ← endOfInstruction last)

/-! ## Steps -/

/-- Take a token that ends all open lists and objects. -/
def takeBorder (state : Tokenizing) (token : SettingToken) (cursor : TextCursor) :
    Except NotationFault Tokenizing := do
  let closed ← (state.closeTo (-1)).dropKey
  return { closed.push token with cursor := cursor, allowsKey := false }

/-- Take an opening bracket. -/
def takeOpening (state : Tokenizing) (token : SettingToken) : Except NotationFault Tokenizing := do
  let noted ← state.noteKey
  return { noted.push token with
    flow := state.flow + 1, allowsKey := true, cursor := state.cursor.advance }

/-- Take a closing bracket. -/
def takeClosing (state : Tokenizing) (token : SettingToken) : Except NotationFault Tokenizing := do
  let cleared ← state.dropKey
  return { cleared.push token with
    flow := state.flow - 1, allowsKey := false, cursor := state.cursor.advance }

/-- Take the mark of an item or of a key. Outside of brackets it may open a list or an object. -/
def takeMark (state : Tokenizing) (token opener : SettingToken) (allowsKey : Bool) :
    Except NotationFault Tokenizing := do
  if state.flow = 0 ∧ ¬state.allowsKey then throw .badToken
  let opened := state.openAt state.cursor.column state.tokens.size opener
  let cleared ← opened.dropKey
  return { cleared.push token with allowsKey := allowsKey, cursor := state.cursor.advance }

/-- Take the colon behind a key. -/
def takeValue (state : Tokenizing) : Except NotationFault Tokenizing :=
  match state.keys.lookup state.flow with
  | some key =>
    let marked := { state with tokens := state.tokens.insertIdxIfInBounds key.number .key }
    let opened := marked.openAt key.cursor.column key.number .blockObject
    .ok { opened.push .value with
      keys := state.keys.filter (·.1 ≠ state.flow)
      allowsKey := false
      cursor := state.cursor.advance }
  | none => state.takeMark .value .blockObject (state.flow = 0)

/-- Take a block of lines. -/
def takeBlock (state : Tokenizing) (folded : Bool) : Except NotationFault Tokenizing := do
  let cleared ← state.dropKey
  let (letters, after) ← SettingScalar.block folded state.indent state.cursor
  return { cleared.push (.scalar (String.ofList letters) false) with
    allowsKey := true, cursor := after }

/-- Take a quoted text. -/
def takeQuoted (state : Tokenizing) (quote : Char) : Except NotationFault Tokenizing := do
  let noted ← state.noteKey
  let (letters, after) ← SettingScalar.quoted quote state.cursor
  return { noted.push (.scalar (String.ofList letters) false) with
    allowsKey := false, cursor := after }

/-- Take a plain text. A key may begin behind it if it ends with a break. -/
def takePlain (state : Tokenizing) : Except NotationFault Tokenizing := do
  let noted ← state.noteKey
  let plain := SettingScalar.plain (state.flow ≠ 0) (state.indent + 1) state.cursor
  return { noted.push (.scalar (String.ofList plain.letters) true) with
    allowsKey := plain.crossed, cursor := plain.cursor }

/-- Whether a plain text begins with a character in front of another one. -/
def beginsPlain (inFlow : Bool) (c : Char) (next : Option Char) : Bool :=
  if c = '-' then !isGap next
  else if c = '?' ∨ c = ':' then !inFlow && !isGap next
  else !SettingScalar.isFlowSign c && !"#&*!|>'\"%@`".toList.contains c && !isGap (some c)

/-- Take the token that begins with a character. -/
def takeToken (state : Tokenizing) (c : Char) : Except NotationFault Tokenizing :=
  let cursor := state.cursor
  let inFlow : Bool := state.flow ≠ 0
  let next := cursor.ahead? 1
  if c = '%' ∧ cursor.column = 0 then do
    let (token, after) ← instruction cursor
    state.takeBorder token after
  else if cursor.column = 0 ∧ cursor.atSigns '-' then
    state.takeBorder .documentStart (cursor.skip 3)
  else if cursor.column = 0 ∧ cursor.atSigns '.' then state.takeBorder .documentEnd (cursor.skip 3)
  else if c = '[' then state.takeOpening .flowList
  else if c = '\x7b' then state.takeOpening .flowObject
  else if c = ']' then state.takeClosing .flowListEnd
  else if c = '\x7d' then state.takeClosing .flowObjectEnd
  else if c = ',' then do
    let cleared ← state.dropKey
    return { cleared.push .flowItem with allowsKey := true, cursor := cursor.advance }
  else if c = '-' ∧ isGap next then state.takeMark .blockItem .blockList true
  else if c = '?' ∧ (inFlow ∨ isGap next) then state.takeMark .key .blockObject (!inFlow)
  else if c = ':' ∧ (inFlow ∨ isGap next) then state.takeValue
  else if c = '*' ∨ c = '&' then do
    let noted ← state.noteKey
    let (label, after) ← name cursor
    return { noted.push (if c = '*' then .reference label else .anchor label) with
      allowsKey := false, cursor := after }
  else if c = '!' then do
    let noted ← state.noteKey
    let (token, after) ← tag cursor
    return { noted.push token with allowsKey := false, cursor := after }
  else if (c = '|' ∨ c = '>') ∧ ¬inFlow then state.takeBlock (c = '>')
  else if c = '\'' ∨ c = '"' then state.takeQuoted c
  else if beginsPlain inFlow c next then state.takePlain
  else .error .badToken

/-- The result of cutting a text: the tokens that can be read, and what ends them. -/
abbrev Tokens := List SettingToken × Option NotationFault

/-- The tokens that can be read although the text breaks off: those in front of the first text that
could still become a key. -/
def settled (state : Tokenizing) : List SettingToken :=
  let pending := state.keys.map fun (_, key) => key.number
  state.tokens.toList.take (pending.foldl min state.tokens.size)

/-- The end of the text closes all lists and objects. -/
def finish (state : Tokenizing) : Except NotationFault Tokenizing := (state.closeTo (-1)).dropKey

/-- Whether the token before is a bracket that closes none. -/
def hasStrayBracket (before after : Tokenizing) : Bool :=
  before.flow = 0 && (after.tokens.back? = some .flowListEnd ||
    after.tokens.back? = some .flowObjectEnd)

/-- One step: skip gaps, close what the indentation closes, and take a token. The end of the text
gives no next state. -/
def step (state : Tokenizing) : Except NotationFault (Tokenizing × Bool) := do
  let skipped := state.skipGaps (state.cursor.rest.length + 1)
  if skipped.cursor.isCut then throw .unprintable
  let fresh ← skipped.dropStale
  let closed := fresh.closeTo fresh.cursor.column
  match closed.cursor.next? with
  | none => return (← closed.finish, true)
  | some c =>
    let next ← closed.takeToken c
    return (next, hasStrayBracket closed next)

/-- Cut the text from a place on. A bracket that closes none is the last token. -/
def run : Nat → Tokenizing → Tokens
  | 0, state => (state.settled, some .badToken)
  | fuel + 1, state =>
    match state.dropStale with
    | .error cause => (state.settled, some cause)
    | .ok fresh =>
      match fresh.step with
      | .error cause => (fresh.settled, some cause)
      | .ok (next, isLast) =>
        if next.cursor.isCut then (fresh.settled, some .unprintable)
        else if isLast then (next.tokens.toList, none)
        else run fuel next

/-- Cut a text into tokens. Behind a sealed text stand characters that cannot be read. -/
def ofText (cs : List Char) (isSealed : Bool) : Tokens :=
  let start := if cs.head? = some byteOrderMark then cs.drop 1 else cs
  run (cs.length + 1) { cursor := { rest := start, isSealed := isSealed } }

end Tokenizing

end BoxedDeduction
