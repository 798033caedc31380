import BoxedDeduction.Settings.Notation.Page
import BoxedDeduction.Settings.Value

/-!
# Settings as text

Settings are written with one field or one item of a list on each line. The
fields of an object inside an object stand two blanks further to the right; the
items of a list stand behind dashes, and beside a key not further to the right
than the key. A key that is long, empty or has several lines stands behind a
question mark, and its value behind a colon on a line of its own. The document
of a plain value ends with a line of three dots, and the missing value has an
empty document.
-/

namespace BoxedDeduction

namespace SettingText

/-- A fraction. A power of ten needs a point in front of it, and the values that are no numbers
begin with a point. -/
def ofFraction : Fraction → String
  | .finite number =>
    let written := number.shortest.print.toList
    if '.' ∈ written then String.ofList written
    else
      String.ofList (written.takeWhile (· ≠ 'e') ++ ['.', '0'] ++ written.dropWhile (· ≠ 'e'))
  | .infinite negative => if negative then "-.inf" else ".inf"
  | .undefined => ".nan"

/-- The letters of a plain value. -/
def lettersOf (value : PlainValue) : List Char :=
  match value with
  | .null => "null".toList
  | .bool b => (if b then "true" else "false").toList
  | .int i => (toString i).toList
  | .fraction f => (ofFraction f).toList
  | .text t => t.toList
  | .bytes given => Bytes.write given
  | .date day => day.print.toList
  | .moment time => time.print.toList

/-- The short form of the tag of a plain value. -/
def shortTag (value : PlainValue) : String :=
  match value with
  | .null => "!!null"
  | .bool _ => "!!bool"
  | .int _ => "!!int"
  | .fraction _ => "!!float"
  | .text _ => "!!str"
  | .bytes _ => "!!binary"
  | .date _ | .moment _ => "!!timestamp"

/-- Whether the form of the letters of a plain value suggests what it is. -/
def isSuggested (value : PlainValue) : Bool :=
  match value with
  | .text t => SettingTag.ofForm t = .text
  | .bytes _ => false
  | _ => true

/-- The greatest size of a key on one line with its value, with the short form of its tag. -/
def lineKeyLimit : Nat := 127

/-- Whether a plain value can be a key on one line with its value. -/
def isLineKey (key : PlainValue) : Bool :=
  let cs := lettersOf key
  !cs.isEmpty && !TextStyle.isMultiline cs && (shortTag key).length + cs.length ≤ lineKeyLimit

/-- Write a plain value. A key on one line is not folded. Bytes have a tag. -/
def writePlain (page : Page) (indent : Nat) (lineKey : Bool) (value : PlainValue) : Page :=
  let cs := lettersOf value
  let tagged := match value with
    | .bytes _ => page.word (shortTag value).toList
    | _ => page
  tagged.text (TextStyle.choose (isSuggested value) lineKey cs) indent (!lineKey) cs

/-- Write a key up to the colon behind it. -/
def writeKey (page : Page) (indent : Nat) (key : PlainValue) : Page :=
  let line := page.indentTo indent
  if isLineKey key then (writePlain line (indent + 2) true key).close [':']
  else
    let behind := writePlain (line.mark '?') (indent + 2) false key
    (behind.indentTo indent).mark ':'

/-- Write the members of a set, each as a key without a value. -/
def writeMembers (page : Page) (indent : Nat) (items : List PlainValue) : Page :=
  items.foldl (fun page item =>
    writePlain (writeKey page indent item) (indent + 2) false .null) page

mutual

/-- Write a value. The indentation is that of the list or object around it, if there is one. -/
def writeValue (page : Page) (outer : Option Nat) (besideKey : Bool) : Value → Page
  | .plain value => writePlain page ((outer.map (· + 2)).getD 2) false value
  | .list [] => page.word ['[', ']']
  | .list (item :: items) =>
    let deeper := (outer.map (· + 2)).getD 0
    let indent := if besideKey && !page.atMargin then outer.getD 0 else deeper
    writeItems page indent (item :: items)
  | .pair first second =>
    let indent := (outer.map (· + 2)).getD 0
    let one := writeValue ((page.indentTo indent).mark '-') (some indent) false first
    writeValue ((one.indentTo indent).mark '-') (some indent) false second
  | .members items =>
    let tagged := page.word "!!set".toList
    if items.isEmpty then tagged.word ['\x7b', '\x7d']
    else writeMembers tagged ((outer.map (· + 2)).getD 0) items
  | .object [] => page.word ['\x7b', '\x7d']
  | .object (field :: fields) =>
    writeFields page ((outer.map (· + 2)).getD 0) (field :: fields)
  | .again _ => page.word (lettersOf .null)

/-- Write the items of a list. -/
def writeItems (page : Page) (indent : Nat) : List Value → Page
  | [] => page
  | item :: rest =>
    writeItems (writeValue ((page.indentTo indent).mark '-') (some indent) false item) indent rest

/-- Write the fields of an object. -/
def writeFields (page : Page) (indent : Nat) : List (PlainValue × Value) → Page
  | [] => page
  | (key, value) :: rest =>
    writeFields (writeValue (writeKey page indent key) (some indent) true value) indent rest

end

end SettingText

/-- The text of a document that holds a value. -/
def Value.document (value : Value) : String :=
  let page := (SettingText.writeValue {} none false value).indentTo 0
  match value with
  | .null => ""
  | .plain _ => ((page.add ['.', '.', '.']).breakLine '\n').print
  | _ => page.print

end BoxedDeduction
