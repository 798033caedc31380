import BoxedDeduction.KeyedList
import BoxedDeduction.Settings.Plain

/-!
# Values of settings

Settings are a nested value: plain values, lists, and objects with fields under
plain keys. Besides there are pairs, which stand only in lists, and sets. A value
can be asked whether it counts as true, what whole number it stands for, and how
it is written where a text is needed.
-/

namespace BoxedDeduction

/-- The kinds of values that can stand inside themselves. -/
inductive HolderKind where
  /-- Lists. -/
  | list
  /-- Objects. -/
  | object
  /-- Pairs. -/
  | pair
  deriving DecidableEq

/-- A value in the settings. -/
inductive Value where
  /-- A plain value. -/
  | plain (value : PlainValue)
  /-- A list. -/
  | list (items : List Value)
  /-- Two values in a list that keeps pairs. -/
  | pair (first second : Value)
  /-- A set of plain values. -/
  | members (items : List PlainValue)
  /-- Fields under keys. -/
  | object (fields : List (PlainValue × Value))
  /-- A value around this place once more. -/
  | again (kind : HolderKind)

namespace Value

/-- No value. -/
@[match_pattern] abbrev null : Value := .plain .null

/-- A truth value. -/
@[match_pattern] abbrev bool (value : Bool) : Value := .plain (.bool value)

/-- A whole number. -/
@[match_pattern] abbrev int (value : Int) : Value := .plain (.int value)

/-- A fraction. -/
@[match_pattern] abbrev fraction (value : Fraction) : Value := .plain (.fraction value)

/-- A text. -/
@[match_pattern] abbrev text (value : String) : Value := .plain (.text value)

/-- Fields under texts. -/
def ofFields (fields : List (String × Value)) : Value :=
  .object (fields.map fun (name, value) => (.text name, value))

/-- Whether a value is an object. -/
def isObject : Value → Bool
  | .object _ => true
  | _ => false

/-- Whether a value counts as true. Beside plain values that do not, the empty list, set and object
do not. -/
def isTruthy : Value → Bool
  | .plain value => value.isTruthy
  | .list items => !items.isEmpty
  | .members items => !items.isEmpty
  | .object fields => !fields.isEmpty
  | .pair _ _ | .again _ => true

/-- The whole number that a value stands for. -/
def toInt : Value → Except WidthError Int
  | .plain value => value.toInt
  | _ => .error .notConvertible

/-- A set in text. -/
def membersText : List PlainValue → String
  | [] => "set()"
  | items => "\x7b" ++ ", ".intercalate (items.map PlainValue.nestedText) ++ "\x7d"

/-- A value around a place once more in text. -/
def againText : HolderKind → String
  | .list => "[...]"
  | .object => "\x7b...\x7d"
  | .pair => "(...)"

mutual

/-- A value inside another one in text. -/
def nestedText : Value → String
  | .plain value => value.nestedText
  | .list items => "[" ++ ", ".intercalate (itemTexts items) ++ "]"
  | .pair first second => "(" ++ nestedText first ++ ", " ++ nestedText second ++ ")"
  | .members items => membersText items
  | .object fields => "\x7b" ++ ", ".intercalate (fieldTexts fields) ++ "\x7d"
  | .again kind => againText kind

/-- The items of a list in text. -/
def itemTexts : List Value → List String
  | [] => []
  | item :: rest => nestedText item :: itemTexts rest

/-- The fields of an object in text. -/
def fieldTexts : List (PlainValue × Value) → List String
  | [] => []
  | (key, value) :: rest => (key.nestedText ++ ": " ++ nestedText value) :: fieldTexts rest

end

/-- A value in text. -/
def toText : Value → String
  | .plain value => value.toText
  | value => nestedText value

mutual

/-- Whether a value can be written. -/
def isPrintable : Value → Bool
  | .plain value => value.isPrintable
  | .list items => allPrintable items
  | .pair first second => isPrintable first && isPrintable second
  | .members items => items.all PlainValue.isPrintable
  | .object fields => fieldsPrintable fields
  | .again _ => true

/-- Whether all items of a list can be written. -/
def allPrintable : List Value → Bool
  | [] => true
  | item :: rest => isPrintable item && allPrintable rest

/-- Whether all fields of an object can be written. -/
def fieldsPrintable : List (PlainValue × Value) → Bool
  | [] => true
  | (key, value) :: rest => key.isPrintable && isPrintable value && fieldsPrintable rest

end

/-- The value at a path of keys that are texts. -/
def find? : List String → Value → Option Value
  | [], value => some value
  | key :: path, .object fields => (KeyedList.find? (.text key) fields).bind (find? path)
  | _ :: _, _ => none

/-- The keys of a dotted name. -/
def keysOf (name : String) : List String := (name.toList.splitOn '.').map String.ofList

/-- The value under a dotted name, or a default where there is none. -/
def get (settings : Value) (name : String) (default : Value) : Value :=
  (settings.find? (keysOf name)).getD default

end Value

end BoxedDeduction
