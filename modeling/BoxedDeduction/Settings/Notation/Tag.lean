import BoxedDeduction.Calendar.Reading
import BoxedDeduction.Number.Decimal

/-!
# Tags

A tag says what a node of settings stands for. A plain text without a tag has
the tag that its form suggests: words stand for the missing value and for truth
values, and numbers may be written with underscores, whole numbers also in base
two, eight or sixteen, and both kinds of numbers in base sixty with colons
between the places. Any other text stands for itself.
-/

namespace BoxedDeduction

/-- What a node of settings stands for. -/
inductive SettingTag where
  /-- The missing value. -/
  | null
  /-- A truth value. -/
  | bool
  /-- A whole number. -/
  | int
  /-- A fraction. -/
  | fraction
  /-- Bytes. -/
  | bytes
  /-- A date or a moment. -/
  | moment
  /-- A text. -/
  | text
  /-- A list. -/
  | list
  /-- An object. -/
  | object
  /-- A set. -/
  | members
  /-- A list of pairs. -/
  | pairs
  /-- The key under which an object takes over the fields of others. -/
  | merge
  /-- A sign that stands for itself as a key and for nothing elsewhere. -/
  | value
  /-- Nothing that is known. -/
  | unknown
  deriving DecidableEq

namespace SettingTag

/-- What the tags of the notation begin with. -/
def base : String := "tag:yaml.org,2002:"

/-- The names of the tags behind their common beginning. -/
def names : List (String × SettingTag) :=
  [("null", .null), ("bool", .bool), ("int", .int), ("float", .fraction), ("binary", .bytes),
    ("timestamp", .moment), ("str", .text), ("seq", .list), ("map", .object), ("set", .members),
    ("omap", .pairs), ("pairs", .pairs), ("merge", .merge), ("value", .value)]

/-- The tag with a name. -/
def ofName (name : String) : SettingTag :=
  if base.toList.isPrefixOf name.toList then
    (names.lookup (String.ofList (name.toList.drop base.length))).getD .unknown
  else .unknown

/-! ## The forms of plain texts -/

/-- The words for the missing value, in lower case. -/
def nullWords : List String := ["null"]

/-- The words for the truth values, in lower case. -/
def boolWords : List (String × Bool) :=
  [("true", true), ("yes", true), ("on", true), ("false", false), ("no", false), ("off", false)]

/-- A text in lower case if it is written in one case or with a capital. -/
def word? (cs : List Char) : Option String :=
  let lower := cs.map Char.toLower
  if cs = cs.map Char.toUpper ∨ cs.drop 1 = lower.drop 1 then some (String.ofList lower) else none

/-- A text without the sign in front of it. -/
def withoutSign (cs : List Char) : List Char :=
  match cs with
  | '-' :: rest | '+' :: rest => rest
  | rest => rest

/-- Whether a text has only digits and underscores, of which the first is a digit. -/
def isNumeral (cs : List Char) : Bool :=
  cs.head?.any Char.isDigit && cs.all fun c => c.isDigit || c = '_'

/-- Whether a text has only underscores and some of the digits of base sixteen. -/
def isDigitsOf (digits : String) (cs : List Char) : Bool :=
  !cs.isEmpty && cs.all fun c => c = '_' || digits.toList.contains c

/-- Whether a text is a place of base sixty behind the first one. -/
def isSixtieth : List Char → Bool
  | [d] => d.isDigit
  | [t, d] => '0' ≤ t && t ≤ '5' && d.isDigit
  | _ => false

/-- Whether texts are the places of a number in base sixty, of which the first is any numeral. -/
def isSixtieths : List (List Char) → Bool
  | first :: second :: rest => isNumeral first && (second :: rest).all isSixtieth
  | _ => false

/-- Whether a text has the form of a whole number. -/
def isWhole (cs : List Char) : Bool :=
  match withoutSign cs with
  | ['0'] => true
  | '0' :: 'b' :: rest => isDigitsOf "01" rest
  | '0' :: 'x' :: rest => isDigitsOf "0123456789abcdefABCDEF" rest
  | '0' :: rest => isDigitsOf "01234567" rest
  | rest => isNumeral rest || isSixtieths (rest.splitOn ':')

/-- Whether a text is a power of ten with a sign, or nothing. -/
def isPower : List Char → Bool
  | [] => true
  | mark :: sign :: digits =>
    (mark = 'e' || mark = 'E') && (sign = '-' || sign = '+') && !digits.isEmpty &&
      digits.all Char.isDigit
  | [_] => false

/-- Whether a character may stand behind the first digit of a numeral. -/
def isPlace (c : Char) : Bool := c.isDigit || c = '_'

/-- Whether a text is a numeral, or something in base sixty, with a point and places behind it.
Only a numeral has a power of ten. -/
def isPointed (cs : List Char) : Bool :=
  match cs.dropWhile (· ≠ '.') with
  | _ :: rest =>
    let whole := cs.takeWhile (· ≠ '.')
    let power := rest.dropWhile isPlace
    (isNumeral whole && isPower power) || (isSixtieths (whole.splitOn ':') && power.isEmpty)
  | [] => false

/-- Whether a text is a point with a numeral and a power of ten behind it. -/
def isPointFirst : List Char → Bool
  | '.' :: rest => isNumeral (rest.takeWhile isPlace) && isPower (rest.dropWhile isPlace)
  | _ => false

/-- The words for what is out of range, behind a sign. -/
def infiniteWords : List String := [".inf", ".Inf", ".INF"]

/-- The words for what is not defined. -/
def undefinedWords : List String := [".nan", ".NaN", ".NAN"]

/-- Whether a text has the form of a fraction. -/
def isFraction (cs : List Char) : Bool :=
  let size := withoutSign cs
  isPointed size || isPointFirst cs || infiniteWords.contains (String.ofList size) ||
    undefinedWords.contains (String.ofList cs)

/-- Whether a text has the form of a moment, or of a date with all its digits. -/
def isMoment (cs : List Char) : Bool :=
  match DateOrMoment.read? cs with
  | some (.date _) => cs.length = 10
  | some (.moment _) => true
  | none => false

/-- The signs with a tag of their own. -/
def signs : List (String × SettingTag) :=
  [("<<", .merge), ("=", .value), ("!", .unknown), ("&", .unknown), ("*", .unknown)]

/-- The tag that the form of a line suggests. -/
def ofLine (cs : List Char) : SettingTag :=
  let text := String.ofList cs
  if cs = ['~'] ∨ (word? cs).any nullWords.contains then .null
  else if (word? cs).any fun word => (boolWords.lookup word).isSome then .bool
  else if isFraction cs then .fraction
  else if isWhole cs then .int
  else if isMoment cs then .moment
  else (signs.lookup text).getD .text

/-- The tag that the form of a text suggests. A line feed at its end does not count. -/
def ofForm (text : String) : SettingTag :=
  let cs := text.toList
  if cs = [] then .null
  else ofLine (if cs.getLast? = some '\n' then cs.dropLast else cs)

end SettingTag

end BoxedDeduction
