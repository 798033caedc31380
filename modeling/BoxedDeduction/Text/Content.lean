import BoxedDeduction.Text.Quoted

/-!
# What stands in a field

A field of a template begins with a text and may go on to one of its characters
or to its kind, and from a kind to its name, its collection and the kinds above
it. Each content has a written form and a form in which texts stand in quotes.
Other members of kinds are not known.
-/

namespace BoxedDeduction

/-- The kinds of what can stand in a field. -/
inductive ContentKind where
  /-- Texts. -/
  | text
  /-- The missing content. -/
  | missing
  /-- Rows of contents. -/
  | row
  /-- Kinds themselves. -/
  | kind
  /-- Kinds that say what their items are. -/
  | generic
  /-- Everything. -/
  | anything
  deriving DecidableEq

namespace ContentKind

/-- The name of a kind. -/
def name : ContentKind → String
  | .text => "str"
  | .missing => "NoneType"
  | .row => "tuple"
  | .kind => "type"
  | .generic => "GenericAlias"
  | .anything => "object"

/-- The collection that a kind belongs to. -/
def collection : ContentKind → String
  | .generic => "types"
  | _ => "builtins"

/-- The name of a kind, with its collection unless that is the usual one. -/
def fullName (k : ContentKind) : String :=
  if k = .generic then k.collection ++ "." ++ k.name else k.name

/-- The kind directly above a kind. -/
def above? : ContentKind → Option ContentKind
  | .anything => none
  | _ => some .anything

/-- Whether a kind can say what its items are. -/
def isGeneric (k : ContentKind) : Bool := k = .row || k = .kind

end ContentKind

/-- What stands in a field. -/
inductive FieldContent where
  /-- A text. -/
  | text (cs : List Char)
  /-- Nothing. -/
  | missing
  /-- A row of contents. -/
  | row (items : List FieldContent)
  /-- A kind. -/
  | kind (k : ContentKind)
  /-- A kind together with the written form of what its items are. -/
  | generic (k : ContentKind) (items : List Char)

/-- Why no item can be picked of a content. -/
inductive PickError where
  /-- The content has no items, or none under a word. -/
  | notNumbered
  /-- The number is too large. -/
  | outOfRange
  deriving DecidableEq

namespace FieldContent

/-- A content that is a text. -/
def ofText (text : String) : FieldContent := .text text.toList

/-- The kind of a content. -/
def kindOf : FieldContent → ContentKind
  | .text _ => .text
  | .missing => .missing
  | .row _ => .row
  | .kind _ => .kind
  | .generic _ _ => .generic

/-! ## Written forms -/

/-- The letters of a row. A single item is followed by a comma. -/
def rowLetters : List (List Char) → List Char
  | [item] => '(' :: item ++ [',', ')']
  | items => '(' :: [',', ' '].intercalate items ++ [')']

mutual

/-- The letters of a content, in quotes if it is a text. -/
def quoted : FieldContent → List Char
  | .text cs => Quoted.quoteLetters cs
  | .missing => "None".toList
  | .row items => rowLetters (quotedAll items)
  | .kind k => ("<class '" ++ k.fullName ++ "'>").toList
  | .generic k items => k.fullName.toList ++ '[' :: items ++ [']']

/-- The letters of some contents. -/
def quotedAll : List FieldContent → List (List Char)
  | [] => []
  | item :: rest => item.quoted :: quotedAll rest

end

/-- The letters of a content. -/
def letters : FieldContent → List Char
  | .text cs => cs
  | content => content.quoted

/-- How a content is shown: as it is, as a text, in quotes, or in quotes with ASCII letters only. -/
def display? (content : FieldContent) : Option Char → Option FieldContent
  | none => some content
  | some 's' => some (.text content.letters)
  | some 'r' => some (.text content.quoted)
  | some 'a' => some (.text (Quoted.asciiOnly content.quoted))
  | some _ => none

/-! ## Attributes and items -/

/-- What a kind has under a name. -/
def kindAttribute? (k : ContentKind) (name : String) : Option FieldContent :=
  match name with
  | "__name__" | "__qualname__" => some (ofText k.name)
  | "__module__" => some (ofText k.collection)
  | "__base__" => some ((k.above?.map .kind).getD .missing)
  | "__bases__" => some (.row (k.above?.toList.map .kind))
  | "__mro__" => some (.row ((k :: k.above?.toList).map .kind))
  | _ => none

/-- What a content has under a name. -/
def attribute? (content : FieldContent) (name : String) : Option FieldContent :=
  if name = "__class__" then some (.kind content.kindOf)
  else
    match content with
    | .kind k => kindAttribute? k name
    | .generic k _ => if name = "__origin__" then some (.kind k) else kindAttribute? k name
    | _ => none

/-- The item of a list with a number. -/
def pickFrom {α : Type} (items : List α) (number : Option Nat) : Except PickError α :=
  match number.map (items[·]?) with
  | some (some found) => .ok found
  | some none => .error .outOfRange
  | none => .error .notNumbered

/-- The item of a content with a number, or with a word where there is no number. -/
def item (content : FieldContent) (word : List Char) (number : Option Nat) :
    Except PickError FieldContent :=
  match content with
  | .text cs => (pickFrom cs number).map fun c => .text [c]
  | .row items => pickFrom items number
  | .kind k =>
    if k.isGeneric then
      .ok (.generic k ((number.map (Nat.toDigits 10)).getD (Quoted.quoteLetters word)))
    else .error .notNumbered
  | _ => .error .notNumbered

end FieldContent

end BoxedDeduction
