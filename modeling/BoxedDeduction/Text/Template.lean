import BoxedDeduction.Text.Content
import BoxedDeduction.Text.Layout

/-!
# Text with fields for a name

A template is a sequence of letters and fields. Filling it puts the name into
every field and leaves the letters as they are. In written form a field stands
in braces and a literal brace is written twice. A field may pick something of
its content, show it in quotes, and lay it out; the layout may hold fields of
its own. Fields are either all numbered or all left without a number,
and the name is the only content, so it has the number zero. How much room
there is for a field is a parameter.
-/

namespace BoxedDeduction

/-- A field of a template. -/
structure TemplateField where
  /-- What stands in the field: the content that it takes and what it picks of it. -/
  source : List Char
  /-- The letter for how the content is shown. -/
  display : Option Char
  /-- The written layout. -/
  layout : List Char
  deriving DecidableEq

/-- One position of a template. -/
inductive TemplatePiece where
  /-- A letter that is printed as it stands. -/
  | letter (c : Char)
  /-- A field. -/
  | field (f : TemplateField)
  /-- A place at which the written form breaks the rules. -/
  | broken
  deriving DecidableEq

/-- A text with fields. -/
abbrev Template := List TemplatePiece

/-- Why a template cannot be filled. -/
inductive TemplateError where
  /-- The written form breaks the rules. -/
  | malformed
  /-- A field asks for content beyond the name. -/
  | noContent
  /-- A field asks for content by a word. -/
  | unknownWord
  /-- A field asks for an attribute that its content does not have. -/
  | noAttribute
  /-- A field picks an item that cannot be picked. -/
  | pick (cause : PickError)
  /-- A field lays out what is no text. -/
  | noLayout
  /-- There is no room for a field. -/
  | noRoom
  deriving DecidableEq

/-- The message for a template that cannot be filled. -/
def TemplateError.message : TemplateError → String
  | .malformed => "The template breaks the rules of its written form"
  | .noContent => "A field asks for content beyond the name"
  | .unknownWord => "A field asks for content by a word"
  | .noAttribute => "A field asks for an attribute that its content does not have"
  | .pick .notNumbered => "Only characters and items of a row are picked, by their numbers"
  | .pick .outOfRange => "A field picks an item behind the end"
  | .noLayout => "Only texts can be laid out"
  | .noRoom => "There is no room for a field"

/-- How the fields of a template are numbered. -/
inductive FieldNumbering where
  /-- No field has been met. -/
  | undecided
  /-- Fields are counted in their order. -/
  | counted (next : Nat)
  /-- Fields carry their numbers. -/
  | given
  deriving DecidableEq

namespace Template

/-! ## The written form -/

/-- The source of a field and the text behind it. It ends at a brace, a colon or an exclamation
mark outside of square brackets. -/
def cutSource (bracketed : Bool) : List Char → List Char × List Char
  | [] => ([], [])
  | c :: rest =>
    let ends := c = '\x7b' ∨ c = '\x7d' ∨ c = ':' ∨ c = '!'
    if ends ∧ ¬bracketed then ([], c :: rest)
    else
      let (source, behind) := cutSource (if bracketed then c ≠ ']' else c = '[') rest
      (c :: source, behind)

/-- The layout of a field and the text behind its closing brace. Braces inside are counted. -/
def cutLayout? (unclosed : Nat) : List Char → Option (List Char × List Char)
  | [] => none
  | c :: rest =>
    if c = '\x7d' ∧ unclosed = 0 then some ([], rest)
    else
      let inside :=
        if c = '\x7b' then unclosed + 1 else if c = '\x7d' then unclosed - 1 else unclosed
      (cutLayout? inside rest).map fun (layout, behind) => (c :: layout, behind)

/-- Read a field behind its opening brace, with the text behind its closing one. -/
def readField? (cs : List Char) : Option (TemplateField × List Char) :=
  let (source, rest) := cutSource false cs
  match rest with
  | '\x7d' :: behind => some (⟨source, none, []⟩, behind)
  | ':' :: rest => (cutLayout? 0 rest).map fun (layout, behind) => (⟨source, none, layout⟩, behind)
  | '!' :: display :: '\x7d' :: behind => some (⟨source, some display, []⟩, behind)
  | '!' :: display :: ':' :: rest =>
    (cutLayout? 0 rest).map fun (layout, behind) => (⟨source, some display, layout⟩, behind)
  | _ => none

/-- The text behind a source is no longer than the text that holds it. -/
theorem length_cutSource (bracketed : Bool) (cs : List Char) :
    (cutSource bracketed cs).2.length ≤ cs.length := by
  induction cs generalizing bracketed with
  | nil => exact Nat.le_refl _
  | cons c rest ih =>
    simp only [cutSource]
    split
    · exact Nat.le_refl _
    · exact Nat.le_succ_of_le (ih _)

/-- The text behind a layout is no longer than the text that holds it. -/
theorem length_cutLayout? {unclosed : Nat} {cs layout behind : List Char}
    (h : cutLayout? unclosed cs = some (layout, behind)) : behind.length ≤ cs.length := by
  induction cs generalizing unclosed layout with
  | nil => cases h
  | cons c rest ih =>
    simp only [cutLayout?] at h
    split at h
    · cases h
      exact Nat.le_succ _
    · obtain ⟨⟨inner, tail⟩, hi, he⟩ := Option.map_eq_some_iff.mp h
      cases he
      exact Nat.le_succ_of_le (ih hi)

/-- The text behind a field is no longer than the text that holds it. -/
theorem length_readField? {cs behind : List Char} {field : TemplateField}
    (h : readField? cs = some (field, behind)) : behind.length ≤ cs.length := by
  have hs := length_cutSource false cs
  simp only [readField?] at h
  split at h
  · next heq =>
    cases h
    rw [heq,List.length_cons] at hs
    omega
  · next heq =>
    obtain ⟨⟨layout, tail⟩, hl, he⟩ := Option.map_eq_some_iff.mp h
    simp only [Prod.mk.injEq] at he
    obtain ⟨-, rfl⟩ := he
    have hc := length_cutLayout? hl
    rw [heq,List.length_cons] at hs
    omega
  · next heq =>
    cases h
    simp only [heq, List.length_cons] at hs
    omega
  · next heq =>
    obtain ⟨⟨layout, tail⟩, hl, he⟩ := Option.map_eq_some_iff.mp h
    simp only [Prod.mk.injEq] at he
    obtain ⟨-, rfl⟩ := he
    have hc := length_cutLayout? hl
    simp only [heq, List.length_cons] at hs
    omega
  · cases h

/-- Read the written form, from left to right up to the first place that breaks the rules. -/
def readLetters (cs : List Char) : Template :=
  match cs with
  | [] => []
  | '\x7b' :: '\x7b' :: rest => .letter '\x7b' :: readLetters rest
  | '\x7d' :: '\x7d' :: rest => .letter '\x7d' :: readLetters rest
  | '\x7b' :: rest =>
    match _h : readField? rest with
    | some (field, behind) => .field field :: readLetters behind
    | none => [.broken]
  | '\x7d' :: _ => [.broken]
  | c :: rest => .letter c :: readLetters rest
termination_by cs.length
decreasing_by
  all_goals simp only [List.length_cons]
  all_goals try omega
  have := length_readField? _h
  omega

/-- The template that a text describes. -/
def read (text : String) : Template := readLetters text.toList

/-! ## Filling -/

/-- The number that a text of digits denotes. Digits at its start that exceed the limit break the
rules, whatever follows. -/
def number? (cs : List Char) : Except TemplateError (Option Nat) :=
  let isDigit (c : Char) : Bool := (WholeNumber.digit? c).isSome
  let value := WholeNumber.ofDigits 10 ((cs.takeWhile isDigit).filterMap WholeNumber.digit?)
  if Layout.numberLimit < value then .error .malformed
  else .ok (if cs = [] ∨ !cs.all isDigit then none else some value)

/-- Count a field that takes the content with a number, or the next content. -/
def FieldNumbering.take (numbering : FieldNumbering) :
    Option Nat → Except TemplateError (Nat × FieldNumbering)
  | none =>
    match numbering with
    | .undecided => .ok (0, .counted 1)
    | .counted next => .ok (next, .counted (next + 1))
    | .given => .error .malformed
  | some number =>
    match numbering with
    | .counted _ => .error .malformed
    | .undecided | .given => .ok (number, .given)

/-- Whether a character belongs to a name, not to what follows it on a path. -/
def isNamePart (c : Char) : Bool := c ≠ '.' && c ≠ '['

/-- Follow a path into a content: attributes behind points and items in square brackets. -/
def pick (content : FieldContent) (path : List Char) : Except TemplateError FieldContent :=
  match path with
  | [] => .ok content
  | '.' :: rest =>
    if rest.takeWhile isNamePart = [] then .error .malformed
    else
      match content.attribute? (String.ofList (rest.takeWhile isNamePart)) with
      | some found => pick found (rest.dropWhile isNamePart)
      | none => .error .noAttribute
  | '[' :: rest =>
    match _h : rest.dropWhile (· ≠ ']') with
    | [] => .error .malformed
    | _ :: behind =>
      let inside := rest.takeWhile (· ≠ ']')
      if inside = [] then .error .malformed
      else
        match number? inside with
        | .error cause => .error cause
        | .ok number =>
          match content.item inside number with
          | .ok found => pick found behind
          | .error cause => .error (.pick cause)
  | _ => .error .malformed
termination_by path.length
decreasing_by
  · have hd := (List.dropWhile_suffix isNamePart (l := rest)).length_le
    rw [List.length_cons]
    omega
  · have hd := (List.dropWhile_suffix (fun x => decide (x ≠ ']')) (l := rest)).length_le
    rw [_h,List.length_cons] at hd
    rw [List.length_cons]
    omega

/-- The content of a field. -/
def content (name : List Char) (numbering : FieldNumbering) (source : List Char) :
    Except TemplateError (FieldContent × FieldNumbering) := do
  let first := source.takeWhile isNamePart
  let number ← number? first
  if number = none ∧ first ≠ [] then throw .unknownWord
  let (number, next) ← FieldNumbering.take numbering number
  if number ≠ 0 then throw .noContent
  return (← pick (.text name) (source.dropWhile isNamePart), next)

/-- Lay out a content. What is no text takes no layout. -/
def layOut (room : Option Nat) (shown : FieldContent) (written : List Char) :
    Except TemplateError (List Char) :=
  if written = [] then .ok shown.letters
  else
    match shown with
    | .text cs =>
      match Layout.read? written with
      | some layout =>
        if Layout.hasRoom room layout.width then .ok (layout.apply (String.ofList cs)).toList
        else .error .noRoom
      | none => .error .malformed
    | _ => .error .noLayout

/-- A way to fill the fields in a written layout. -/
abbrev LayoutFilling :=
  FieldNumbering → List Char → Except TemplateError (List Char × FieldNumbering)

/-- Fill the pieces of a template from left to right. -/
def fillPieces (room : Option Nat) (fillLayout : LayoutFilling) (name : List Char)
    (numbering : FieldNumbering) : Template → Except TemplateError (List Char × FieldNumbering)
  | [] => .ok ([], numbering)
  | .broken :: _ => .error .malformed
  | .letter c :: rest => do
    let (filled, last) ← fillPieces room fillLayout name numbering rest
    return (c :: filled, last)
  | .field field :: rest => do
    let (taken, next) ← content name numbering field.source
    let some shown := taken.display? field.display | throw .malformed
    let (written, next) ← fillLayout next field.layout
    let printed ← layOut room shown written
    let (filled, last) ← fillPieces room fillLayout name next rest
    return (printed ++ filled, last)

/-- Fill the fields in a layout, if there are any. -/
def fillLayoutBy (fillFields : LayoutFilling) : LayoutFilling := fun numbering written =>
  if '\x7b' ∈ written then fillFields numbering written else .ok (written, numbering)

/-- Fill a template with a name. A layout may hold fields, but the layouts of these may not. -/
def fill (room : Option Nat) (template : Template) (name : String) :
    Except TemplateError String := do
  let cs := name.toList
  let innermost := fillLayoutBy fun _ _ => .error .malformed
  let inner := fillLayoutBy fun numbering written =>
    fillPieces room innermost cs numbering (readLetters written)
  let (filled, _) ← fillPieces room inner cs .undecided template
  return String.ofList filled

end Template

end BoxedDeduction
