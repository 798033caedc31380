import BoxedDeduction.Settings.Value

/-!
# References to the environment

Texts in the settings may refer to variables of the environment, with a default
for variables that are not set. All references in a text are replaced in one
pass from left to right; what is put in is not searched again. The texts in
lists and in the fields of objects are searched; keys and values other than
texts stay as they are.
-/

namespace BoxedDeduction

/-- The variables of the environment. -/
abbrev Environment := KeyedList String String

/-- A reference to a variable. -/
structure EnvReference where
  /-- The name of the variable. -/
  name : String
  /-- The text for a variable that is not set. -/
  default : String
  deriving DecidableEq

namespace EnvReference

/-- The text that a reference stands for. -/
def value (environment : Environment) (reference : EnvReference) : String :=
  (environment.find? reference.name).getD reference.default

/-- Whether a letter begins the name of a variable. -/
def isStart (c : Char) : Bool := c.isAlpha || c == '_'

/-- Whether a letter continues the name of a variable. -/
def isLetter (c : Char) : Bool := c.isAlphanum || c == '_'

/-- Read what stands behind the opening of a reference, with the text behind its end. -/
def read? : List Char → Option (EnvReference × List Char)
  | [] => none
  | c :: rest =>
    if isStart c then
      let name := String.ofList (c :: rest.takeWhile isLetter)
      match rest.dropWhile isLetter with
      | '\x7d' :: after => some (⟨name, ""⟩, after)
      | ':' :: after =>
        match after.dropWhile (· ≠ '\x7d') with
        | _ :: behind => some (⟨name, String.ofList (after.takeWhile (· ≠ '\x7d'))⟩, behind)
        | [] => none
      | _ => none
    else none

/-- The text behind a reference is shorter than the text that holds it. -/
theorem length_of_read? {cs after : List Char} {reference : EnvReference}
    (h : read? cs = some (reference, after)) : after.length < cs.length := by
  cases cs with
  | nil => cases h
  | cons c rest =>
    have hd := (List.dropWhile_suffix isLetter (l := rest)).length_le
    rw [read?] at h
    split at h
    · dsimp only at h
      split at h
      · next tail ht =>
        cases h
        rw [ht,List.length_cons] at hd
        rw [List.length_cons]
        omega
      · next tail ht =>
        have hq := (List.dropWhile_suffix (fun x => decide (x ≠ '\x7d')) (l := tail)).length_le
        split at h
        · next hb =>
          cases h
          rw [hb,List.length_cons] at hq
          rw [ht,List.length_cons] at hd
          rw [List.length_cons]
          omega
        · cases h
      · cases h
    · cases h

end EnvReference

/-- Replace the references in a text. An opening that begins no reference stays as it is. -/
def expandLetters (environment : Environment) : List Char → List Char
  | [] => []
  | '$' :: '\x7b' :: inner =>
    match _hr : EnvReference.read? inner with
    | some (reference, after) =>
      (reference.value environment).toList ++ expandLetters environment after
    | none => '$' :: expandLetters environment ('\x7b' :: inner)
  | c :: rest => c :: expandLetters environment rest
termination_by cs => cs.length
decreasing_by
  · have h := EnvReference.length_of_read? _hr
    simp only [List.length_cons]
    omega
  all_goals simp only [List.length_cons]; omega

/-- Replace the references in a text. -/
def expandText (environment : Environment) (text : String) : String :=
  String.ofList (expandLetters environment text.toList)

namespace Value

mutual

/-- Replace the references in all texts of a value. -/
def expand (environment : Environment) : Value → Value
  | .text t => .text (expandText environment t)
  | .list items => .list (expandItems environment items)
  | .object fields => .object (expandFields environment fields)
  | value => value

/-- Replace the references in the items of a list. -/
def expandItems (environment : Environment) : List Value → List Value
  | [] => []
  | item :: rest => expand environment item :: expandItems environment rest

/-- Replace the references in the fields of an object, but not in their keys. -/
def expandFields (environment : Environment) :
    List (PlainValue × Value) → List (PlainValue × Value)
  | [] => []
  | (key, value) :: rest => (key, expand environment value) :: expandFields environment rest

end

/-- The settings that a file holds. A value that does not count as true means no settings. -/
def load (environment : Environment) (stored : Value) : Value :=
  if stored.isTruthy then stored.expand environment else .object []

end Value

end BoxedDeduction
