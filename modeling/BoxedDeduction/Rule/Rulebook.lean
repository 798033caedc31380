import BoxedDeduction.KeyedList
import BoxedDeduction.Rule.Kind
import BoxedDeduction.Text.LetterCase

/-!
# The rulebook

A rulebook finds rules by name and by alias, both in small letters. An entry
gives a rule a name of its own; several entries may have the same kind of rule.
An entry under a known name replaces the old one and keeps its place in the
list. An alias is resolved before a name.
-/

namespace BoxedDeduction

/-- A kind of rule under a name, with aliases. -/
structure RuleEntry where
  /-- The rule that the entry names. -/
  kind : RuleKind
  /-- Its name in messages and in the list of rules. -/
  name : String
  /-- Further names. -/
  aliases : List String
  deriving DecidableEq

/-- Why no rule could be made from a name and arguments. -/
inductive RuleCallError where
  /-- Neither a name nor an alias. -/
  | unknown (name : String)
  /-- The number of arguments does not fit. -/
  | wrongCount (entry : RuleEntry) (got : Nat)
  /-- An argument, counted from one, is of the wrong sort. -/
  | wrongKind (entry : RuleEntry) (position : Nat) (expected : ParameterKind)
  deriving DecidableEq

namespace RuleEntry

/-- The built-in entry of a rule. -/
def ofKind (kind : RuleKind) : RuleEntry := ⟨kind, kind.name, kind.aliases⟩

/-- How a rule is called: its name and the sorts of its arguments. -/
def usage (entry : RuleEntry) : String :=
  " ".intercalate (entry.name :: entry.kind.parameters.map fun kind => "<" ++ kind.name ++ ">")

/-- The first argument of the wrong sort, with its position and the sort it should have. -/
def misfit? : Nat → List ParameterKind → List Argument → Option (Nat × ParameterKind)
  | position, kind :: kinds, argument :: arguments =>
    if argument.kind = kind then misfit? (position + 1) kinds arguments
    else some (position, kind)
  | _, _, _ => none

/-- Make a rule from arguments. A wrong number of arguments is reported before a wrong sort. -/
def instantiate (entry : RuleEntry) (arguments : List Argument) : Except RuleCallError Rule :=
  match entry.kind.build? arguments with
  | some rule => .ok rule
  | none =>
    if arguments.length = entry.kind.parameters.length then
      match misfit? 1 entry.kind.parameters arguments with
      | some (position, expected) => .error (.wrongKind entry position expected)
      | none => .error (.wrongCount entry arguments.length)
    else .error (.wrongCount entry arguments.length)

end RuleEntry

/-- The message for a rule that could not be made. -/
def RuleCallError.message : RuleCallError → String
  | .unknown name => "Unknown rule '" ++ name ++ "' (type 'help' for the list of rules)"
  | .wrongCount entry got =>
    entry.name ++ ": expected " ++ toString entry.kind.parameters.length ++ " argument(s) (" ++
      entry.usage ++ "), got " ++ toString got
  | .wrongKind entry position .index =>
    entry.name ++ ": argument " ++ toString position ++ " must be a step index"
  | .wrongKind entry position .prop =>
    entry.name ++ ": argument " ++ toString position ++ " must be a proposition"

/-- Rules by name and names by alias. -/
structure Rulebook where
  /-- The entries under their names in small letters. -/
  rules : KeyedList String RuleEntry
  /-- The names in small letters under the aliases in small letters. -/
  aliases : KeyedList String String

namespace Rulebook

/-- The rulebook without rules. -/
def empty : Rulebook := ⟨[], []⟩

/-- Enter a rule under its name and its aliases. -/
def register (book : Rulebook) (entry : RuleEntry) : Rulebook :=
  let name := LetterCase.lower entry.name
  ⟨book.rules.insert name entry,
    entry.aliases.foldl (fun aliases also => aliases.insert (LetterCase.lower also) name)
      book.aliases⟩

/-- The sixteen rules under their own names. -/
def standard : Rulebook := (RuleKind.all.map .ofKind).foldl register empty

/-- The entry that a name or an alias denotes. -/
def resolve (book : Rulebook) (name : String) : Except RuleCallError RuleEntry :=
  let key := LetterCase.lower name
  match book.rules.find? ((book.aliases.find? key).getD key) with
  | some entry => .ok entry
  | none => .error (.unknown name)

/-- Make a rule from a name or an alias and arguments. -/
def create (book : Rulebook) (name : String) (arguments : List Argument) :
    Except RuleCallError Rule := do
  (← book.resolve name).instantiate arguments

/-- The names of the rules in the order of their first entry. -/
def names (book : Rulebook) : List String := book.rules.map Prod.fst

end Rulebook

end BoxedDeduction
