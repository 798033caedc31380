import BoxedDeduction.Command.Formula
import BoxedDeduction.Proof.Undo
import BoxedDeduction.Rule.Rulebook

/-!
# Commands

A command changes the proof, asks for a text about it, or ends the session. It
begins with a keyword. A command line that is not understood either leaves the
grammar at some column, or calls a rule in the wrong way, or holds an index
with more digits than are read.
-/

namespace BoxedDeduction

/-- What a line asks for. -/
inductive Command where
  /-- Change the proof. -/
  | change (operation : Operation)
  /-- Draw the proof. -/
  | display
  /-- Typeset the proof. -/
  | typeset
  /-- List the unused premises. -/
  | unused
  /-- Explain the commands, or one rule. -/
  | help (topic : Option String)
  /-- End the session. -/
  | quit
  deriving DecidableEq

/-- Whether a command changes the proof. -/
def Command.isChange : Command → Bool
  | .change _ => true
  | _ => false

/-- The word that begins a command. -/
inductive Keyword where
  | assume
  | close
  | copy
  | discharge
  | exit
  | help
  | latex
  | premise
  | quit
  | rule
  | display
  | undo
  | unused
  deriving DecidableEq

namespace Keyword

/-- All keywords in the order of their texts. -/
def all : List Keyword :=
  [.assume, .close, .copy, .discharge, .exit, .help, .latex, .premise, .quit, .rule, .display,
    .undo, .unused]

/-- No keyword is missing from the list. -/
theorem mem_all (keyword : Keyword) : keyword ∈ all := by cases keyword <;> decide

/-- The text of a keyword. -/
def text : Keyword → String
  | .assume => "assume"
  | .close => "close"
  | .copy => "copy"
  | .discharge => "discharge"
  | .exit => "exit"
  | .help => "help"
  | .latex => "latex"
  | .premise => "premise"
  | .quit => "quit"
  | .rule => "rule"
  | .display => "show"
  | .undo => "undo"
  | .unused => "unused"

/-- The letters of a keyword. -/
def letters (keyword : Keyword) : List Char := keyword.text.toList

/-- The keyword with which a text begins. It need not be followed by a blank. -/
def find? (cs : List Char) : Option Keyword :=
  all.find? fun keyword => keyword.letters.isPrefixOf cs

end Keyword

/-- Why a line is not a command. -/
inductive CommandError where
  /-- The line leaves the grammar. The text is kept without the blanks at its ends. -/
  | malformed (text : String) (fault : SyntaxFault)
  /-- The line calls a rule in the wrong way. -/
  | ruleCall (cause : RuleCallError)
  /-- The line holds an index with more digits than are read. -/
  | indexTooLong
  deriving DecidableEq

/-- The message for a text that leaves the grammar. -/
def SyntaxFault.message (text : String) (fault : SyntaxFault) : String :=
  "Could not parse '" ++ text ++ "' at column " ++ toString fault.column ++
    if fault.expected = [] then ""
    else " (expected one of: " ++ ", ".intercalate (fault.expected.map Expected.text) ++ ")"

/-- The message for a line that is not a command. -/
def CommandError.message : CommandError → String
  | .malformed text fault => fault.message text
  | .ruleCall cause => cause.message
  | .indexTooLong => "The index has too many digits"

end BoxedDeduction
