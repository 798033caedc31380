import BoxedDeduction.Rule.Rulebook
import BoxedDeduction.Rule.Schema
import BoxedDeduction.Text.Padding

/-!
# Help texts

Without a topic the help lists the commands and all rules with their schemas.
With the name or an alias of a rule it shows how the rule is called, its label,
its schema and its aliases.
-/

namespace BoxedDeduction.Help

/-- The description of the commands. -/
def commands : String := "Commands:
  premise <prop>        add a premise
  assume <prop>         open a proof box with an assumption
  copy <index>          copy a visible step into the current box
  discharge             close the current proof box (alias: close)
  rule <name> <args>    apply an inference rule
  undo                  remove the latest step (undoing an assumption removes its whole box)
  show                  print the proof
  latex                 typeset the finished proof with the logicproof package
  unused                list premises the last step does not depend on
  help [<rule>]         show this help, or the details of one rule
  quit                  leave (alias: exit)

Propositions: p, q, bottom (⊥), -p (¬p), p & q, p | q, p -> q

Rules:"

/-- The details of one rule. -/
def ofRule (entry : RuleEntry) : String :=
  let aliases := ", ".intercalate entry.aliases
  "rule " ++ entry.usage ++ "\n  " ++ entry.kind.label ++ ": " ++ entry.kind.schema.print ++
    "\n  aliases: " ++ if aliases = "" then "none" else aliases

/-- The width of the column of calls in the list of rules. -/
def usageWidth : Nat := 45

/-- One row of the list of rules. -/
def ruleRow (entry : RuleEntry) : String :=
  "  " ++ Padding.left usageWidth entry.usage ++ " " ++ entry.kind.schema.print

/-- The description of the commands and all rules. -/
def overview (book : Rulebook) : String :=
  "\n".intercalate (commands :: book.rules.map fun (_, entry) => ruleRow entry)

end BoxedDeduction.Help
