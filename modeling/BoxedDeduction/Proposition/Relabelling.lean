import BoxedDeduction.Proposition.Printing
import BoxedDeduction.Text.Template

/-!
# Printing with other names

The names of symbols may be printed through a template. The names are replaced
first, in the order in which they are printed, and the result is printed with a
table of connectives. Of a closed box only the two propositions are concerned
that are printed: its assumption and what it reaches.
-/

namespace BoxedDeduction

mutual

/-- A proposition in which every printed name is replaced. The first name that cannot be replaced
ends the work. -/
def Proposition.relabel {ε : Type} (label : String → Except ε String) :
    Proposition → Except ε Proposition
  | .bottom => .ok .bottom
  | .symbol name => do return .symbol (← label name)
  | .and lhs rhs => do return .and (← lhs.relabel label) (← rhs.relabel label)
  | .or lhs rhs => do return .or (← lhs.relabel label) (← rhs.relabel label)
  | .imply lhs rhs => do return .imply (← lhs.relabel label) (← rhs.relabel label)
  | .box steps => do return .box (← steps.relabelEnds label)

/-- A sub-proof in which the names of its assumption and of its last line are replaced. -/
def SubProof.relabelEnds {ε : Type} (label : String → Except ε String) :
    SubProof → Except ε SubProof
  | .last index prop reason => do return .last index (← prop.relabel label) reason
  | .more index prop reason rest => do
    return .more index (← prop.relabel label) reason (← rest.relabelLast label)

/-- A sub-proof in which the names of its last line are replaced. -/
def SubProof.relabelLast {ε : Type} (label : String → Except ε String) :
    SubProof → Except ε SubProof
  | .last index prop reason => do return .last index (← prop.relabel label) reason
  | .more index prop reason rest => do return .more index prop reason (← rest.relabelLast label)

end

/-- The text of a proposition in a table of connectives, with its names printed through a
template. -/
def Proposition.printThrough (room : Option Nat) (template : Template) (table : Connectives)
    (prop : Proposition) : Except TemplateError String := do
  return (← prop.relabel (template.fill room)).print table

end BoxedDeduction
