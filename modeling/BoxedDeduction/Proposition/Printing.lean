import BoxedDeduction.Proposition.Basic

/-!
# Printing propositions

A table of connectives says how each connective is written. Printing uses the
fewest parentheses that the precedence allows: negation binds tightest, then
conjunction, then disjunction, then implication. Conjunction and disjunction
group to the left, implication to the right. A closed box shows its assumption
and its last line.
-/

namespace BoxedDeduction

/-- How the connectives are written. -/
structure Connectives where
  /-- Falsity. -/
  bottom : String
  /-- Negation, written in front of its operand. -/
  neg : String
  /-- Conjunction, written between its operands with any blanks around it. -/
  and : String
  /-- Disjunction, written between its operands. -/
  or : String
  /-- Implication, written between its operands. -/
  imply : String
  /-- What is written in front of the name of a symbol. -/
  beforeName : String
  /-- What is written behind the name of a symbol. -/
  behindName : String
  deriving DecidableEq

namespace Connectives

/-- The usual signs of logic. -/
def signs : Connectives := ⟨"⊥", "¬", " ∧ ", " ∨ ", " → ", "", ""⟩

/-- Signs that every keyboard has. -/
def keyboard : Connectives := ⟨"bottom", "-", " & ", " | ", " -> ", "", ""⟩

/-- Commands of mathematical typesetting. -/
def typeset : Connectives :=
  ⟨"\\bot", "\\lnot ", " \\land ", " \\lor ", " \\to ", "\\text\x7b", "\x7d"⟩

end Connectives

/-- Put a text into parentheses where they are needed. -/
def parenthesized (needed : Bool) (text : String) : String :=
  if needed then "(" ++ text ++ ")" else text

namespace Proposition

/-- How tightly the outermost connective binds. Negations and everything without a
connective between two operands bind tightest. -/
def strength : Proposition → Nat
  | .imply _ .bottom => 4
  | .imply _ _ => 1
  | .or _ _ => 2
  | .and _ _ => 3
  | _ => 4

end Proposition

mutual

/-- The text of a proposition in a table of connectives. -/
def Proposition.print (table : Connectives) : Proposition → String
  | .bottom => table.bottom
  | .symbol name => table.beforeName ++ name ++ table.behindName
  | .box steps => "[" ++ steps.printAssumption table ++ " … " ++ steps.printDerived table ++ "]"
  | .imply lhs .bottom => table.neg ++ parenthesized (lhs.strength < 4) (lhs.print table)
  | .imply lhs rhs =>
    parenthesized (lhs.strength ≤ 1) (lhs.print table) ++ table.imply ++
      parenthesized (rhs.strength < 1) (rhs.print table)
  | .and lhs rhs =>
    parenthesized (lhs.strength < 3) (lhs.print table) ++ table.and ++
      parenthesized (rhs.strength ≤ 3) (rhs.print table)
  | .or lhs rhs =>
    parenthesized (lhs.strength < 2) (lhs.print table) ++ table.or ++
      parenthesized (rhs.strength ≤ 2) (rhs.print table)

/-- The text of the proposition that a sub-proof assumes. -/
def SubProof.printAssumption (table : Connectives) : SubProof → String
  | .last _ prop _ => prop.print table
  | .more _ prop _ _ => prop.print table

/-- The text of the proposition that a sub-proof reaches. -/
def SubProof.printDerived (table : Connectives) : SubProof → String
  | .last _ prop _ => prop.print table
  | .more _ _ _ rest => rest.printDerived table

end

end BoxedDeduction
