import BoxedDeduction.Proposition.Basic

/-!
# Truth of propositions

A valuation says which symbols are true. Propositions are read classically: falsity
is false, the connectives are read as usual, and a closed box is the implication from
its assumption to its last line. A list of hypotheses entails what is true under
every valuation that makes all of them true. Formulas are the propositions without boxes.
-/

namespace BoxedDeduction

/-- Which symbols are true. -/
abbrev Valuation := String → Bool

mutual

/-- Whether a proposition is true under a valuation. -/
def Proposition.holds (valuation : Valuation) : Proposition → Bool
  | .bottom => false
  | .symbol name => valuation name
  | .and lhs rhs => lhs.holds valuation && rhs.holds valuation
  | .or lhs rhs => lhs.holds valuation || rhs.holds valuation
  | .imply lhs rhs => !lhs.holds valuation || rhs.holds valuation
  | .box steps => !steps.assumptionHolds valuation || steps.derivedHolds valuation

/-- Whether the assumption of a sub-proof is true. -/
def SubProof.assumptionHolds (valuation : Valuation) : SubProof → Bool
  | .last _ prop _ => prop.holds valuation
  | .more _ prop _ _ => prop.holds valuation

/-- Whether the last line of a sub-proof is true. -/
def SubProof.derivedHolds (valuation : Valuation) : SubProof → Bool
  | .last _ prop _ => prop.holds valuation
  | .more _ _ _ rest => rest.derivedHolds valuation

end

/-- The assumption of a sub-proof is true when the proposition that it assumes is. -/
theorem SubProof.assumptionHolds_eq (valuation : Valuation) (steps : SubProof) :
    steps.assumptionHolds valuation = steps.assumption.holds valuation := by
  cases steps <;> simp only [assumptionHolds, assumption, firstLine]

/-- The last line of a sub-proof is true when the proposition that it reaches is. -/
theorem SubProof.derivedHolds_eq (valuation : Valuation) : ∀ steps : SubProof,
    steps.derivedHolds valuation = steps.derived.holds valuation
  | .last _ _ _ => by simp only [derivedHolds, derived, lastLine]
  | .more _ _ _ rest => by
    rw [derivedHolds,derivedHolds_eq valuation rest,derived,derived,lastLine]

namespace Proposition

variable {valuation : Valuation} {lhs rhs : Proposition}

/-- Falsity is not true. -/
@[simp] theorem holds_bottom : bottom.holds valuation = false := by rw [holds]

/-- A symbol is true as the valuation says. -/
@[simp] theorem holds_symbol {name : String} : (symbol name).holds valuation = valuation name := by
  rw [holds]

/-- A conjunction is true when both sides are. -/
@[simp] theorem holds_and : (and lhs rhs).holds valuation = true ↔
    lhs.holds valuation = true ∧ rhs.holds valuation = true := by
  rw [holds,Bool.and_eq_true]

/-- A disjunction is true when one side is. -/
@[simp] theorem holds_or : (or lhs rhs).holds valuation = true ↔
    lhs.holds valuation = true ∨ rhs.holds valuation = true := by
  rw [holds,Bool.or_eq_true]

/-- An implication is true when the right side is, provided the left side is. -/
@[simp] theorem holds_imply : (imply lhs rhs).holds valuation = true ↔
    (lhs.holds valuation = true → rhs.holds valuation = true) := by
  rw [holds]
  cases lhs.holds valuation <;> simp

/-- A negation is true when the negated proposition is not. -/
@[simp] theorem holds_negated : lhs.negated.holds valuation = true ↔
    ¬lhs.holds valuation = true := by
  simp only [negated, holds_imply, holds_bottom, Bool.false_eq_true, imp_false]

/-- A closed box is true when its last line is, provided its assumption is. -/
@[simp] theorem holds_box {steps : SubProof} : (box steps).holds valuation = true ↔
    (steps.assumption.holds valuation = true → steps.derived.holds valuation = true) := by
  rw [holds,steps.assumptionHolds_eq,steps.derivedHolds_eq]
  cases steps.assumption.holds valuation <;> simp

end Proposition

/-- Hypotheses entail what is true under every valuation that makes all of them true. -/
def Entails (hypotheses : List Proposition) (goal : Proposition) : Prop :=
  ∀ valuation : Valuation, (∀ hypothesis ∈ hypotheses, hypothesis.holds valuation = true) →
    goal.holds valuation = true

namespace Proposition

/-- Whether a proposition has no box in it. -/
def isFormula : Proposition → Bool
  | .bottom | .symbol _ => true
  | .and lhs rhs | .or lhs rhs | .imply lhs rhs => lhs.isFormula && rhs.isFormula
  | .box _ => false

/-- The names of the symbols of a formula. -/
def names : Proposition → List String
  | .bottom | .box _ => []
  | .symbol name => [name]
  | .and lhs rhs | .or lhs rhs | .imply lhs rhs => lhs.names ++ rhs.names

end Proposition

end BoxedDeduction
