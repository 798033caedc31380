import BoxedDeduction.Rule.Kind

/-!
# What a rule concludes

A rule looks up the lines that it cites and checks that they have the forms it
needs. It either names the proposition that follows or the first thing that is
wrong. The lookup is the only part of a proof that a rule can see.
-/

namespace BoxedDeduction

/-- Why a rule does not apply. -/
inductive InferenceError where
  /-- A cited line does not exist or stands inside a closed box. -/
  | notVisible (index : Int)
  /-- A cited proposition has another shape. -/
  | wrongShape (expected : Shape) (got : Proposition)
  /-- Two propositions that must be equal differ. -/
  | mismatch (expected got : Proposition)
  deriving DecidableEq

/-- The message for a rule that does not apply. -/
def InferenceError.message : InferenceError → String
  | .notVisible index =>
    "Step " ++ toString index ++ " does not exist or is not visible from the current scope"
  | .wrongShape expected got =>
    "Expected a proposition of the form " ++ expected.name ++ " but got '" ++
      got.print .signs ++ "'"
  | .mismatch expected got =>
    "Expected '" ++ expected.print .signs ++ "' but got '" ++ got.print .signs ++ "'"

/-- The propositions that a rule may cite. -/
abbrev Lookup := Int → Option Proposition

/-- The proposition of a cited line. -/
def Lookup.cite (lookup : Lookup) (index : Int) : Except InferenceError Proposition :=
  match lookup index with
  | some prop => .ok prop
  | none => .error (.notVisible index)

namespace Proposition

/-- The two sides of a conjunction. -/
def asAnd : Proposition → Except InferenceError (Proposition × Proposition)
  | .and lhs rhs => .ok (lhs, rhs)
  | other => .error (.wrongShape .and other)

/-- The two sides of a disjunction. -/
def asOr : Proposition → Except InferenceError (Proposition × Proposition)
  | .or lhs rhs => .ok (lhs, rhs)
  | other => .error (.wrongShape .or other)

/-- The two sides of an implication. -/
def asImply : Proposition → Except InferenceError (Proposition × Proposition)
  | .imply lhs rhs => .ok (lhs, rhs)
  | other => .error (.wrongShape .imply other)

/-- The sub-proof of a closed box. -/
def asBox : Proposition → Except InferenceError SubProof
  | .box steps => .ok steps
  | other => .error (.wrongShape .box other)

/-- Require that a proposition is the expected one. -/
def demand (expected got : Proposition) : Except InferenceError Unit :=
  if expected = got then .ok () else .error (.mismatch expected got)

end Proposition

/-- The proposition that a rule derives from what it cites. -/
def Rule.conclusion (lookup : Lookup) : Rule → Except InferenceError Proposition
  | .andI lhs rhs => do
    let left ← lookup.cite lhs
    let right ← lookup.cite rhs
    return .and left right
  | .andELhs conjunction => do
    let (left, _) ← (← lookup.cite conjunction).asAnd
    return left
  | .andERhs conjunction => do
    let (_, right) ← (← lookup.cite conjunction).asAnd
    return right
  | .orILhs disjunct other => do
    let left ← lookup.cite disjunct
    return .or left other
  | .orIRhs other disjunct => do
    let right ← lookup.cite disjunct
    return .or other right
  | .orE disjunction lhsCase rhsCase => do
    let (left, right) ← (← lookup.cite disjunction).asOr
    let leftSteps ← (← lookup.cite lhsCase).asBox
    let rightSteps ← (← lookup.cite rhsCase).asBox
    Proposition.demand left leftSteps.assumption
    Proposition.demand right rightSteps.assumption
    Proposition.demand leftSteps.derived rightSteps.derived
    return leftSteps.derived
  | .negI box => do
    let steps ← (← lookup.cite box).asBox
    Proposition.demand .bottom steps.derived
    return steps.assumption.negated
  | .negE affirmed negated => do
    let prop ← lookup.cite affirmed
    let (left, right) ← (← lookup.cite negated).asImply
    Proposition.demand left prop
    Proposition.demand .bottom right
    return .bottom
  | .implyI box => do
    let steps ← (← lookup.cite box).asBox
    return .imply steps.assumption steps.derived
  | .implyE implication antecedent => do
    let (left, right) ← (← lookup.cite implication).asImply
    Proposition.demand left (← lookup.cite antecedent)
    return right
  | .bottomE falsity goal => do
    Proposition.demand .bottom (← lookup.cite falsity)
    return goal
  | .negNegE doubleNegation => do
    let (inner, outerRight) ← (← lookup.cite doubleNegation).asImply
    Proposition.demand .bottom outerRight
    let (prop, innerRight) ← inner.asImply
    Proposition.demand .bottom innerRight
    return prop
  | .modusTollens implication refuted => do
    let (left, right) ← (← lookup.cite implication).asImply
    Proposition.demand right.negated (← lookup.cite refuted)
    return left.negated
  | .negNegI affirmed => do
    let prop ← lookup.cite affirmed
    return prop.negated.negated
  | .contradiction box => do
    let steps ← (← lookup.cite box).asBox
    let (prop, right) ← steps.assumption.asImply
    Proposition.demand .bottom right
    Proposition.demand .bottom steps.derived
    return prop
  | .excludedMiddle prop => return .or prop prop.negated

end BoxedDeduction
