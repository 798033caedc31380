import BoxedDeduction.Rule.Kind
import BoxedDeduction.Text.Quoted

/-!
# Constructor expressions

A constructor expression spells out how a value is built. It tells apart
values that print alike, such as a symbol named like falsity and falsity
itself, and it shows every line of a closed box.
-/

namespace BoxedDeduction

/-- The constructor of a rule in expressions. -/
def RuleKind.constructorName : RuleKind → String
  | .andI => "AndI"
  | .andELhs => "AndELhs"
  | .andERhs => "AndERhs"
  | .orILhs => "OrILhs"
  | .orIRhs => "OrIRhs"
  | .orE => "OrE"
  | .negI => "NegI"
  | .negE => "NegE"
  | .implyI => "ImplyI"
  | .implyE => "ImplyE"
  | .bottomE => "BottomE"
  | .negNegE => "DoubleNegE"
  | .modusTollens => "ModusTollens"
  | .negNegI => "DoubleNegI"
  | .contradiction => "ProofByContradiction"
  | .excludedMiddle => "LawOfExcludedMiddle"

/-- Texts in parentheses behind a name, separated by commas. -/
def applied (name : String) (parts : List String) : String :=
  name ++ "(" ++ ", ".intercalate parts ++ ")"

mutual

/-- The expression that builds a proposition. -/
def Proposition.expression : Proposition → String
  | .bottom => applied "Bottom" []
  | .symbol name => applied "Symbol" [Quoted.quote name]
  | .and lhs rhs => applied "And" [lhs.expression, rhs.expression]
  | .or lhs rhs => applied "Or" [lhs.expression, rhs.expression]
  | .imply lhs rhs => applied "Imply" [lhs.expression, rhs.expression]
  | .box steps => applied "ProofBox" [applied "SubProof" ["[" ++ steps.expressions ++ "]"]]

/-- The expressions of the lines of a sub-proof. -/
def SubProof.expressions : SubProof → String
  | .last index prop reason =>
    "(" ++ toString index ++ ", " ++
      applied "Step" ["prop=" ++ prop.expression, "step_type=" ++ reason.expression] ++ ")"
  | .more index prop reason rest =>
    "(" ++ toString index ++ ", " ++
      applied "Step" ["prop=" ++ prop.expression, "step_type=" ++ reason.expression] ++ "), " ++
      rest.expressions

/-- The expression that builds a justification. -/
def Justification.expression : Justification → String
  | .premise => applied "Premise" []
  | .assumption => applied "Assumption" []
  | .copy source => applied "Copy" ["source=" ++ toString source]
  | .inference rule =>
    applied "RuleStep" ["rule=" ++ applied rule.kind.constructorName rule.fieldExpressions]

/-- The named arguments of a rule. -/
def Rule.fieldExpressions : Rule → List String
  | .andI lhs rhs => ["lhs=" ++ toString lhs, "rhs=" ++ toString rhs]
  | .andELhs conjunction => ["conjunction=" ++ toString conjunction]
  | .andERhs conjunction => ["conjunction=" ++ toString conjunction]
  | .orILhs disjunct other => ["disjunct=" ++ toString disjunct, "other=" ++ other.expression]
  | .orIRhs other disjunct => ["other=" ++ other.expression, "disjunct=" ++ toString disjunct]
  | .orE disjunction lhsCase rhsCase =>
    ["or_prop=" ++ toString disjunction, "lhs_box=" ++ toString lhsCase,
      "rhs_box=" ++ toString rhsCase]
  | .negI box => ["box=" ++ toString box]
  | .negE affirmed negated => ["prop=" ++ toString affirmed, "neg_prop=" ++ toString negated]
  | .implyI box => ["box=" ++ toString box]
  | .implyE implication antecedent =>
    ["implication=" ++ toString implication, "lhs_proof=" ++ toString antecedent]
  | .bottomE falsity goal => ["bottom=" ++ toString falsity, "prop=" ++ goal.expression]
  | .negNegE doubleNegation => ["double_negation=" ++ toString doubleNegation]
  | .modusTollens implication refuted =>
    ["implication=" ++ toString implication, "negated_rhs=" ++ toString refuted]
  | .negNegI affirmed => ["prop=" ++ toString affirmed]
  | .contradiction box => ["box=" ++ toString box]
  | .excludedMiddle prop => ["prop=" ++ prop.expression]

end

/-- The expression that builds a sub-proof from its lines. -/
def SubProof.expression (steps : SubProof) : String :=
  applied "SubProof" ["[" ++ steps.expressions ++ "]"]

end BoxedDeduction
