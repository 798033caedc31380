import BoxedDeduction.Proposition.Printing

/-!
# The sixteen rules and their arguments

Every rule has a kind, which fixes its name, its label, further names under
which it is known, and which of its arguments are indices of lines and which
are propositions. The indices among the arguments are the lines that the rule
cites.
-/

namespace BoxedDeduction

/-- The sort of one argument. -/
inductive ParameterKind where
  /-- The index of a line. -/
  | index
  /-- A proposition. -/
  | prop
  deriving DecidableEq

/-- The word for a sort of argument. -/
def ParameterKind.name : ParameterKind → String
  | .index => "index"
  | .prop => "prop"

/-- One argument of a rule. -/
inductive Argument where
  /-- The index of a line. -/
  | index (index : Int)
  /-- A proposition. -/
  | prop (prop : Proposition)
  deriving DecidableEq

namespace Argument

/-- The sort of an argument. -/
def kind : Argument → ParameterKind
  | .index _ => .index
  | .prop _ => .prop

/-- The text of an argument. -/
def print (table : Connectives) : Argument → String
  | .index i => toString i
  | .prop p => p.print table

/-- The index that an argument cites. -/
def cited? : Argument → Option Int
  | .index i => some i
  | .prop _ => none

end Argument

/-- A rule of inference without its arguments. -/
inductive RuleKind where
  | andI
  | andELhs
  | andERhs
  | orILhs
  | orIRhs
  | orE
  | negI
  | negE
  | implyI
  | implyE
  | bottomE
  | negNegE
  | modusTollens
  | negNegI
  | contradiction
  | excludedMiddle
  deriving DecidableEq

namespace RuleKind

/-- All rules in the order in which they are listed. -/
def all : List RuleKind :=
  [.andI, .andELhs, .andERhs, .orILhs, .orIRhs, .orE, .negI, .negE, .implyI, .implyE,
    .bottomE, .negNegE, .modusTollens, .negNegI, .contradiction, .excludedMiddle]

/-- No rule is missing from the list. -/
theorem mem_all (kind : RuleKind) : kind ∈ all := by cases kind <;> decide

/-- The name under which a rule is listed. -/
def name : RuleKind → String
  | .andI => "and_i"
  | .andELhs => "and_e_lhs"
  | .andERhs => "and_e_rhs"
  | .orILhs => "or_i_lhs"
  | .orIRhs => "or_i_rhs"
  | .orE => "or_e"
  | .negI => "neg_i"
  | .negE => "neg_e"
  | .implyI => "imply_i"
  | .implyE => "imply_e"
  | .bottomE => "bottom_e"
  | .negNegE => "neg_neg_e"
  | .modusTollens => "modus_tollens"
  | .negNegI => "neg_neg_i"
  | .contradiction => "proof_by_contradiction"
  | .excludedMiddle => "law_of_excluded_middle"

/-- The label that a proof shows beside a derived line. -/
def label : RuleKind → String
  | .andI => "∧i"
  | .andELhs => "∧e₁"
  | .andERhs => "∧e₂"
  | .orILhs => "∨i₁"
  | .orIRhs => "∨i₂"
  | .orE => "∨e"
  | .negI => "¬i"
  | .negE => "¬e"
  | .implyI => "→i"
  | .implyE => "→e"
  | .bottomE => "⊥e"
  | .negNegE => "¬¬e"
  | .modusTollens => "MT"
  | .negNegI => "¬¬i"
  | .contradiction => "PBC"
  | .excludedMiddle => "LEM"

/-- Further names of a rule. -/
def aliases : RuleKind → List String
  | .andI => ["∧i", "&i", "^i"]
  | .andELhs => ["∧e_lhs", "&e_lhs", "^e_lhs", "∧e1", "&e1"]
  | .andERhs => ["∧e_rhs", "&e_rhs", "^e_rhs", "∧e2", "&e2"]
  | .orILhs => ["∨i_lhs", "|i_lhs", "∨i1", "|i1"]
  | .orIRhs => ["∨i_rhs", "|i_rhs", "∨i2", "|i2"]
  | .orE => ["∨e", "|e"]
  | .negI => ["¬i", "-i", "~i"]
  | .negE => ["¬e", "-e", "~e"]
  | .implyI => ["->i", "→i", "⇒i"]
  | .implyE => ["->e", "→e", "⇒e", "mp"]
  | .bottomE => ["⊥e", "false_e"]
  | .negNegE => ["¬¬e", "--e", "~~e"]
  | .modusTollens => ["mt"]
  | .negNegI => ["¬¬i", "--i", "~~i"]
  | .contradiction => ["pbc"]
  | .excludedMiddle => ["lem"]

/-- The sorts of the arguments in their order. -/
def parameters : RuleKind → List ParameterKind
  | .andI | .negE | .implyE | .modusTollens => [.index, .index]
  | .orILhs | .bottomE => [.index, .prop]
  | .orIRhs => [.prop, .index]
  | .orE => [.index, .index, .index]
  | .excludedMiddle => [.prop]
  | .andELhs | .andERhs | .negI | .implyI | .negNegE | .negNegI | .contradiction => [.index]

/-- The rule with given arguments, if their number and sorts fit. -/
def build? : RuleKind → List Argument → Option Rule
  | .andI, [.index lhs, .index rhs] => some (.andI lhs rhs)
  | .andELhs, [.index conjunction] => some (.andELhs conjunction)
  | .andERhs, [.index conjunction] => some (.andERhs conjunction)
  | .orILhs, [.index disjunct, .prop other] => some (.orILhs disjunct other)
  | .orIRhs, [.prop other, .index disjunct] => some (.orIRhs other disjunct)
  | .orE, [.index disjunction, .index lhs, .index rhs] => some (.orE disjunction lhs rhs)
  | .negI, [.index box] => some (.negI box)
  | .negE, [.index affirmed, .index negated] => some (.negE affirmed negated)
  | .implyI, [.index box] => some (.implyI box)
  | .implyE, [.index implication, .index antecedent] => some (.implyE implication antecedent)
  | .bottomE, [.index falsity, .prop goal] => some (.bottomE falsity goal)
  | .negNegE, [.index doubleNegation] => some (.negNegE doubleNegation)
  | .modusTollens, [.index implication, .index refuted] => some (.modusTollens implication refuted)
  | .negNegI, [.index affirmed] => some (.negNegI affirmed)
  | .contradiction, [.index box] => some (.contradiction box)
  | .excludedMiddle, [.prop prop] => some (.excludedMiddle prop)
  | _, _ => none

end RuleKind

namespace Rule

/-- The kind of a rule. -/
def kind : Rule → RuleKind
  | .andI _ _ => .andI
  | .andELhs _ => .andELhs
  | .andERhs _ => .andERhs
  | .orILhs _ _ => .orILhs
  | .orIRhs _ _ => .orIRhs
  | .orE _ _ _ => .orE
  | .negI _ => .negI
  | .negE _ _ => .negE
  | .implyI _ => .implyI
  | .implyE _ _ => .implyE
  | .bottomE _ _ => .bottomE
  | .negNegE _ => .negNegE
  | .modusTollens _ _ => .modusTollens
  | .negNegI _ => .negNegI
  | .contradiction _ => .contradiction
  | .excludedMiddle _ => .excludedMiddle

/-- The arguments of a rule in their order. -/
def arguments : Rule → List Argument
  | .andI lhs rhs => [.index lhs, .index rhs]
  | .andELhs conjunction => [.index conjunction]
  | .andERhs conjunction => [.index conjunction]
  | .orILhs disjunct other => [.index disjunct, .prop other]
  | .orIRhs other disjunct => [.prop other, .index disjunct]
  | .orE disjunction lhs rhs => [.index disjunction, .index lhs, .index rhs]
  | .negI box => [.index box]
  | .negE affirmed negated => [.index affirmed, .index negated]
  | .implyI box => [.index box]
  | .implyE implication antecedent => [.index implication, .index antecedent]
  | .bottomE falsity goal => [.index falsity, .prop goal]
  | .negNegE doubleNegation => [.index doubleNegation]
  | .modusTollens implication refuted => [.index implication, .index refuted]
  | .negNegI affirmed => [.index affirmed]
  | .contradiction box => [.index box]
  | .excludedMiddle prop => [.prop prop]

/-- The indices of the lines that a rule cites. -/
def cited (rule : Rule) : List Int := rule.arguments.filterMap Argument.cited?

/-- The text of a rule: its label and its arguments. -/
def print (table : Connectives) (rule : Rule) : String :=
  rule.kind.label ++ " " ++ ", ".intercalate (rule.arguments.map (Argument.print table))

/-- A rule is built from its kind and its arguments. -/
@[simp] theorem build?_arguments (rule : Rule) : rule.kind.build? rule.arguments = some rule := by
  cases rule <;> rfl

/-- The arguments of a rule have the sorts that its kind asks for. -/
theorem arguments_kinds (rule : Rule) :
    rule.arguments.map Argument.kind = rule.kind.parameters := by
  cases rule <;> rfl

end Rule

namespace Justification

/-- The indices of the lines that a justification cites. -/
def cited : Justification → List Int
  | .premise | .assumption => []
  | .copy source => [source]
  | .inference rule => rule.cited

/-- The text of a justification. -/
def print (table : Connectives) : Justification → String
  | .premise => "premise"
  | .assumption => "assumption"
  | .copy source => "copy " ++ toString source
  | .inference rule => rule.print table

end Justification

end BoxedDeduction
