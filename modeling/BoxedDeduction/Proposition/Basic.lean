/-!
# Propositions and the closed boxes among them

A proposition is built from falsity and symbols by conjunction, disjunction
and implication. A closed proof box is a proposition too: it stands for the
sub-proof that leads from its assumption to its last line. Lines are justified,
justifications may apply rules and rules may carry propositions, so the four
types are defined together. Negation is implication into falsity.
-/

namespace BoxedDeduction

mutual

/-- A formula, or the box that a discharged assumption leaves behind. -/
inductive Proposition where
  /-- Falsity. -/
  | bottom
  /-- A propositional symbol. -/
  | symbol (name : String)
  /-- Conjunction. -/
  | and (lhs rhs : Proposition)
  /-- Disjunction. -/
  | or (lhs rhs : Proposition)
  /-- Implication. -/
  | imply (lhs rhs : Proposition)
  /-- A closed proof box. -/
  | box (steps : SubProof)

/-- The numbered lines of a closed box, of which there is at least one. -/
inductive SubProof where
  /-- The last line. -/
  | last (index : Int) (prop : Proposition) (reason : Justification)
  /-- A line that others follow. -/
  | more (index : Int) (prop : Proposition) (reason : Justification) (rest : SubProof)

/-- How a line came into the proof. -/
inductive Justification where
  /-- Given without proof. -/
  | premise
  /-- Assumed, which opens a box. The line of a closed box carries this reason too. -/
  | assumption
  /-- Repeated from an earlier line. -/
  | copy (source : Int)
  /-- Derived by a rule of inference. -/
  | inference (rule : Rule)

/-- A rule of inference with its arguments: indices of lines and propositions. -/
inductive Rule where
  /-- From two lines to their conjunction. -/
  | andI (lhs rhs : Int)
  /-- From a conjunction to its left side. -/
  | andELhs (conjunction : Int)
  /-- From a conjunction to its right side. -/
  | andERhs (conjunction : Int)
  /-- From a line to its disjunction with a proposition on the right. -/
  | orILhs (disjunct : Int) (other : Proposition)
  /-- From a line to its disjunction with a proposition on the left. -/
  | orIRhs (other : Proposition) (disjunct : Int)
  /-- Case analysis: both boxes reach the same proposition. -/
  | orE (disjunction lhsCase rhsCase : Int)
  /-- A box that reaches falsity refutes its assumption. -/
  | negI (box : Int)
  /-- A line and its negation give falsity. -/
  | negE (affirmed negated : Int)
  /-- A box gives the implication from its assumption to its last line. -/
  | implyI (box : Int)
  /-- From an implication and its left side to its right side. -/
  | implyE (implication antecedent : Int)
  /-- Falsity gives any proposition. -/
  | bottomE (falsity : Int) (goal : Proposition)
  /-- From a double negation to the proposition. -/
  | negNegE (doubleNegation : Int)
  /-- From an implication and the negation of its right side to the negation of its left. -/
  | modusTollens (implication refuted : Int)
  /-- From a line to its double negation. -/
  | negNegI (affirmed : Int)
  /-- A box from a negation to falsity gives the negated proposition. -/
  | contradiction (box : Int)
  /-- A proposition or its negation. -/
  | excludedMiddle (prop : Proposition)

end

deriving instance DecidableEq for Proposition, SubProof, Justification, Rule

/-- One line of a proof: its index, what it states and why. -/
structure Line where
  /-- The number under which rules cite the line. -/
  index : Int
  /-- The proposition that the line states. -/
  prop : Proposition
  /-- Its justification. -/
  reason : Justification
  deriving DecidableEq

/-- The top-level shape of a proposition. -/
inductive Shape where
  | bottom
  | symbol
  | and
  | or
  | imply
  | box
  deriving DecidableEq

/-- The word for a shape in messages. -/
def Shape.name : Shape → String
  | .bottom => "Bottom"
  | .symbol => "Symbol"
  | .and => "And"
  | .or => "Or"
  | .imply => "Imply"
  | .box => "ProofBox"

namespace SubProof

/-- The sub-proof of a line and those that follow it. -/
def ofLines : Line → List Line → SubProof
  | first, [] => .last first.index first.prop first.reason
  | first, next :: rest => .more first.index first.prop first.reason (ofLines next rest)

/-- A list of lines is a sub-proof unless it is empty. -/
def ofList? : List Line → Option SubProof
  | [] => none
  | first :: rest => some (ofLines first rest)

/-- The message for a sub-proof without lines. -/
def emptyMessage : String := "A sub-proof needs at least its assumption"

/-- The first line, which is the assumption. -/
def firstLine : SubProof → Line
  | .last index prop reason => ⟨index, prop, reason⟩
  | .more index prop reason _ => ⟨index, prop, reason⟩

/-- The lines after the first. -/
def laterLines : SubProof → List Line
  | .last _ _ _ => []
  | .more _ _ _ rest => rest.firstLine :: rest.laterLines

/-- All lines in their order. -/
def toList (steps : SubProof) : List Line := steps.firstLine :: steps.laterLines

/-- The last line, which is what the sub-proof reaches. -/
def lastLine : SubProof → Line
  | .last index prop reason => ⟨index, prop, reason⟩
  | .more _ _ _ rest => rest.lastLine

/-- The index of the assumption, under which the closed box is cited. -/
def start (steps : SubProof) : Int := steps.firstLine.index

/-- What the sub-proof assumes. -/
def assumption (steps : SubProof) : Proposition := steps.firstLine.prop

/-- What the sub-proof reaches. -/
def derived (steps : SubProof) : Proposition := steps.lastLine.prop

/-- The first of the lines that make a sub-proof stays the first. -/
@[simp] theorem firstLine_ofLines (first : Line) (rest : List Line) :
    (ofLines first rest).firstLine = first := by
  cases rest <;> rfl

/-- The lines that follow the first stay in their order. -/
@[simp] theorem laterLines_ofLines (first : Line) (rest : List Line) :
    (ofLines first rest).laterLines = rest := by
  induction rest generalizing first with
  | nil => rfl
  | cons next rest ih => rw [ofLines,laterLines,firstLine_ofLines,ih]

/-- The lines of a sub-proof made from lines are those lines. -/
@[simp] theorem toList_ofLines (first : Line) (rest : List Line) :
    (ofLines first rest).toList = first :: rest := by
  rw [toList,firstLine_ofLines,laterLines_ofLines]

/-- A sub-proof is made from its own lines. -/
@[simp] theorem ofLines_firstLine : ∀ steps : SubProof,
    ofLines steps.firstLine steps.laterLines = steps
  | .last _ _ _ => rfl
  | .more _ _ _ rest => by rw [laterLines,ofLines,ofLines_firstLine rest,firstLine]

/-- Reading back the lines of a sub-proof gives the sub-proof. -/
@[simp] theorem ofList?_toList (steps : SubProof) : ofList? steps.toList = some steps := by
  simp only [toList, ofList?, ofLines_firstLine]

end SubProof

namespace Proposition

/-- The negation of a proposition: it implies falsity. -/
def negated (prop : Proposition) : Proposition := .imply prop .bottom

/-- The top-level shape. -/
def shape : Proposition → Shape
  | .bottom => .bottom
  | .symbol _ => .symbol
  | .and _ _ => .and
  | .or _ _ => .or
  | .imply _ _ => .imply
  | .box _ => .box

/-- Whether a proposition is a negation. -/
def isNegation : Proposition → Bool
  | .imply _ .bottom => true
  | _ => false

end Proposition

namespace Line

/-- The box that a line stands for, if it is the line of a closed box. A box that
was itself assumed looks the same. -/
def closedBox? : Line → Option SubProof
  | ⟨_, .box steps, .assumption⟩ => some steps
  | _ => none

/-- Whether a line stands for a closed box. -/
def isClosedBox (line : Line) : Bool := line.closedBox?.isSome

end Line

end BoxedDeduction
