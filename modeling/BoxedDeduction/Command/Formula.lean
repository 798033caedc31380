import BoxedDeduction.Command.Token
import BoxedDeduction.Proposition.Basic

/-!
# Reading formulas

A formula is read token by token. What has been read but not finished is a
stack of pending constructions, each of which waits for its last operand. When
a connective or a closing parenthesis arrives, the constructions that bind at
least as tightly are finished. Conjunction and disjunction therefore group to
the left and implication to the right.
-/

namespace BoxedDeduction

/-- A construction that waits for its last operand. -/
inductive Pending where
  /-- An open parenthesis. -/
  | group
  /-- A negation. -/
  | negation
  /-- A conjunction with its left side. -/
  | conjunction (lhs : Proposition)
  /-- A disjunction with its left side. -/
  | disjunction (lhs : Proposition)
  /-- An implication with its left side. -/
  | implication (lhs : Proposition)
  deriving DecidableEq

namespace Pending

/-- How tightly a pending construction binds. -/
def strength : Pending → Nat
  | .group => 0
  | .implication _ => 1
  | .disjunction _ => 2
  | .conjunction _ => 3
  | .negation => 4

/-- The proposition that a construction becomes with its last operand. -/
def fill (operand : Proposition) : Pending → Proposition
  | .group => operand
  | .negation => operand.negated
  | .conjunction lhs => .and lhs operand
  | .disjunction lhs => .or lhs operand
  | .implication lhs => .imply lhs operand

/-- Finish the constructions that bind at least as tightly as a floor. -/
def finish (floor : Nat) (operand : Proposition) : List Pending → Proposition × List Pending
  | [] => (operand, [])
  | top :: stack =>
    if floor ≤ top.strength then finish floor (top.fill operand) stack else (operand, top :: stack)

end Pending

/-- How far a formula has been read. -/
structure FormulaState where
  /-- The pending constructions, the innermost first. -/
  stack : List Pending
  /-- The operand that has just been read. Without one an operand must follow. -/
  operand : Option Proposition
  deriving DecidableEq

namespace FormulaState

/-- Nothing has been read. -/
def start : FormulaState := ⟨[], none⟩

/-- Whether a parenthesis is open. -/
def inGroup (state : FormulaState) : Bool := state.stack.contains .group

/-- The proposition that a name stands for. -/
def atom (name : String) : Proposition := if name = "bottom" then .bottom else .symbol name

/-- Read a token where an operand must follow. -/
def stepOperand (stack : List Pending) : Token → Option FormulaState
  | .name text => some ⟨stack, some (atom text)⟩
  | .bottom => some ⟨stack, some .bottom⟩
  | .openParen => some ⟨.group :: stack, none⟩
  | .neg => some ⟨.negation :: stack, none⟩
  | _ => none

/-- Read a token after an operand. -/
def stepContinuation (stack : List Pending) (operand : Proposition) : Token → Option FormulaState
  | .and =>
    let (lhs, outer) := Pending.finish 3 operand stack
    some ⟨.conjunction lhs :: outer, none⟩
  | .or =>
    let (lhs, outer) := Pending.finish 2 operand stack
    some ⟨.disjunction lhs :: outer, none⟩
  | .imply =>
    let (lhs, outer) := Pending.finish 2 operand stack
    some ⟨.implication lhs :: outer, none⟩
  | .closeParen =>
    match Pending.finish 1 operand stack with
    | (inner, .group :: outer) => some ⟨outer, some inner⟩
    | _ => none
  | _ => none

/-- Read a token, if it can follow. -/
def step (state : FormulaState) (token : Token) : Option FormulaState :=
  match state.operand with
  | none => stepOperand state.stack token
  | some operand => stepContinuation state.stack operand token

/-- The formula that has been read, if it is complete. -/
def result? (state : FormulaState) : Option Proposition :=
  match state.operand with
  | none => none
  | some operand =>
    match Pending.finish 1 operand state.stack with
    | (prop, []) => some prop
    | _ => none

/-- What is expected where reading cannot go on: an operand where one must follow, else the end
of an open parenthesis, else what the surroundings of the formula ask for. -/
def expected (state : FormulaState) (outside : List Expected) : List Expected :=
  if state.operand = none then ScanMode.operand.expected
  else if state.inGroup then [.closeParen]
  else outside

end FormulaState

/-- Where a text leaves the grammar and what is expected there. -/
structure SyntaxFault where
  /-- The column of the token or character that cannot follow. At the end of the text it is the
  column of the last token. -/
  column : Nat
  /-- What may stand there, in the order of the texts. -/
  expected : List Expected
  deriving DecidableEq

/-- Read a formula to the end of the tokens. The column is that of the latest token. -/
def readFormula (outside : List Expected) (ending : ScanEnd) (column : Nat)
    (state : FormulaState) : List LocatedToken → Except SyntaxFault Proposition
  | [] =>
    match ending with
    | .stuck place mode => .error ⟨place, mode.expected⟩
    | .complete =>
      match state.result? with
      | some prop => .ok prop
      | none => .error ⟨column, state.expected outside⟩
  | next :: rest =>
    match state.step next.token with
    | some following => readFormula outside ending next.column following rest
    | none => .error ⟨next.column, state.expected outside⟩

/-- Read a text that starts at a column as one formula. -/
def readFormulaText (outside : List Expected) (lastColumn column : Nat) (cs : List Char) :
    Except SyntaxFault Proposition :=
  let scan := tokenize .operand column cs
  readFormula outside scan.ending lastColumn .start scan.tokens

end BoxedDeduction
