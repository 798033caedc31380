import BoxedDeduction.Proof.Scope
import BoxedDeduction.Rule.Conclusion

/-!
# Proofs under construction

A proof is a stack of scopes with one counter for the indices of all its
lines. The outermost scope is the global one; each open assumption adds a scope
inside. A line is visible while the scope that holds it is open.
-/

namespace BoxedDeduction

/-- A proof with its open scopes. -/
structure Proof where
  /-- The innermost scope, which receives new lines. -/
  current : Scope
  /-- The scopes around it, from the inside to the outside. -/
  enclosing : List Scope
  /-- The index of the next line. -/
  nextIndex : Int
  deriving DecidableEq

/-- Why an operation on a proof fails. -/
inductive ProofError where
  /-- A cited line is missing or a rule does not apply. -/
  | inference (cause : InferenceError)
  /-- There is no assumption to discharge. -/
  | noOpenAssumption
  /-- The state of the proof does not allow the operation. -/
  | fault (cause : StateFault)
  deriving DecidableEq

/-- The message for a failed operation. -/
def ProofError.message : ProofError → String
  | .inference cause => cause.message
  | .noOpenAssumption => "There is no open assumption to discharge"
  | .fault cause => cause.message

/-- The proof after an operation, with the result of the operation. A failed operation
may have changed the proof. -/
abbrev Attempt (α : Type) := Proof × Except ProofError α

namespace Proof

/-- The proof without lines. -/
def fresh : Proof := ⟨.empty, [], 1⟩

/-- The open scopes from the innermost to the global one. -/
def openScopes (proof : Proof) : List Scope := proof.current :: proof.enclosing

/-- The open scopes from the global one to the innermost. -/
def scopes (proof : Proof) : List Scope := proof.openScopes.reverse

/-- The global scope. -/
def globalScope (proof : Proof) : Scope := proof.enclosing.getLast?.getD proof.current

/-- The number of open scopes, the global one included. -/
def depth (proof : Proof) : Nat := proof.enclosing.length + 1

/-- Whether an assumption is open. -/
def hasOpenBox (proof : Proof) : Bool := !proof.enclosing.isEmpty

/-- The number of lines in the open scopes. -/
def lineCount (proof : Proof) : Nat :=
  proof.openScopes.foldl (fun count scope => count + scope.size) 0

/-- A proof in short: its depth, the number of lines in open scopes and the next index. -/
def summary (proof : Proof) : String :=
  "Proof(depth=" ++ toString proof.depth ++ ", steps=" ++ toString proof.lineCount ++
    ", next_index=" ++ toString proof.nextIndex ++ ")"

/-- The visible line under an index, searched from the innermost scope outwards. -/
def find? (proof : Proof) (index : Int) : Option Line :=
  proof.openScopes.findSome? fun scope => scope.get? index

/-- The propositions that rules may cite. -/
def lookup (proof : Proof) : Lookup := fun index => (proof.find? index).map Line.prop

/-- The visible line under an index, or the failure to find it. -/
def line (proof : Proof) (index : Int) : Except ProofError Line :=
  match proof.find? index with
  | some line => .ok line
  | none => .error (.inference (.notVisible index))

/-- Add a line to the innermost scope. The counter advances before the line is inserted. -/
def addLine (proof : Proof) (prop : Proposition) (reason : Justification) : Attempt Int :=
  let index := proof.nextIndex
  match proof.current.insert ⟨index, prop, reason⟩ with
  | .ok scope => (⟨scope, proof.enclosing, index + 1⟩, .ok index)
  | .error fault => (⟨proof.current, proof.enclosing, index + 1⟩, .error (.fault fault))

/-- Add a premise to the innermost scope. -/
def premise (proof : Proof) (prop : Proposition) : Attempt Int := proof.addLine prop .premise

/-- Open a scope with an assumption. -/
def assume (proof : Proof) (prop : Proposition) : Attempt Int :=
  addLine ⟨.empty, proof.openScopes, proof.nextIndex⟩ prop .assumption

/-- Repeat a visible line in the innermost scope. -/
def copy (proof : Proof) (source : Int) : Attempt Int :=
  match proof.line source with
  | .ok line => proof.addLine line.prop (.copy source)
  | .error cause => (proof, .error cause)

/-- Add what a rule concludes to the innermost scope. -/
def infer (proof : Proof) (rule : Rule) : Attempt Int :=
  match rule.conclusion proof.lookup with
  | .ok prop => proof.addLine prop (.inference rule)
  | .error cause => (proof, .error (.inference cause))

/-- Discharge the innermost assumption: its scope becomes the line of a closed box in the scope
around it, under the index of the assumption. -/
def close (proof : Proof) : Attempt Unit :=
  match proof.enclosing with
  | [] => (proof, .error .noOpenAssumption)
  | parent :: outer =>
    match proof.current.toSubProof? with
    | none => (proof, .error (.fault .noAssumption))
    | some steps =>
      match parent.insert ⟨steps.start, .box steps, .assumption⟩ with
      | .ok scope => (⟨scope, outer, proof.nextIndex⟩, .ok ())
      | .error fault => (⟨parent, outer, proof.nextIndex⟩, .error (.fault fault))

end Proof

end BoxedDeduction
