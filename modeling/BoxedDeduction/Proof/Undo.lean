import BoxedDeduction.Proof.Basic

/-!
# Undoing the latest line

Undoing takes back the latest index. Where the latest line has been folded into
a closed box at the end of the innermost scope, the box is opened first, and so
are the boxes at its end. An assumption is taken back together with the scope
that it opened.
-/

namespace BoxedDeduction

/-- The result of opening boxes until the latest line lies in the innermost scope. -/
structure Reopening where
  /-- The proof with the boxes open. -/
  proof : Proof
  /-- The indices of the opened boxes, from the outside to the inside. -/
  opened : List Int
  /-- The line that was looked for. -/
  outcome : Except ProofError Line

namespace Proof

/-- Open the boxes at the end of the proof until the innermost scope holds a line under an
index that does not stand for a closed box. Each box lies at the end of the one before, so
the search ends. -/
def reopenUntil (index : Int) (proof : Proof) : Reopening :=
  match proof.current.plain? index with
  | some line => ⟨proof, [], .ok line⟩
  | none =>
    match _hbox : proof.current.lastBox? with
    | none => ⟨proof, [], .error (.fault (.notInScope index))⟩
    | some (boxIndex, steps) =>
      let parent := proof.current.erase boxIndex
      match _hinner : Scope.ofSubProof steps with
      | .error fault => ⟨⟨parent, proof.enclosing, proof.nextIndex⟩, [], .error (.fault fault)⟩
      | .ok inner =>
        let rest := reopenUntil index ⟨inner, parent :: proof.enclosing, proof.nextIndex⟩
        ⟨rest.proof, boxIndex :: rest.opened, rest.outcome⟩
termination_by proof.current.closingDepth
decreasing_by
  rw [Scope.closingDepth_of_lastBox? _hbox _hinner]
  exact Nat.lt_succ_self _

/-- Take back the latest index. The result is that index, or nothing for a proof that has
none. -/
def undo (proof : Proof) : Attempt (Option Int) :=
  if proof.nextIndex = 1 then (proof, .ok none)
  else
    let latest := proof.nextIndex - 1
    let found := proof.reopenUntil latest
    match found.outcome with
    | .error cause => (found.proof, .error cause)
    | .ok line =>
      match line.reason, found.proof.enclosing with
      | .assumption, parent :: outer =>
        if found.proof.current.size = 1 then (⟨parent, outer, latest⟩, .ok (some latest))
        else (found.proof, .error (.fault (.notOpening latest)))
      | .assumption, [] => (found.proof, .error (.fault (.notOpening latest)))
      | _, enclosing =>
        (⟨found.proof.current.erase latest, enclosing, latest⟩, .ok (some latest))

/-- The boxes that undoing opens. -/
def reopenedByUndo (proof : Proof) : List Int :=
  if proof.nextIndex = 1 then [] else (proof.reopenUntil (proof.nextIndex - 1)).opened

end Proof

/-- An operation that changes a proof. -/
inductive Operation where
  /-- Add a premise. -/
  | premise (prop : Proposition)
  /-- Open a box with an assumption. -/
  | assume (prop : Proposition)
  /-- Repeat a line. -/
  | copy (source : Int)
  /-- Close the innermost box. -/
  | close
  /-- Apply a rule. -/
  | infer (rule : Rule)
  /-- Take back the latest line. -/
  | undo
  deriving DecidableEq

/-- Perform an operation. The result is the index that was given or taken back, if any. -/
def Proof.perform (proof : Proof) : Operation → Attempt (Option Int)
  | .premise prop => (proof.premise prop).map id (·.map some)
  | .assume prop => (proof.assume prop).map id (·.map some)
  | .copy source => (proof.copy source).map id (·.map some)
  | .close => (proof.close).map id (·.map fun _ => none)
  | .infer rule => (proof.infer rule).map id (·.map some)
  | .undo => proof.undo

end BoxedDeduction
