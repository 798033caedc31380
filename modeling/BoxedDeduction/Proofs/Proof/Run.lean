import BoxedDeduction.Proofs.Proof.Undoing

/-!
# Runs of operations

A run performs operations one after the other, failed ones included. Whatever a run from the
proof without lines performs, as long as it assumes formulas only, the proof that it reaches
could have grown without undoing. So the proof is well formed, and no operation can meet an
internal fault.
-/

namespace BoxedDeduction

namespace Proof

/-- The proof after operations, whether they succeed or fail. -/
def run (proof : Proof) (operations : List Operation) : Proof :=
  operations.foldl (fun current operation => (current.perform operation).1) proof

/-- The proofs after each operation, with the results. -/
def trace (proof : Proof) : List Operation → List (Attempt (Option Int))
  | [] => []
  | operation :: rest =>
    let attempt := proof.perform operation
    attempt :: attempt.1.trace rest

/-- The proof after operations that all succeed, or the first failure. -/
def execute (proof : Proof) : List Operation → Except ProofError Proof
  | [] => .ok proof
  | operation :: rest =>
    match proof.perform operation with
    | (after, .ok _) => after.execute rest
    | (_, .error cause) => .error cause

variable {history : List Proof} {proof : Proof} {operation : Operation}

/-- Performing an operation leads from a proof that grew to a proof that grew. -/
theorem Grown.exists_perform (h : Grown history proof) (hb : operation.assumesBox = false) :
    ∃ after, Grown after (proof.perform operation).1 := by
  by_cases hu : operation = .undo
  · rw [hu,perform,h.undo]
    cases history with
    | nil => exact ⟨[], h⟩
    | cons earlier rest => exact ⟨rest, h.earlier⟩
  · cases h.wellFormed.performs hb hu with
    | allocation after _ hg hp =>
      rw [hp]
      exact ⟨proof :: history, hg history h⟩
    | closing after _ hg hp =>
      rw [hp]
      exact ⟨history, hg history h⟩
    | refusal cause _ hp =>
      rw [hp]
      exact ⟨history, h⟩

/-- A run leads from a proof that grew to a proof that grew. -/
theorem Grown.exists_run (h : Grown history proof) {operations : List Operation}
    (hb : ∀ operation ∈ operations, operation.assumesBox = false) :
    ∃ after, Grown after (proof.run operations) := by
  induction operations generalizing history proof with
  | nil => exact ⟨history, h⟩
  | cons first rest ih =>
    obtain ⟨after, ha⟩ := h.exists_perform (hb first List.mem_cons_self)
    exact ih ha fun operation ho => hb operation (List.mem_cons_of_mem _ ho)

/-- No operation on a proof that grew meets an internal fault. -/
theorem Grown.perform_ne_fault (h : Grown history proof) (hb : operation.assumesBox = false)
    (fault : StateFault) : (proof.perform operation).2 ≠ .error (.fault fault) := by
  by_cases hu : operation = .undo
  · rw [hu,perform,h.undo]
    intro he
    cases he
  · cases h.wellFormed.performs hb hu with
    | allocation after _ _ hp =>
      rw [hp]
      intro he
      cases he
    | closing after _ _ hp =>
      rw [hp]
      intro he
      cases he
    | refusal cause hc hp =>
      rw [hp]
      intro he
      exact hc fault (Except.error.inj he)

/-- Every run keeps proofs well formed, and no operation that may follow meets an internal
fault. -/
theorem wellFormed_run {operations : List Operation}
    (hb : ∀ operation ∈ operations, operation.assumesBox = false) :
    (fresh.run operations).WellFormed ∧
      ∀ operation : Operation, operation.assumesBox = false → ∀ fault : StateFault,
        ((fresh.run operations).perform operation).2 ≠ .error (.fault fault) := by
  obtain ⟨history, h⟩ := Grown.fresh.exists_run hb
  exact ⟨h.wellFormed, fun operation ho fault => h.perform_ne_fault ho fault⟩

/-- A run that closes two boxes, opens them again by undoing and is refused once is well
formed. -/
theorem wellFormed_run_of_nested_boxes :
    let operations := [.assume (.symbol "p"), .assume (.symbol "q"), .copy 1, .close, .close,
      .undo, .close, .infer (.implyI 2), .premise (.box (.last 7 .bottom .assumption)), .undo]
    (∀ operation ∈ operations, operation.assumesBox = false) ∧
      (fresh.run operations).WellFormed ∧
      ((fresh.run operations).perform .undo).2 ≠ .error (.fault (.notInScope 3)) := by
  intro operations
  have hb : ∀ operation ∈ operations, operation.assumesBox = false := by decide
  obtain ⟨hw, hf⟩ := wellFormed_run hb
  exact ⟨hb, hw, hf .undo rfl _⟩

end Proof

end BoxedDeduction
