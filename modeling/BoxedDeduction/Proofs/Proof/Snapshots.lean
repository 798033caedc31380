import BoxedDeduction.Proofs.Proof.Run

/-!
# Undoing and snapshots

A recorded proof keeps a copy of the proof before each index was given out, and undoing takes
the latest copy. A proof that keeps no copies goes through the same states and gives the
same results. So an index that was given out and any closing of boxes after it are undone
together, and undoing every index leads back to the proof without lines.
-/

namespace BoxedDeduction

/-- A proof with copies of the proofs before each index was given out, the latest first. -/
structure RecordedProof where
  /-- The proof. -/
  proof : Proof
  /-- The copies. -/
  snapshots : List Proof

namespace RecordedProof

/-- The proof without lines and copies. -/
def fresh : RecordedProof := ⟨.fresh, []⟩

/-- Perform an operation. Where it gives out an index the proof before is copied, and undoing
goes back to the latest copy. -/
def perform (recorded : RecordedProof) :
    Operation → RecordedProof × Except ProofError (Option Int)
  | .undo =>
    match recorded.snapshots with
    | [] => (recorded, .ok none)
    | latest :: earlier => (⟨latest, earlier⟩, .ok (some latest.nextIndex))
  | operation =>
    match recorded.proof.perform operation with
    | (after, .ok result) =>
      if operation.allocates then (⟨after, recorded.proof :: recorded.snapshots⟩, .ok result)
      else (⟨after, recorded.snapshots⟩, .ok result)
    | (after, .error cause) => (⟨after, recorded.snapshots⟩, .error cause)

/-- The proofs after each operation, with the results. -/
def trace (recorded : RecordedProof) : List Operation → List (Attempt (Option Int))
  | [] => []
  | operation :: rest =>
    let attempt := recorded.perform operation
    (attempt.1.proof, attempt.2) :: attempt.1.trace rest

/-- Operations other than undoing act on the proof. -/
theorem perform_of_ne_undo {recorded : RecordedProof} {operation : Operation}
    (h : operation ≠ .undo) : recorded.perform operation =
      match recorded.proof.perform operation with
      | (after, .ok result) =>
        if operation.allocates then (⟨after, recorded.proof :: recorded.snapshots⟩, .ok result)
        else (⟨after, recorded.snapshots⟩, .ok result)
      | (after, .error cause) => (⟨after, recorded.snapshots⟩, .error cause) := by
  cases operation with
  | undo => exact absurd rfl h
  | _ => rfl

/-- While the copies are the history of the proof, an operation has the same effect and the
same result with and without them. -/
theorem perform_eq {recorded : RecordedProof} {operation : Operation}
    (h : Proof.Grown recorded.snapshots recorded.proof) (hb : operation.assumesBox = false) :
    ∃ history, Proof.Grown history (recorded.proof.perform operation).1 ∧
      recorded.perform operation =
        (⟨(recorded.proof.perform operation).1, history⟩,
          (recorded.proof.perform operation).2) := by
  obtain ⟨proof, snapshots⟩ := recorded
  by_cases hu : operation = .undo
  · have hp : proof.perform .undo = proof.undo := rfl
    rw [hu,perform]
    simp only [hp, h.undo]
    cases snapshots with
    | nil => exact ⟨[], h, rfl⟩
    | cons earlier rest => exact ⟨rest, h.earlier, rfl⟩
  · rw [perform_of_ne_undo hu]
    cases h.wellFormed.performs hb hu with
    | allocation after ha hg hp =>
      refine ⟨proof :: snapshots, ?_, ?_⟩
      · rw [hp]
        exact hg snapshots h
      · simp only [hp, ha, if_true]
    | closing after ho hg hp =>
      refine ⟨snapshots, ?_, ?_⟩
      · rw [hp]
        exact hg snapshots h
      · have ha : operation.allocates = false := by
          rw [ho]
          rfl
        simp only [hp, ha, Bool.false_eq_true, if_false]
    | refusal cause _ hp =>
      refine ⟨snapshots, ?_, ?_⟩
      · rw [hp]
        exact h
      · simp only [hp]

/-- A proof goes through the same states and gives the same results with and without copies. -/
theorem trace_eq {recorded : RecordedProof} {operations : List Operation}
    (h : Proof.Grown recorded.snapshots recorded.proof)
    (hb : ∀ operation ∈ operations, operation.assumesBox = false) :
    recorded.proof.trace operations = recorded.trace operations := by
  induction operations generalizing recorded with
  | nil => rfl
  | cons first rest ih =>
    obtain ⟨history, hg, hp⟩ := perform_eq h (hb first List.mem_cons_self)
    have ht := @ih ⟨_, history⟩ hg fun operation ho => hb operation (List.mem_cons_of_mem _ ho)
    rw [Proof.trace,trace,hp]
    exact congrArg (List.cons _) ht

end RecordedProof

namespace Proof

variable {history : List Proof} {proof after : Proof}

/-- Closing boxes keeps the history. -/
theorem Grown.execute_closes (h : Grown history proof) {closes : Nat}
    (he : proof.execute (List.replicate closes .close) = .ok after) : Grown history after := by
  induction closes generalizing proof with
  | zero =>
    cases he
    exact h
  | succ closes ih =>
    rw [List.replicate_succ,execute] at he
    cases h.wellFormed.performs (rfl : Operation.close.assumesBox = false) nofun with
    | allocation _ ha _ _ => cases ha
    | closing middle _ hg hp =>
      rw [hp] at he
      exact ih (hg history h) he
    | refusal cause _ hp =>
      rw [hp] at he
      cases he

/-- A proof without a history has no lines. -/
theorem Grown.eq_fresh (h : Grown history proof) (hn : history = []) :
    proof = Proof.fresh := by
  cases h with
  | fresh => rfl
  | extend _ _ => cases hn
  | openBox _ _ => cases hn
  | close h hs =>
    have hl := h.length_history
    obtain ⟨h1, hlt⟩ := h.wellFormed.start_lt hs
    rw [hn,List.length_nil] at hl
    dsimp only at hl
    omega

/-- Undoing as often as indices were given out leads back to the proof without lines. -/
theorem Grown.run_undos (h : Grown history proof) :
    proof.run (List.replicate history.length .undo) = Proof.fresh := by
  induction history generalizing proof with
  | nil => exact h.eq_fresh rfl
  | cons earlier rest ih =>
    have hp : (proof.perform .undo).1 = earlier := by
      rw [perform,h.undo]
      rfl
    rw [List.length_cons,List.replicate_succ,run,List.foldl_cons,hp]
    exact ih h.earlier

/-- An index that was given out and any closing of boxes after it are undone together. -/
theorem Grown.undo_execute (h : Grown history proof) {operation : Operation}
    (hb : operation.assumesBox = false) (ha : operation.allocates = true) {closes : Nat}
    (he : proof.execute (operation :: List.replicate closes .close) = .ok after) :
    after.undo = (proof, .ok (some proof.nextIndex)) := by
  have hu : operation ≠ .undo := by
    rintro rfl
    cases ha
  rw [execute] at he
  cases h.wellFormed.performs hb hu with
  | allocation middle _ hg hp =>
    rw [hp] at he
    have hm := (hg history h).execute_closes he
    exact hm.undo
  | closing _ ho _ _ =>
    rw [ho] at ha
    cases ha
  | refusal cause _ hp =>
    rw [hp] at he
    cases he

/-- Undoing restores the proof before the latest index that is still given out: every run goes
through the same states and gives the same results as one that keeps copies. An index that
was given out and any closing of boxes after it are undone together, and undoing every
index leads back to the proof without lines. -/
theorem trace_eq_recorded_trace {operations : List Operation}
    (hb : ∀ operation ∈ operations, operation.assumesBox = false) :
    fresh.trace operations = RecordedProof.fresh.trace operations ∧
      (∀ operation : Operation, operation.assumesBox = false → operation.allocates = true →
        ∀ (closes : Nat) (after : Proof),
          (fresh.run operations).execute (operation :: List.replicate closes .close) = .ok after →
          after.undo = (fresh.run operations, .ok (some (fresh.run operations).nextIndex))) ∧
      (fresh.run operations).run
        (List.replicate ((fresh.run operations).nextIndex - 1).toNat .undo) = fresh := by
  obtain ⟨history, h⟩ := Grown.fresh.exists_run hb
  refine ⟨@RecordedProof.trace_eq .fresh operations Grown.fresh hb, ?_, ?_⟩
  · intro operation ho ha closes after he
    exact h.undo_execute ho ha he
  · have hl := h.length_history
    have hn : ((fresh.run operations).nextIndex - 1).toNat = history.length := by omega
    rw [hn]
    exact h.run_undos

/-- Two nested boxes that were closed are opened again by one undoing, which takes back the line
inside the inner one. -/
theorem trace_eq_recorded_trace_of_nested_boxes :
    let operations := [.assume (.symbol "p"), .assume (.symbol "q")]
    (∀ operation ∈ operations, operation.assumesBox = false) ∧
      ∃ after, (fresh.run operations).execute [.copy 1, .close, .close] = .ok after ∧
        after.undo = (fresh.run operations, .ok (some 3)) := by
  intro operations
  have hb : ∀ operation ∈ operations, operation.assumesBox = false := by decide
  obtain ⟨-, hu, -⟩ := trace_eq_recorded_trace hb
  exact ⟨hb, _, rfl, hu (.copy 1) rfl rfl 2 _ rfl⟩

end Proof

end BoxedDeduction
