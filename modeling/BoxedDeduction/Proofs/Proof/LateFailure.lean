import BoxedDeduction.Proofs.Proof.Run

/-!
# Failures that change the proof

An operation that is refused leaves the proof as it was. An operation that meets an internal
fault may have changed the proof before: the counter advances before the line is inserted, the
innermost scope is dropped before its box is inserted, and boxes are opened before the latest line
is found. Such a late failure needs an index that is in use or a box at the end that hides no
latest line, and neither occurs unless a box was assumed.
-/

namespace BoxedDeduction

namespace Proof

variable {proof after : Proof} {prop : Proposition} {reason : Justification} {cause : ProofError}
  {index : Int}

/-- Whether an operation fails after it has changed the proof: the index that it gives out or the
index of the closed box is in use, or boxes are opened in vain. -/
def FailsLate (proof : Proof) : Operation → Prop
  | .premise _ => proof.current.contains proof.nextIndex = true
  | .assume _ => False
  | .copy source =>
    (∃ prop, proof.lookup source = some prop) ∧ proof.current.contains proof.nextIndex = true
  | .infer rule =>
    (∃ prop, rule.conclusion proof.lookup = .ok prop) ∧
      proof.current.contains proof.nextIndex = true
  | .close => ∃ parent outer steps, proof.enclosing = parent :: outer ∧
      proof.current.toSubProof? = some steps ∧ parent.contains steps.start = true
  | .undo => proof.nextIndex ≠ 1 ∧ proof.current.plain? (proof.nextIndex - 1) = none ∧
      proof.current.lastBox? ≠ none ∧ ∃ cause, proof.undo.2 = .error cause

/-- How an attempt ended: it succeeded, it failed and left the proof alone, or it met a fault after
it had changed the proof. -/
inductive Ending {α : Type} (proof : Proof) (late : Prop) : Attempt α → Prop where
  /-- The attempt succeeded. -/
  | success (after : Proof) (result : α) (hl : ¬late) : Ending proof late (after, .ok result)
  /-- The attempt failed and left the proof alone. -/
  | refusal (cause : ProofError) (hl : ¬late) : Ending proof late (proof, .error cause)
  /-- The attempt met a fault after it had changed the proof. -/
  | lateFault (after : Proof) (fault : StateFault) (hl : late) (hne : after ≠ proof) :
    Ending proof late (after, .error (.fault fault))

/-! ## Adding a line -/

/-- A line is added when the next index is not in use. Otherwise the counter has advanced. -/
theorem ending_addLine (proof : Proof) (prop : Proposition) (reason : Justification) :
    Ending proof (proof.current.contains proof.nextIndex = true) (proof.addLine prop reason) := by
  cases hc : proof.current.contains proof.nextIndex with
  | false =>
    simp only [addLine, Scope.insert, hc, Bool.false_eq_true, if_false]
    exact .success _ _ not_false
  | true =>
    simp only [addLine, Scope.insert, hc, if_true]
    refine .lateFault _ _ trivial ?_
    intro he
    have hn : proof.nextIndex + 1 = proof.nextIndex := congrArg Proof.nextIndex he
    omega

/-! ## Opening boxes -/

/-- Without a box at the end nothing is opened. -/
theorem reopenUntil_of_no_box (h : proof.current.plain? index = none)
    (hb : proof.current.lastBox? = none) :
    proof.reopenUntil index = ⟨proof, [], .error (.fault (.notInScope index))⟩ := by
  rw [reopenUntil]
  split
  · next found hf =>
    rw [h] at hf
    cases hf
  · split
    · rfl
    · next hs =>
      rw [hb] at hs
      cases hs

/-- A box that holds an index twice is taken away and not opened. -/
theorem reopenUntil_of_fault {boxIndex : Int} {steps : SubProof} {fault : StateFault}
    (h : proof.current.plain? index = none)
    (hb : proof.current.lastBox? = some (boxIndex, steps))
    (hi : Scope.ofSubProof steps = .error fault) :
    proof.reopenUntil index =
      ⟨⟨proof.current.erase boxIndex, proof.enclosing, proof.nextIndex⟩, [],
        .error (.fault fault)⟩ := by
  rw [reopenUntil]
  split
  · next found hf =>
    rw [h] at hf
    cases hf
  · split
    · next hn =>
      rw [hb] at hn
      cases hn
    · next hs =>
      rw [hb] at hs
      cases hs
      split
      · next he =>
        rw [hi] at he
        cases he
        rfl
      · next he =>
        rw [hi] at he
        cases he

/-- Opening boxes closes none. -/
theorem enclosing_le_reopenUntil (index : Int) (proof : Proof) :
    proof.enclosing.length ≤ (proof.reopenUntil index).proof.enclosing.length := by
  induction proof using reopenUntil.induct index with
  | case1 proof line hp =>
    simp only [reopenUntil_of_plain hp, Nat.le_refl]
  | case2 proof hp hb =>
    simp only [reopenUntil_of_no_box hp hb, Nat.le_refl]
  | case3 proof hp boxIndex steps hb fault hi =>
    simp only [reopenUntil_of_fault hp hb hi, Nat.le_refl]
  | case4 proof hp boxIndex steps hb parent inner hi ih =>
    rw [reopenUntil_of_lastBox hp hb hi]
    exact Nat.le_of_succ_le ih

/-- The box at the end of a scope is one of its lines. -/
theorem erase_ne_of_lastBox? {scope : Scope} {steps : SubProof}
    (h : scope.lastBox? = some (index, steps)) : scope.erase index ≠ scope := by
  simp only [Scope.lastBox?, Scope.last?, Option.bind_eq_bind, Option.bind_eq_some_iff,
    Option.pure_def, Option.some.injEq, Prod.mk.injEq] at h
  obtain ⟨line, hl, _, _, rfl, _⟩ := h
  have hm : line ∈ scope.lines := List.mem_of_getLast? hl
  have hlen := List.length_eraseP_of_mem (p := fun other : Line => other.index == line.index) hm
    (beq_self_eq_true line.index)
  have hpos := List.length_pos_of_mem hm
  intro he
  have hlines := congrArg (fun other : Scope => other.lines.length) he
  simp only [Scope.erase] at hlines
  omega

/-- Taking away a box changes the proof, whether or not it can be opened. -/
theorem reopenUntil_ne (hp : proof.current.plain? index = none)
    (hb : proof.current.lastBox? ≠ none) : (proof.reopenUntil index).proof ≠ proof := by
  obtain ⟨⟨boxIndex, steps⟩, hs⟩ := Option.ne_none_iff_exists'.mp hb
  cases hi : Scope.ofSubProof steps with
  | error fault =>
    rw [reopenUntil_of_fault hp hs hi]
    intro he
    exact erase_ne_of_lastBox? hs (congrArg Proof.current he)
  | ok inner =>
    rw [reopenUntil_of_lastBox hp hs hi]
    intro he
    -- The opened box is a scope more, and whatever is opened next closes none.
    have hle := enclosing_le_reopenUntil index
      ⟨inner, proof.current.erase boxIndex :: proof.enclosing, proof.nextIndex⟩
    have hlen := congrArg (fun other : Proof => other.enclosing.length) he
    simp only [List.length_cons] at hle hlen
    omega

/-- Opening boxes in vain is a fault. -/
theorem fault_of_reopenUntil (h : (proof.reopenUntil index).outcome = .error cause) :
    ∃ fault, cause = .fault fault := by
  induction proof using reopenUntil.induct index with
  | case1 proof line hp =>
    rw [reopenUntil_of_plain hp] at h
    cases h
  | case2 proof hp hb =>
    rw [reopenUntil_of_no_box hp hb] at h
    cases h
    exact ⟨_, rfl⟩
  | case3 proof hp boxIndex steps hb fault hi =>
    rw [reopenUntil_of_fault hp hb hi] at h
    cases h
    exact ⟨_, rfl⟩
  | case4 proof hp boxIndex steps hb parent inner hi ih =>
    rw [reopenUntil_of_lastBox hp hb hi] at h
    exact ih h

/-- Undoing fails when boxes are opened in vain, and leaves them open. -/
theorem undo_of_reopenUntil_error (hn : proof.nextIndex ≠ 1)
    (h : (proof.reopenUntil (proof.nextIndex - 1)).outcome = .error cause) :
    proof.undo = ((proof.reopenUntil (proof.nextIndex - 1)).proof, .error cause) := by
  rw [undo,if_neg hn]
  dsimp only
  rw [h]

/-- When undoing fails, it has opened boxes in vain and changed nothing else. -/
theorem undo_of_error (h : proof.undo.2 = .error cause) : proof.nextIndex ≠ 1 ∧
    proof.undo.1 = (proof.reopenUntil (proof.nextIndex - 1)).proof ∧
      ∃ fault, cause = .fault fault := by
  by_cases hn : proof.nextIndex = 1
  · rw [undo,if_pos hn] at h
    cases h
  refine ⟨hn, ?_⟩
  cases ho : (proof.reopenUntil (proof.nextIndex - 1)).outcome with
  | error other =>
    rw [undo_of_reopenUntil_error hn ho] at h ⊢
    cases h
    exact ⟨rfl, fault_of_reopenUntil ho⟩
  | ok line =>
    rw [undo,if_neg hn] at h ⊢
    dsimp only at h ⊢
    rw [ho] at h ⊢
    dsimp only at h ⊢
    obtain ⟨number, stated, reason⟩ := line
    cases reason with
    | premise => cases h
    | copy source => cases h
    | inference rule => cases h
    | assumption =>
      dsimp only at h ⊢
      cases he : (proof.reopenUntil (proof.nextIndex - 1)).proof.enclosing with
      | nil =>
        rw [he] at h
        cases h
        exact ⟨rfl, _, rfl⟩
      | cons parent outer =>
        rw [he] at h
        dsimp only at h ⊢
        split at h
        · cases h
        · next hs =>
          cases h
          rw [if_neg hs]
          exact ⟨rfl, _, rfl⟩

/-! ## Performing an operation -/

/-- What is made of the result does not change how an attempt ended. -/
theorem Ending.map {α β : Type} {late : Prop} {attempt : Attempt α} (h : Ending proof late attempt)
    (f : α → β) : Ending proof late (Prod.map id (Except.map f) attempt) := by
  cases h with
  | success after result hl => exact .success after (f result) hl
  | refusal cause hl => exact .refusal cause hl
  | lateFault after fault hl hne => exact .lateFault after fault hl hne

/-- How an attempt ended depends on the proposition only. -/
theorem Ending.congr {α : Type} {late late' : Prop} {attempt : Attempt α}
    (h : Ending proof late attempt) (hl : late ↔ late') : Ending proof late' attempt :=
  propext hl ▸ h

/-- A box is closed unless there is none or its index is in use around it. In the last case its
scope has been dropped. -/
theorem ending_close (proof : Proof) : Ending proof (proof.FailsLate .close) proof.close := by
  obtain ⟨current, enclosing, next⟩ := proof
  cases enclosing with
  | nil =>
    refine .refusal _ ?_
    rintro ⟨_, _, _, he, -⟩
    cases he
  | cons parent outer =>
    cases hs : current.toSubProof? with
    | none =>
      simp only [close, hs]
      refine .refusal _ ?_
      rintro ⟨_, _, _, -, hf, -⟩
      rw [hs] at hf
      cases hf
    | some steps =>
      cases hc : parent.contains steps.start with
      | false =>
        simp only [close, hs, Scope.insert, hc, Bool.false_eq_true, if_false]
        refine .success _ _ ?_
        rintro ⟨_, _, _, he, hf, hu⟩
        cases he
        rw [hs] at hf
        cases hf
        rw [hc] at hu
        cases hu
      | true =>
        simp only [close, hs, Scope.insert, hc, if_true]
        refine .lateFault _ _ ⟨parent, outer, steps, rfl, hs, hc⟩ ?_
        intro he
        have hlen := congrArg (fun other : Proof => other.enclosing.length) he
        simp only [List.length_cons] at hlen
        omega

/-- Undoing fails late when it takes away a box before it fails. -/
theorem ending_undo (proof : Proof) : Ending proof (proof.FailsLate .undo) proof.undo := by
  cases hr : proof.undo.2 with
  | ok result =>
    have he : proof.undo = (proof.undo.1, .ok result) := Prod.ext rfl hr
    rw [he]
    refine .success _ _ ?_
    rintro ⟨-, -, -, cause, hc⟩
    rw [hr] at hc
    cases hc
  | error cause =>
    obtain ⟨hn, ha, fault, rfl⟩ := undo_of_error hr
    by_cases hb : proof.current.plain? (proof.nextIndex - 1) = none ∧ proof.current.lastBox? ≠ none
    · have he : proof.undo = (proof.undo.1, .error (.fault fault)) := Prod.ext rfl hr
      rw [he]
      refine .lateFault _ _ ⟨hn, hb.1, hb.2, _, hr⟩ ?_
      rw [ha]
      exact reopenUntil_ne hb.1 hb.2
    · -- No box is taken away, so the proof is the same.
      have hsame : (proof.reopenUntil (proof.nextIndex - 1)).proof = proof := by
        cases hp : proof.current.plain? (proof.nextIndex - 1) with
        | some line => rw [reopenUntil_of_plain hp]
        | none =>
          have hnone := Decidable.not_not.mp fun h => hb ⟨hp, h⟩
          rw [reopenUntil_of_no_box hp hnone]
      have he : proof.undo = (proof, .error (.fault fault)) := Prod.ext (ha.trans hsame) hr
      rw [he]
      exact .refusal _ fun ⟨_, hp, hl, _⟩ => hb ⟨hp, hl⟩

/-- Every operation succeeds, fails and leaves the proof alone, or fails late. -/
theorem ending_perform (proof : Proof) (operation : Operation) :
    Ending proof (proof.FailsLate operation) (proof.perform operation) := by
  cases operation with
  | premise prop => exact (ending_addLine proof prop .premise).map some
  | assume prop =>
    rw [perform,assume_eq]
    exact .success _ _ not_false
  | copy source =>
    rw [perform]
    cases hl : proof.lookup source with
    | none =>
      rw [copy_of_lookup_eq_none hl]
      refine .refusal _ ?_
      rintro ⟨⟨prop, hp⟩, -⟩
      rw [hl] at hp
      cases hp
    | some prop =>
      obtain ⟨line, hf, rfl⟩ := Option.map_eq_some_iff.mp hl
      have hc : proof.copy source = proof.addLine line.prop (.copy source) := by
        rw [copy,Proof.line,hf]
      rw [hc]
      exact ((ending_addLine proof line.prop (.copy source)).map some).congr
        ⟨fun h => ⟨⟨line.prop, hl⟩, h⟩, And.right⟩
  | infer rule =>
    rw [perform]
    cases hc : rule.conclusion proof.lookup with
    | error cause =>
      rw [infer_of_error hc]
      refine .refusal _ ?_
      rintro ⟨⟨prop, hp⟩, -⟩
      rw [hc] at hp
      cases hp
    | ok prop =>
      have hi : proof.infer rule = proof.addLine prop (.inference rule) := by rw [infer,hc]
      rw [hi]
      exact ((ending_addLine proof prop (.inference rule)).map some).congr
        ⟨fun h => ⟨⟨prop, hc⟩, h⟩, And.right⟩
  | close => exact (ending_close proof).map _
  | undo => exact ending_undo proof

/-- An operation fails late exactly when it fails with the proof changed. -/
theorem failsLate_iff {operation : Operation} : proof.FailsLate operation ↔
    (∃ cause, (proof.perform operation).2 = .error cause) ∧
      (proof.perform operation).1 ≠ proof := by
  have h := ending_perform proof operation
  generalize proof.perform operation = attempt at h ⊢
  cases h with
  | success after result hl => exact ⟨fun h => absurd h hl, nofun⟩
  | refusal cause hl => exact ⟨fun h => absurd h hl, fun h => absurd rfl h.2⟩
  | lateFault after fault hl hne => exact ⟨fun _ => ⟨⟨_, rfl⟩, hne⟩, fun _ => hl⟩

/-- In a proof that grew no operation fails late. -/
theorem Grown.not_failsLate {history : List Proof} (h : Grown history proof)
    (operation : Operation) : ¬proof.FailsLate operation := by
  intro hl
  cases hb : operation.assumesBox with
  | false =>
    have he := ending_perform proof operation
    have hf := h.perform_ne_fault hb
    generalize proof.perform operation = attempt at he hf
    cases he with
    | success _ _ hn => exact hn hl
    | refusal _ hn => exact hn hl
    | lateFault after fault _ _ => exact hf fault rfl
  | true =>
    cases operation with
    | assume prop => exact hl
    | _ => cases hb

/-- Which operations change the proof though they fail, after any run whatever: those that fail
late. What they meet is an internal fault, so an operation that is refused for any other cause
leaves the proof as it was, and unless the run assumed a box there is no such operation. -/
theorem failsLate_iff_after_run (operations : List Operation) (operation : Operation) :
    ((fresh.run operations).FailsLate operation ↔
      (∃ cause, ((fresh.run operations).perform operation).2 = .error cause) ∧
        ((fresh.run operations).perform operation).1 ≠ fresh.run operations) ∧
    (∀ cause, ((fresh.run operations).perform operation).2 = .error cause →
      (∀ fault, cause ≠ .fault fault) →
        ((fresh.run operations).perform operation).1 = fresh.run operations) ∧
    ((∀ earlier ∈ operations, earlier.assumesBox = false) →
      ¬(fresh.run operations).FailsLate operation) := by
  refine ⟨failsLate_iff, ?_, ?_⟩
  · intro cause hc hf
    have h := ending_perform (fresh.run operations) operation
    generalize (fresh.run operations).perform operation = attempt at h hc ⊢
    cases h with
    | success _ _ _ => cases hc
    | refusal _ _ => rfl
    | lateFault after fault _ _ => exact absurd (Except.error.inj hc).symm (hf fault)
  · intro hb
    obtain ⟨_, h⟩ := Grown.fresh.exists_run hb
    exact h.not_failsLate operation

/-- Undoing the assumption of a box that was closed before opens it instead, fails and leaves one more
scope open than there was. -/
theorem undo_assumed_box_changes :
    let box : Proposition := .box (.last 1 (.symbol "p") .assumption)
    let operations := [.assume (.symbol "p"), .close, .assume box]
    (fresh.run (operations.take 2)).lookup 1 = some box ∧
      ((fresh.run operations).perform .undo).2 = .error (.fault (.notInScope 2)) ∧
      ((fresh.run operations).perform .undo).1 ≠ fresh.run operations := by
  intro box operations
  let before : Proof := ⟨⟨[⟨2, box, .assumption⟩]⟩, [⟨[⟨1, box, .assumption⟩]⟩], 3⟩
  let after : Proof :=
    ⟨⟨[⟨1, .symbol "p", .assumption⟩]⟩, [.empty, ⟨[⟨1, box, .assumption⟩]⟩], 3⟩
  have hr : fresh.run operations = before := by rfl
  have ho : before.reopenUntil (3 - 1) = ⟨after, [2], .error (.fault (.notInScope 2))⟩ := by
    rw [reopenUntil_of_lastBox rfl rfl rfl,reopenUntil_of_no_box rfl rfl]
    rfl
  have hu : (fresh.run operations).perform .undo =
      (after, .error (.fault (.notInScope 2))) := by
    rw [hr,perform,undo_of_reopenUntil_error (by decide) (congrArg Reopening.outcome ho)]
    exact congrArg (fun found : Reopening => (found.proof, _)) ho
  rw [hu]
  exact ⟨by decide, rfl, by decide⟩

end Proof

end BoxedDeduction
