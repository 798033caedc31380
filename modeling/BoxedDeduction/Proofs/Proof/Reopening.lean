import BoxedDeduction.Proofs.Proof.LateFailure

/-!
# Undoing ends in every state

Undoing opens boxes at the end of the innermost scope until the latest line lies there. Opening a
box makes the stack of scopes higher and gives up no line but that of the box, yet the box that is
opened next lies inside the one before. So no more boxes are opened than stand one inside the other
at the end of the innermost scope. Nothing is assumed of the proof: boxes may have been assumed,
lines may be missing, indices may repeat, and an earlier failure may have left the proof half
changed. In the end undoing takes back the latest index, or it meets a fault that leaves the counter
alone.
-/

namespace BoxedDeduction

/-! ## Boxes at the end of a scope -/

namespace Scope

variable {scope : Scope}

/-- Without a box at the end there is none to open. -/
theorem closingDepth_of_no_box (h : scope.lastBox? = none) : scope.closingDepth = 0 := by
  rw [closingDepth]
  cases hl : scope.last? with
  | none => rfl
  | some line =>
    cases hc : line.closedBox? with
    | none => simp only [Line.closingDepth, hc]
    | some steps => simp [lastBox?, hl, hc] at h

/-- Lines are inserted up to the first index that is in use. -/
theorem indexInUse_of_insertAll {lines : List Line} {fault : StateFault}
    (h : scope.insertAll lines = .error fault) : ∃ index, fault = .indexInUse index := by
  induction lines generalizing scope with
  | nil => cases h
  | cons line later ih =>
    rw [insertAll,insert] at h
    by_cases hc : scope.contains line.index = true
    · rw [if_pos hc] at h
      cases h
      exact ⟨line.index, rfl⟩
    · rw [if_neg hc] at h
      exact ih h

end Scope

namespace Proof

variable {proof after last : Proof} {index : Int} {opened : List Int}

/-! ## Opening boxes one after the other -/

/-- Opening the box at the end of the innermost scope: it is taken away, and its lines become the
innermost scope. -/
inductive OpensBox : Proof → Int → Proof → Prop where
  /-- The box is unfolded inside the scope that held it. -/
  | unfold {scope inner : Scope} {outer : List Scope} {next index : Int} {steps : SubProof}
    (hb : scope.lastBox? = some (index, steps)) (hi : Scope.ofSubProof steps = .ok inner) :
    OpensBox ⟨scope, outer, next⟩ index ⟨inner, scope.erase index :: outer, next⟩

/-- Opening boxes one after the other, each at the end of the one before. -/
inductive OpensBoxes : Proof → List Int → Proof → Prop where
  /-- No box is opened. -/
  | none {proof : Proof} : OpensBoxes proof [] proof
  /-- A box is opened before the others. -/
  | more {proof between last : Proof} {index : Int} {rest : List Int}
    (h : OpensBox proof index between) (hr : OpensBoxes between rest last) :
    OpensBoxes proof (index :: rest) last

/-- Opening a box leaves one box fewer at the end, adds a scope and keeps the counter. -/
theorem OpensBox.counts (h : proof.OpensBox index after) :
    proof.current.closingDepth = after.current.closingDepth + 1 ∧
      after.depth = proof.depth + 1 ∧ after.nextIndex = proof.nextIndex := by
  cases h with
  | unfold hb hi => exact ⟨Scope.closingDepth_of_lastBox? hb hi, rfl, rfl⟩

/-- Opening boxes leaves that many boxes fewer at the end, adds as many scopes and keeps the
counter. -/
theorem OpensBoxes.counts (h : proof.OpensBoxes opened last) :
    proof.current.closingDepth = opened.length + last.current.closingDepth ∧
      last.depth = proof.depth + opened.length ∧ last.nextIndex = proof.nextIndex := by
  induction h with
  | none => exact ⟨(Nat.zero_add _).symm, rfl, rfl⟩
  | more h _ ih =>
    obtain ⟨hc, hd, hn⟩ := h.counts
    obtain ⟨hcs, hds, hns⟩ := ih
    rw [List.length_cons]
    exact ⟨by omega, by omega, hns.trans hn⟩

/-- No more boxes can be opened than stand one inside the other at the end. -/
theorem OpensBoxes.length_le (h : proof.OpensBoxes opened last) :
    opened.length ≤ proof.current.closingDepth := by
  rw [h.counts.1]
  exact Nat.le_add_right _ _

/-! ## The search for a line -/

/-- How the search for a line ends at a proof in which no further box is opened. -/
inductive SearchEnds (index : Int) (last : Proof) : Proof → Except ProofError Line → Prop where
  /-- The line lies in the innermost scope. -/
  | found {line : Line} (h : last.current.plain? index = some line) :
    SearchEnds index last last (.ok line)
  /-- There is no box at the end. -/
  | vain (h : last.current.plain? index = none) (hb : last.current.lastBox? = none) :
    SearchEnds index last last (.error (.fault (.notInScope index)))
  /-- The box at the end holds an index twice, so it is taken away and not opened. -/
  | repeated {boxIndex again : Int} {steps : SubProof} (h : last.current.plain? index = none)
    (hb : last.current.lastBox? = some (boxIndex, steps))
    (hi : Scope.ofSubProof steps = .error (.indexInUse again)) :
    SearchEnds index last ⟨last.current.erase boxIndex, last.enclosing, last.nextIndex⟩
      (.error (.fault (.indexInUse again)))

/-- The search for a line opens boxes one after the other until it ends. -/
theorem exists_searchEnds (index : Int) (proof : Proof) : ∃ last,
    proof.OpensBoxes (proof.reopenUntil index).opened last ∧
      SearchEnds index last (proof.reopenUntil index).proof (proof.reopenUntil index).outcome := by
  induction proof using reopenUntil.induct index with
  | case1 proof line hp =>
    rw [reopenUntil_of_plain hp]
    exact ⟨proof, .none, .found hp⟩
  | case2 proof hp hb =>
    rw [reopenUntil_of_no_box hp hb]
    exact ⟨proof, .none, .vain hp hb⟩
  | case3 proof hp boxIndex steps hb fault hi =>
    obtain ⟨again, rfl⟩ := Scope.indexInUse_of_insertAll hi
    rw [reopenUntil_of_fault hp hb hi]
    exact ⟨proof, .none, .repeated hp hb hi⟩
  | case4 proof hp boxIndex steps hb parent inner hi ih =>
    rw [reopenUntil_of_lastBox hp hb hi]
    obtain ⟨last, ho, he⟩ := ih
    exact ⟨last, .more (.unfold hb hi) ho, he⟩

/-! ## Undoing -/

/-- What undoing comes to at a proof in which no further box is opened. -/
inductive UndoEnds (last : Proof) : Attempt (Option Int) → Prop where
  /-- The latest line is taken out of the innermost scope. -/
  | takesLine {line : Line} (h : last.current.plain? (last.nextIndex - 1) = some line)
    (hr : line.reason ≠ .assumption) :
    UndoEnds last (⟨last.current.erase (last.nextIndex - 1), last.enclosing, last.nextIndex - 1⟩,
      .ok (some (last.nextIndex - 1)))
  /-- The latest line is an assumption and goes with the scope that it opened. -/
  | takesScope {line : Line} {parent : Scope} {outer : List Scope}
    (h : last.current.plain? (last.nextIndex - 1) = some line) (hr : line.reason = .assumption)
    (hs : last.current.size = 1) (ho : last.enclosing = parent :: outer) :
    UndoEnds last (⟨parent, outer, last.nextIndex - 1⟩, .ok (some (last.nextIndex - 1)))
  /-- The latest line is an assumption that opened no scope or is not alone in it. -/
  | misplaced {line : Line} (h : last.current.plain? (last.nextIndex - 1) = some line)
    (hr : line.reason = .assumption) (hm : last.enclosing = [] ∨ last.current.size ≠ 1) :
    UndoEnds last (last, .error (.fault (.notOpening (last.nextIndex - 1))))
  /-- The latest line is not found, and there is no box at the end. -/
  | vain (h : last.current.plain? (last.nextIndex - 1) = none)
    (hb : last.current.lastBox? = none) :
    UndoEnds last (last, .error (.fault (.notInScope (last.nextIndex - 1))))
  /-- The latest line is not found, and the box at the end holds an index twice. -/
  | repeated {boxIndex again : Int} {steps : SubProof}
    (h : last.current.plain? (last.nextIndex - 1) = none)
    (hb : last.current.lastBox? = some (boxIndex, steps))
    (hi : Scope.ofSubProof steps = .error (.indexInUse again)) :
    UndoEnds last (⟨last.current.erase boxIndex, last.enclosing, last.nextIndex⟩,
      .error (.fault (.indexInUse again)))

/-- Undoing opens boxes one after the other until it ends. -/
theorem exists_undoEnds (hn : proof.nextIndex ≠ 1) : ∃ last,
    proof.OpensBoxes proof.reopenedByUndo last ∧ UndoEnds last proof.undo := by
  obtain ⟨last, ho, he⟩ := exists_searchEnds (proof.nextIndex - 1) proof
  refine ⟨last, ?_, ?_⟩
  · rw [reopenedByUndo,if_neg hn]
    exact ho
  · -- The search keeps the counter, so the latest index is the same where it ends.
    rw [undo,if_neg hn]
    dsimp only
    rw [← ho.counts.2.2] at he ⊢
    generalize proof.reopenUntil (last.nextIndex - 1) = found at he ⊢
    obtain ⟨state, indices, outcome⟩ := found
    dsimp only at he ⊢
    cases he with
    | vain h hb => exact .vain h hb
    | repeated h hb hi => exact .repeated h hb hi
    | @found line h =>
      obtain ⟨number, stated, reason⟩ := line
      cases reason with
      | premise => exact .takesLine h Justification.noConfusion
      | copy source => exact .takesLine h Justification.noConfusion
      | inference rule => exact .takesLine h Justification.noConfusion
      | assumption =>
        dsimp only
        cases hs : last.enclosing with
        | nil => exact .misplaced h rfl (.inl hs)
        | cons parent outer =>
          dsimp only
          by_cases h1 : last.current.size = 1
          · rw [if_pos h1]
            exact .takesScope h rfl h1 hs
          · rw [if_neg h1]
            exact .misplaced h rfl (.inr h1)

/-- What undoing comes to in a state of which nothing is assumed. -/
structure UndoStops (proof : Proof) : Prop where
  /-- In whatever way boxes are opened one after the other, there are no more of them than stand one
  inside the other at the end of the innermost scope. -/
  bounded : ∀ opened last, proof.OpensBoxes opened last →
    opened.length ≤ proof.current.closingDepth
  /-- When an index has been given out, undoing opens boxes in this way until it takes back the
  latest line or meets a fault. -/
  opens : proof.nextIndex ≠ 1 → ∃ last,
    proof.OpensBoxes proof.reopenedByUndo last ∧ UndoEnds last proof.undo
  /-- When no index has been given out, no box is opened and nothing changes. -/
  idle : proof.nextIndex = 1 → proof.reopenedByUndo = [] ∧ proof.undo = (proof, .ok none)
  /-- No more boxes are opened than stand one inside the other. -/
  reopened : proof.reopenedByUndo.length ≤ proof.current.closingDepth
  /-- All of them are opened when the latest line is not found. -/
  exhausted : ∀ index, proof.undo.2 = .error (.fault (.notInScope index)) →
    proof.reopenedByUndo.length = proof.current.closingDepth
  /-- Either the latest index is taken back, and the counter goes back to it, or there is an
  internal fault, and the counter stays as it is. -/
  ends : proof.nextIndex ≠ 1 →
    (proof.undo.2 = .ok (some (proof.nextIndex - 1)) ∧
      proof.undo.1.nextIndex = proof.nextIndex - 1) ∨
    ∃ fault, proof.undo.2 = .error (.fault fault) ∧ proof.undo.1.nextIndex = proof.nextIndex

/-- Undoing ends in every state. -/
theorem undoStops (proof : Proof) : proof.UndoStops where
  bounded := fun _ _ ho => ho.length_le
  opens := exists_undoEnds
  idle := by
    intro hn
    rw [reopenedByUndo,undo,if_pos hn,if_pos hn]
    exact ⟨rfl, rfl⟩
  reopened := by
    by_cases hn : proof.nextIndex = 1
    · rw [reopenedByUndo,if_pos hn]
      exact Nat.zero_le _
    · obtain ⟨last, ho, -⟩ := exists_undoEnds hn
      exact ho.length_le
  exhausted := by
    intro index hf
    by_cases hn : proof.nextIndex = 1
    · rw [undo,if_pos hn] at hf
      cases hf
    · obtain ⟨last, ho, he⟩ := exists_undoEnds hn
      generalize proof.undo = result at he hf
      cases he with
      | vain h hb =>
        rw [ho.counts.1,Scope.closingDepth_of_no_box hb]
        rfl
      | _ => cases hf
  ends := by
    intro hn
    obtain ⟨last, ho, he⟩ := exists_undoEnds hn
    rw [← ho.counts.2.2]
    generalize proof.undo = result at he
    cases he with
    | takesLine h hr => exact .inl ⟨rfl, rfl⟩
    | takesScope h hr hs ho => exact .inl ⟨rfl, rfl⟩
    | misplaced h hr hm => exact .inr ⟨_, rfl, rfl⟩
    | vain h hb => exact .inr ⟨_, rfl, rfl⟩
    | repeated h hb hi => exact .inr ⟨_, rfl, rfl⟩

end Proof

end BoxedDeduction
