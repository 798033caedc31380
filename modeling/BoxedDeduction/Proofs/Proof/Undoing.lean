import BoxedDeduction.Proofs.Proof.Operations

/-!
# Undoing leads back to the proof before the latest index

A proof that was made by giving out an index and closing boxes afterwards keeps no copy of the
proof before. Undoing finds it again: each box that was closed since then is the last line
of the innermost scope, does not hold the latest line as a plain one, and unfolds into the
scope that it was made from.
-/

namespace BoxedDeduction

namespace Proof

variable {proof : Proof} {prop : Proposition} {reason : Justification} {index : Int}

/-! ## Opening boxes -/

/-- No box is opened when the line lies in the innermost scope. -/
theorem reopenUntil_of_plain {line : Line} (h : proof.current.plain? index = some line) :
    proof.reopenUntil index = ⟨proof, [], .ok line⟩ := by
  rw [reopenUntil]
  split
  · next found hf =>
    rw [h,Option.some.injEq] at hf
    rw [hf]
  · next hn =>
    rw [h] at hn
    cases hn

/-- The last box is opened when the line does not lie in the innermost scope. -/
theorem reopenUntil_of_lastBox {boxIndex : Int} {steps : SubProof} {inner : Scope}
    (h : proof.current.plain? index = none)
    (hb : proof.current.lastBox? = some (boxIndex, steps))
    (hi : Scope.ofSubProof steps = .ok inner) :
    proof.reopenUntil index =
      let rest := reopenUntil index
        ⟨inner, proof.current.erase boxIndex :: proof.enclosing, proof.nextIndex⟩
      ⟨rest.proof, boxIndex :: rest.opened, rest.outcome⟩ := by
  rw [reopenUntil]
  split
  · next found hf =>
    rw [h] at hf
    cases hf
  · split
    · next hn =>
      rw [hb] at hn
      cases hn
    · next index' steps' hs =>
      rw [hb] at hs
      cases hs
      split
      · next fault he =>
        rw [hi] at he
        cases he
      · next scope he =>
        rw [hi] at he
        cases he
        rfl

/-! ## Undoing one change -/

/-- Undoing takes back a line that opens no box. -/
theorem WellFormed.undo_extend (h : proof.WellFormed) (hr : reason ≠ .assumption) :
    (proof.extend prop reason).undo = (proof, .ok (some proof.nextIndex)) := by
  have hu : ∀ old ∈ proof.current.lines, old.index ≠ proof.nextIndex :=
    h.unused List.mem_cons_self
  have hn : proof.nextIndex + 1 ≠ 1 := by
    have h1 := h.one_le
    omega
  have hg : (proof.current.append ⟨proof.nextIndex, prop, reason⟩).get? proof.nextIndex =
      some ⟨proof.nextIndex, prop, reason⟩ := Scope.get?_append_self hu
  have hc : (Line.mk proof.nextIndex prop reason).isClosedBox = false :=
    Line.isClosedBox_eq_false.mpr (Line.closedBox?_eq_none.mpr (Or.inl hr))
  have hp : (proof.extend prop reason).current.plain? proof.nextIndex =
      some ⟨proof.nextIndex, prop, reason⟩ := by
    rw [Proof.extend,Scope.plain?,hg,Option.filter_some_pos (by rw [hc]; rfl)]
  have he : (proof.extend prop reason).current.erase proof.nextIndex = proof.current :=
    Scope.erase_append hu
  have hl : proof.nextIndex + 1 - 1 = proof.nextIndex := Int.add_sub_cancel _ _
  rw [undo,Proof.extend,if_neg hn]
  simp only [hl]
  rw [← Proof.extend,reopenUntil_of_plain hp]
  cases reason with
  | assumption => exact absurd rfl hr
  | premise => simp only [he]; rfl
  | copy source => simp only [he]; rfl
  | inference rule => simp only [he]; rfl

/-- Undoing takes back the assumption of a formula with the scope that it opened. -/
theorem WellFormed.undo_openBox (h : proof.WellFormed) (hb : prop.isBox = false) :
    (proof.openBox prop).undo = (proof, .ok (some proof.nextIndex)) := by
  have hn : proof.nextIndex + 1 ≠ 1 := by
    have h1 := h.one_le
    omega
  have hc : (Line.mk proof.nextIndex prop .assumption).isClosedBox = false :=
    Line.isClosedBox_eq_false.mpr (Line.closedBox?_eq_none.mpr (Or.inr hb))
  have hp : (proof.openBox prop).current.plain? proof.nextIndex =
      some ⟨proof.nextIndex, prop, .assumption⟩ := by
    simp [Proof.openBox, Scope.plain?, Scope.get?, hc]
  have hl : proof.nextIndex + 1 - 1 = proof.nextIndex := Int.add_sub_cancel _ _
  rw [undo,Proof.openBox,if_neg hn]
  simp only [hl]
  rw [← Proof.openBox,reopenUntil_of_plain hp]
  rfl

section Closing

variable {inner parent : Scope} {outer : List Scope} {next : Int} {steps : SubProof}

/-- A box that has just been closed is opened again when the line stood in its lines. -/
theorem WellFormed.reopenUntil_close (h : WellFormed ⟨inner, parent :: outer, next⟩)
    (hs : inner.toSubProof? = some steps) (hi : steps.start ≤ index) :
    reopenUntil index ⟨parent.append steps.boxLine, outer, next⟩ =
      let rest := reopenUntil index ⟨inner, parent :: outer, next⟩
      ⟨rest.proof, steps.start :: rest.opened, rest.outcome⟩ := by
  have hl := Scope.toSubProof?_eq_some.mp hs
  have hu : ∀ old ∈ parent.lines, old.index ≠ index := by
    intro old ho
    have hlt := h.index_lt_of_enclosing List.mem_cons_self ho (Scope.firstLine_mem hs)
    have hle : steps.firstLine.index ≤ index := hi
    omega
  have hp : (parent.append steps.boxLine).plain? index = none := by
    rw [Scope.plain?,Scope.get?_append,Scope.get?_of_unused hu,Option.none_or]
    split <;> rfl
  have hb : (parent.append steps.boxLine).lastBox? = some (steps.start, steps) := by
    rw [Scope.lastBox?,Scope.last?,Scope.append,List.getLast?_concat]
    rfl
  have ho : Scope.ofSubProof steps = .ok inner := by
    rw [Scope.ofSubProof_of_increasing,hl]
    rw [hl]
    exact h.pairwise_scope (List.mem_reverse.mpr List.mem_cons_self)
  have he : (parent.append steps.boxLine).erase steps.start = parent :=
    Scope.erase_append (h.unused_start hs)
  rw [reopenUntil_of_lastBox hp hb ho]
  simp only [he]

/-- Closing a box makes no difference to undoing. -/
theorem WellFormed.undo_close (h : WellFormed ⟨inner, parent :: outer, next⟩)
    (hs : inner.toSubProof? = some steps) :
    undo ⟨parent.append steps.boxLine, outer, next⟩ = undo ⟨inner, parent :: outer, next⟩ := by
  obtain ⟨h1, hlt⟩ := h.start_lt hs
  have hr := h.reopenUntil_close hs (Int.le_sub_one_of_lt hlt)
  have hn : next ≠ 1 := by omega
  rw [undo,undo,if_neg hn,if_neg hn]
  simp only [hr]

end Closing

/-! ## Undoing in a proof that grew -/

namespace Grown

variable {history : List Proof}

/-- The history holds one proof for each index that was given out. -/
theorem length_history (h : Grown history proof) :
    (history.length : Int) + 1 = proof.nextIndex := by
  induction h with
  | fresh => rfl
  | extend _ _ ih =>
    rw [List.length_cons,Proof.extend]
    dsimp only
    omega
  | openBox _ _ ih =>
    rw [List.length_cons,Proof.openBox]
    dsimp only
    omega
  | close _ _ ih => exact ih

/-- Undoing leads back to the latest proof of the history. -/
theorem undo (h : Grown history proof) :
    proof.undo = (history.head?.getD proof, .ok (history.head?.map Proof.nextIndex)) := by
  induction h with
  | fresh => rfl
  | extend h hj _ => exact h.wellFormed.undo_extend hj.reason_ne
  | openBox h hp _ => exact h.wellFormed.undo_openBox hp
  | @close history _ _ _ next _ h hs ih =>
    rw [h.wellFormed.undo_close hs,ih]
    cases history with
    | nil =>
      -- An open box holds a line, so an index has been given out.
      have hl : 1 = next := h.length_history
      obtain ⟨h1, hlt⟩ := h.wellFormed.start_lt hs
      omega
    | cons earlier rest => rfl

/-- The proofs of the history grew in the same way. -/
theorem earlier {before : Proof} (h : Grown (before :: history) proof) : Grown history before := by
  generalize hh : before :: history = full at h
  induction h with
  | fresh => cases hh
  | extend h _ _ =>
    cases hh
    exact h
  | openBox h _ _ =>
    cases hh
    exact h
  | close _ _ ih => exact ih hh

end Grown

end Proof

end BoxedDeduction
