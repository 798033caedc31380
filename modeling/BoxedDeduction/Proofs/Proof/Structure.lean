import BoxedDeduction.Proofs.Proof.Growth

/-!
# The structure of proofs

Proofs that grow are well formed. The expanded lines are numbered in their order, so the
lines of every scope stand in the order of their indices, those of an inner scope have
higher indices than those around it, and the next index is not in use.
-/

namespace BoxedDeduction

/-! ## Indices -/

/-- The indices below a bound are those from one up. -/
theorem mem_indicesBelow {bound index : Int} :
    index ∈ indicesBelow bound ↔ 1 ≤ index ∧ index < bound := by
  simp only [indicesBelow, List.mem_map, List.mem_range]
  constructor
  · rintro ⟨number, hn, rfl⟩
    omega
  · rintro ⟨h1, hb⟩
    exact ⟨(index - 1).toNat, by omega, by omega⟩

/-- The bound is the next index. -/
theorem indicesBelow_succ {bound : Int} (h : 1 ≤ bound) :
    indicesBelow (bound + 1) = indicesBelow bound ++ [bound] := by
  have hn : (bound + 1 - 1).toNat = (bound - 1).toNat + 1 := by omega
  rw [indicesBelow,hn,List.range_succ,List.map_append,indicesBelow,List.map_singleton]
  have hb : (((bound - 1).toNat : Nat) : Int) + 1 = bound := by omega
  rw [hb]

/-- Indices below a bound are listed in increasing order. -/
theorem pairwise_indicesBelow (bound : Int) : (indicesBelow bound).Pairwise (· < ·) := by
  refine List.pairwise_map.mpr (List.pairwise_lt_range.imp ?_)
  intro first second h
  omega

/-! ## Assumptions -/

/-- Lines after the first may be added to a box. -/
theorem StartsWithAssumption.append {lines : List Line} {line : Line}
    (h : StartsWithAssumption lines) (hl : line.reason = .assumption → line.isClosedBox = true) :
    StartsWithAssumption (lines ++ [line]) := by
  cases lines with
  | nil => exact h.elim
  | cons first later =>
    obtain ⟨ha, hp, hn⟩ := h
    refine ⟨ha, hp, ?_⟩
    intro other ho
    rcases List.mem_append.mp ho with ho | ho
    · exact hn other ho
    · rw [List.mem_singleton.mp ho]
      exact hl

/-- Lines may be added where no assumption opens a box. -/
theorem NoOpenAssumption.append {lines : List Line} {line : Line}
    (h : NoOpenAssumption lines) (hl : line.reason = .assumption → line.isClosedBox = true) :
    NoOpenAssumption (lines ++ [line]) := by
  intro other ho
  rcases List.mem_append.mp ho with ho | ho
  · exact h other ho
  · rw [List.mem_singleton.mp ho]
    exact hl

/-- The innermost scope is the global one, or it begins with its assumption. -/
theorem openedInOrder_concat {outer : List Scope} {scope : Scope} :
    OpenedInOrder (outer ++ [scope]) ↔ outer = [] ∧ NoOpenAssumption scope.lines ∨
      OpenedInOrder outer ∧ StartsWithAssumption scope.lines := by
  cases outer with
  | nil => simp [OpenedInOrder]
  | cons outermost inner =>
    simp only [List.cons_append, OpenedInOrder, List.mem_append, List.mem_singleton,
      reduceCtorEq, false_and, false_or, and_assoc]
    constructor
    · rintro ⟨ho, hi⟩
      exact ⟨ho, fun other hm => hi other (Or.inl hm), hi scope (Or.inr rfl)⟩
    · rintro ⟨ho, hi, hs⟩
      refine ⟨ho, ?_⟩
      rintro other (hm | rfl)
      · exact hi other hm
      · exact hs

/-- A line may be added to the innermost scope. -/
theorem OpenedInOrder.append {outer : List Scope} {scope : Scope} {line : Line}
    (h : OpenedInOrder (outer ++ [scope]))
    (hl : line.reason = .assumption → line.isClosedBox = true) :
    OpenedInOrder (outer ++ [scope.append line]) := by
  rcases openedInOrder_concat.mp h with ⟨ho, hn⟩ | ⟨ho, hs⟩
  · exact openedInOrder_concat.mpr (Or.inl ⟨ho, hn.append hl⟩)
  · exact openedInOrder_concat.mpr (Or.inr ⟨ho, hs.append hl⟩)

/-! ## Growing proofs -/

namespace Proof

namespace WellFormed

variable {proof : Proof} {prop : Proposition} {reason : Justification}

/-- The proof without lines is well formed. -/
theorem fresh : Proof.fresh.WellFormed where
  one_le := Int.le_refl 1
  numbered := rfl
  boxed := by
    intro line hm
    cases hm
  opened := by
    rw [scopes_eq]
    refine openedInOrder_concat.mpr (Or.inl ⟨rfl, ?_⟩)
    intro line hm
    cases hm

/-- A line that opens no box keeps a proof well formed. -/
theorem extend (h : proof.WellFormed) (hr : reason ≠ .assumption) :
    (proof.extend prop reason).WellFormed where
  one_le := Int.le_trans h.one_le (Int.le_of_lt (Int.lt_succ proof.nextIndex))
  numbered := by
    rw [expanded_extend hr,List.map_append,h.numbered,Proof.extend,indicesBelow_succ h.one_le]
    rfl
  boxed := by
    rw [nested_extend hr]
    intro line hm steps hs
    rcases List.mem_append.mp hm with hm | hm
    · exact h.boxed line hm steps hs
    · rw [List.mem_singleton.mp hm] at hs
      exact absurd (Line.closedBox?_eq_some.mp hs).2 hr
  opened := by
    have ho := h.opened
    rw [scopes_eq] at ho ⊢
    exact ho.append fun ha => absurd ha hr

/-- The assumption of a formula keeps a proof well formed. -/
theorem openBox (h : proof.WellFormed) (hp : prop.isBox = false) :
    (proof.openBox prop).WellFormed where
  one_le := Int.le_trans h.one_le (Int.le_of_lt (Int.lt_succ proof.nextIndex))
  numbered := by
    rw [expanded_openBox hp,List.map_append,h.numbered,Proof.openBox,indicesBelow_succ h.one_le]
    rfl
  boxed := by
    rw [nested_openBox hp]
    intro line hm steps hs
    rcases List.mem_append.mp hm with hm | hm
    · exact h.boxed line hm steps hs
    · rw [List.mem_singleton.mp hm,Line.closedBox?_eq_none.mpr (Or.inr hp)] at hs
      cases hs
  opened := by
    rw [scopes_eq]
    refine openedInOrder_concat.mpr (Or.inr ⟨h.opened, rfl, hp, ?_⟩)
    intro line hm
    cases hm

/-- Closing the innermost box keeps a proof well formed. -/
theorem close {inner parent : Scope} {outer : List Scope} {next : Int} {steps : SubProof}
    (h : WellFormed ⟨inner, parent :: outer, next⟩) (hs : inner.toSubProof? = some steps) :
    WellFormed ⟨parent.append steps.boxLine, outer, next⟩ := by
  have ho := h.opened
  rw [scopes_eq,List.reverse_cons] at ho
  rcases openedInOrder_concat.mp ho with ⟨hn, -⟩ | ⟨ho, hi⟩
  · exact absurd hn (by simp)
  · refine ⟨h.one_le, ?_, ?_, ?_⟩
    · rw [expanded_close hs]
      exact h.numbered
    · intro line hm other hb
      rcases (mem_nested_close hs).mp hm with rfl | hm
      · rw [steps.closedBox?_boxLine,Option.some.injEq] at hb
        rw [← hb,Scope.toSubProof?_eq_some.mp hs]
        exact ⟨rfl, hi⟩
      · exact h.boxed line hm other hb
    · rw [scopes_eq]
      exact ho.append fun _ => rfl

end WellFormed

/-- Proofs that grow are well formed. -/
theorem Grown.wellFormed {history : List Proof} {proof : Proof} (h : Grown history proof) :
    proof.WellFormed := by
  induction h with
  | fresh => exact WellFormed.fresh
  | extend _ hj ih => exact ih.extend hj.reason_ne
  | openBox _ hp ih => exact ih.openBox hp
  | close _ hs ih => exact ih.close hs

end Proof

/-! ## The order of the lines -/

/-- A line is found under the index of a line that it is replaced by. -/
theorem Line.index_mem_expanded {line : Line} (h : ∀ steps, line.closedBox? = some steps →
    line.index = steps.start ∧ StartsWithAssumption steps.toList) :
    line.index ∈ line.expanded.map Line.index := by
  cases hb : line.closedBox? with
  | none => simp only [expanded_of_plain hb, List.map_singleton, List.mem_singleton]
  | some steps =>
    obtain ⟨hi, -, hp, -⟩ := h steps hb
    -- The first line of the box is plain, so it is itself an expanded line.
    have hf := expanded_of_plain (Line.closedBox?_eq_none.mpr (Or.inr hp))
    rw [expanded_of_closedBox hb,SubProof.toList,List.flatMap_cons,hf,hi]
    exact List.mem_cons_self

/-- Lines stand in the order of their indices when the lines that replace them do. -/
theorem pairwise_index_of_expanded {lines : List Line}
    (hm : ∀ line ∈ lines, line.index ∈ line.expanded.map Line.index)
    (h : ((lines.flatMap Line.expanded).map Line.index).Pairwise (· < ·)) :
    (lines.map Line.index).Pairwise (· < ·) := by
  induction lines with
  | nil => exact List.Pairwise.nil
  | cons first later ih =>
    rw [List.flatMap_cons,List.map_append,List.pairwise_append] at h
    obtain ⟨-, hl, hb⟩ := h
    refine List.pairwise_cons.mpr ⟨?_, ih (fun line hl => hm line (List.mem_cons_of_mem _ hl)) hl⟩
    intro index hi
    obtain ⟨line, hline, rfl⟩ := List.mem_map.mp hi
    refine hb _ (hm first List.mem_cons_self) _ ?_
    obtain ⟨inner, hinner, he⟩ := List.mem_map.mp (hm line (List.mem_cons_of_mem _ hline))
    exact List.mem_map.mpr ⟨inner, List.mem_flatMap.mpr ⟨line, hline, hinner⟩, he⟩

namespace Proof.WellFormed

variable {proof : Proof} {scope : Scope} {line : Line}

/-- A line of an open scope is found under the index of a line that it is replaced by. -/
theorem index_mem_expanded (h : proof.WellFormed) (hs : scope ∈ proof.scopes)
    (hl : line ∈ scope.lines) : line.index ∈ line.expanded.map Line.index := by
  refine Line.index_mem_expanded (h.boxed line ?_)
  exact List.mem_flatMap.mpr ⟨scope, hs, List.mem_flatMap.mpr ⟨line, hl, line.mem_nested⟩⟩

/-- The lines that replace those of a proof are numbered in increasing order. -/
theorem pairwise_expanded (h : proof.WellFormed) :
    (proof.expanded.map Line.index).Pairwise (· < ·) := by
  rw [h.numbered]
  exact pairwise_indicesBelow proof.nextIndex

/-- The index of a visible line has been given out. -/
theorem index_lt (h : proof.WellFormed) (hs : scope ∈ proof.scopes) (hl : line ∈ scope.lines) :
    1 ≤ line.index ∧ line.index < proof.nextIndex := by
  obtain ⟨inner, hi, he⟩ := List.mem_map.mp (h.index_mem_expanded hs hl)
  rw [← mem_indicesBelow,← h.numbered,← he]
  refine List.mem_map.mpr ⟨inner, ?_, rfl⟩
  exact List.mem_flatMap.mpr ⟨scope, hs, List.mem_flatMap.mpr ⟨line, hl, hi⟩⟩

/-- The lines of a scope stand in the order of their indices. -/
theorem pairwise_scope (h : proof.WellFormed) (hs : scope ∈ proof.scopes) :
    (scope.lines.map Line.index).Pairwise (· < ·) := by
  refine pairwise_index_of_expanded (fun line hl => h.index_mem_expanded hs hl) ?_
  obtain ⟨outer, inner, he⟩ := List.append_of_mem hs
  have hp := h.pairwise_expanded
  rw [expanded,he,List.flatMap_append,List.flatMap_cons,List.map_append,List.map_append,
    List.pairwise_append,List.pairwise_append] at hp
  exact hp.2.1.1

/-- The lines of the innermost scope have higher indices than those around it. -/
theorem index_lt_of_enclosing (h : proof.WellFormed) (hs : scope ∈ proof.enclosing)
    (hl : line ∈ scope.lines) {inner : Line} (hi : inner ∈ proof.current.lines) :
    line.index < inner.index := by
  have hso : scope ∈ proof.enclosing.reverse := List.mem_reverse.mpr hs
  have hsc : scope ∈ proof.scopes := by
    rw [scopes_eq]
    exact List.mem_append_left _ hso
  have hcc : proof.current ∈ proof.scopes := by
    rw [scopes_eq]
    exact List.mem_append_right _ (List.mem_singleton.mpr rfl)
  obtain ⟨plain, hp, hpe⟩ := List.mem_map.mp (h.index_mem_expanded hsc hl)
  obtain ⟨deep, hd, hde⟩ := List.mem_map.mp (h.index_mem_expanded hcc hi)
  have hpair := h.pairwise_expanded
  rw [expanded_eq,List.map_append,List.pairwise_append] at hpair
  rw [← hpe,← hde]
  refine hpair.2.2 _ (List.mem_map.mpr ⟨plain, ?_, rfl⟩) _ (List.mem_map.mpr ⟨deep, ?_, rfl⟩)
  · exact List.mem_flatMap.mpr ⟨scope, hso, List.mem_flatMap.mpr ⟨line, hl, hp⟩⟩
  · exact List.mem_flatMap.mpr ⟨inner, hi, hd⟩

end Proof.WellFormed

end BoxedDeduction
