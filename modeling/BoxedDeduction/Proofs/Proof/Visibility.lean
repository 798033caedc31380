import BoxedDeduction.Proofs.Proof.Charting
import Mathlib.Data.List.Infix

/-!
# Which lines are visible

A line is visible while the scope that holds it is open. No index is in use in two open scopes, so
the order in which they are searched makes no difference. In terms of indices, what is hidden comes
after the first line of a closed box and not after the greatest index in it. A visible line stays
visible as long as its scope is open, and closing a box puts the box in the place of its lines.
-/

namespace BoxedDeduction

/-! ## Indices inside a closed box -/

namespace SubProof

variable {steps : SubProof}

/-- The greatest index inside a closed box, at whatever depth. -/
def greatestIndex (steps : SubProof) : Int :=
  (steps.nestedLines.map Line.index).max?.getD steps.start

/-- The first line of a closed box is inside it. -/
theorem firstLine_mem_nestedLines (steps : SubProof) : steps.firstLine ∈ steps.nestedLines := by
  rw [nestedLines_eq,toList,List.flatMap_cons]
  exact List.mem_append_left _ (Line.mem_nested _)

/-- The greatest index is that of a line inside, and no line inside has a greater one. -/
theorem greatestIndex_spec (steps : SubProof) :
    (∃ line ∈ steps.nestedLines, line.index = steps.greatestIndex) ∧
      ∀ line ∈ steps.nestedLines, line.index ≤ steps.greatestIndex := by
  have hf := steps.firstLine_mem_nestedLines
  cases hm : (steps.nestedLines.map Line.index).max? with
  | none =>
    rw [List.max?_eq_none_iff,List.map_eq_nil_iff] at hm
    rw [hm] at hf
    cases hf
  | some greatest =>
    obtain ⟨hg, hle⟩ := List.max?_eq_some_iff.mp hm
    rw [greatestIndex,hm,Option.getD_some]
    exact ⟨List.mem_map.mp hg, fun line hl => hle _ (List.mem_map_of_mem hl)⟩

/-- The lines that replace a closed box stand inside it. -/
theorem expanded_subset_nestedLines {line : Line} (h : line.closedBox? = some steps) :
    line.expanded ⊆ steps.nestedLines := by
  rw [Line.expanded_of_closedBox h,nestedLines_eq]
  intro plain hp
  obtain ⟨inner, hi, hx⟩ := List.mem_flatMap.mp hp
  exact List.mem_flatMap.mpr ⟨inner, hi, (List.mem_filter.mp hx).1⟩

end SubProof

/-- Of two members of an ordered list one comes first, unless they are the same. -/
theorem eq_or_of_pairwise {α : Type} {before : α → α → Prop} {list : List α}
    (h : list.Pairwise before) {left right : α} (hl : left ∈ list) (hr : right ∈ list) :
    left = right ∨ before left right ∨ before right left :=
  List.Pairwise.forall_of_forall_of_flip (R := fun a b => a = b ∨ before a b ∨ before b a)
    (fun _ _ => Or.inl rfl) (h.imp fun hb => Or.inr (Or.inl hb))
    (h.imp fun hb => Or.inr (Or.inr hb)) hl hr

namespace Proof

/-- Whether there is a visible line under an index. -/
def IsVisible (proof : Proof) (index : Int) : Prop := ∃ line, proof.line index = .ok line

/-- The lines of the open scopes, from the global one to the innermost. -/
def openLines (proof : Proof) : List Line := proof.scopes.flatMap Scope.lines

variable {proof : Proof} {index : Int} {line : Line}

/-- A visible line is one that is found. -/
theorem line_eq_ok : proof.line index = .ok line ↔ proof.find? index = some line := by
  rw [Proof.line]
  cases proof.find? index <;> simp

/-- The lines of an open scope are among those of all. -/
theorem mem_openLines :
    line ∈ proof.openLines ↔ ∃ scope ∈ proof.openScopes, line ∈ scope.lines := by
  simp only [openLines, scopes, List.mem_flatMap, List.mem_reverse]

/-- The lines of the open scopes are lines of the proof. -/
theorem mem_nested_of_mem_openLines (h : line ∈ proof.openLines) : line ∈ proof.nested := by
  rw [nested_eq_flatMap]
  exact List.mem_flatMap.mpr ⟨line, h, line.mem_nested⟩

namespace WellFormed

/-! ## Searching the open scopes -/

/-- The lines of the open scopes stand in the order of their indices. -/
theorem pairwise_openLines (h : proof.WellFormed) :
    (proof.openLines.map Line.index).Pairwise (· < ·) := by
  have hp := h.pairwise_expanded
  rw [expanded_eq_flatMap] at hp
  refine pairwise_index_of_expanded ?_ hp
  intro line hl
  obtain ⟨scope, hs, hm⟩ := List.mem_flatMap.mp hl
  exact h.index_mem_expanded hs hm

/-- No two lines of the open scopes have the same index. -/
theorem eq_of_index_eq (h : proof.WellFormed) {other : Line} (hl : line ∈ proof.openLines)
    (ho : other ∈ proof.openLines) (he : line.index = other.index) : line = other := by
  have hfirst := find?_of_increasing h.pairwise_openLines hl
  rw [he,find?_of_increasing h.pairwise_openLines ho] at hfirst
  exact (Option.some.inj hfirst).symm

/-- Whatever open scopes are searched and in whatever order, a line of one of them is found. -/
theorem findSome?_eq_some_iff (h : proof.WellFormed) {order : List Scope}
    (ho : order ⊆ proof.openScopes) : (order.findSome? fun scope => scope.get? index) = some line ↔
      ∃ scope ∈ order, line ∈ scope.lines ∧ line.index = index := by
  constructor
  · intro hf
    obtain ⟨scope, hs, hg⟩ := List.exists_of_findSome?_eq_some hf
    exact ⟨scope, hs, Scope.mem_of_get?_eq_some hg⟩
  · rintro ⟨scope, hs, hl, rfl⟩
    have hg : scope.get? line.index = some line :=
      find?_of_increasing (h.pairwise_scope (List.mem_reverse.mpr (ho hs))) hl
    cases hf : order.findSome? fun scope => scope.get? line.index with
    | none =>
      rw [List.findSome?_eq_none_iff.mp hf scope hs] at hg
      cases hg
    | some found =>
      obtain ⟨around, ha, hfound⟩ := List.exists_of_findSome?_eq_some hf
      obtain ⟨hm, hi⟩ := Scope.mem_of_get?_eq_some hfound
      rw [h.eq_of_index_eq (mem_openLines.mpr ⟨around, ho ha, hm⟩)
        (mem_openLines.mpr ⟨scope, ho hs, hl⟩) hi]

/-- A line is found when it stands in an open scope. -/
theorem find?_eq_some_iff (h : proof.WellFormed) :
    proof.find? index = some line ↔ line ∈ proof.openLines ∧ line.index = index := by
  rw [find?,h.findSome?_eq_some_iff fun _ hs => hs,mem_openLines]
  simp only [← and_assoc, exists_and_right]

/-- The open scopes may be searched in any order. -/
theorem findSome?_of_perm (h : proof.WellFormed) {order : List Scope}
    (ho : order.Perm proof.openScopes) (index : Int) :
    (order.findSome? fun scope => scope.get? index) = proof.find? index := by
  refine Option.ext fun line => ?_
  rw [h.findSome?_eq_some_iff ho.subset,find?,h.findSome?_eq_some_iff fun _ hs => hs]
  simp only [ho.mem_iff]

/-- No index is in use in two open scopes. -/
theorem pairwise_contains (h : proof.WellFormed) : proof.openScopes.Pairwise fun inner outer =>
    ∀ index, inner.contains index = true → outer.contains index = false := by
  have hp := (List.pairwise_flatMap.mp (List.pairwise_map.mp h.pairwise_openLines)).2
  rw [scopes,List.pairwise_reverse] at hp
  refine hp.imp ?_
  intro inner outer hlt index hc
  obtain ⟨line, hl, hi⟩ := List.any_eq_true.mp hc
  refine List.any_eq_false.mpr ?_
  intro other ho
  have hn := hlt other ho line hl
  rw [beq_iff_eq] at hi ⊢
  omega

/-! ## Visible indices -/

/-- The lines that replace those of the open scopes stand in the order of their indices, those of
one line among themselves and before those of a later one. -/
theorem pairwise_expanded_openLines (h : proof.WellFormed) :
    (∀ line ∈ proof.openLines, line.expanded.Pairwise fun first second =>
        first.index < second.index) ∧
      proof.openLines.Pairwise fun earlier later =>
        ∀ first ∈ earlier.expanded, ∀ second ∈ later.expanded, first.index < second.index := by
  have hp := List.pairwise_map.mp h.pairwise_expanded
  rw [expanded_eq_flatMap] at hp
  exact List.pairwise_flatMap.mp hp

/-- Inside a line of an open scope every index is that of a line that replaces it. -/
theorem exists_expanded_of_nested (h : proof.WellFormed) (hl : line ∈ proof.openLines)
    {inner : Line} (hi : inner ∈ line.nested) :
    ∃ plain ∈ line.expanded, plain.index = inner.index := by
  have hb := h.boxed
  rw [nested_eq_flatMap] at hb
  have hm := @index_mem_expanded_of_nested [line] inner
    (fun other ho => hb other (List.mem_flatMap.mpr ⟨line, hl, by simpa using ho⟩))
    (List.mem_flatMap.mpr ⟨line, List.mem_singleton.mpr rfl, hi⟩)
  rw [List.flatMap_singleton] at hm
  exact List.mem_map.mp hm

/-- A line of an open scope is replaced by lines of which none has a lower index. -/
theorem index_le_of_expanded (h : proof.WellFormed) (hl : line ∈ proof.openLines) {plain : Line}
    (hp : plain ∈ line.expanded) : line.index ≤ plain.index := by
  cases hb : line.closedBox? with
  | none =>
    rw [Line.expanded_of_plain hb,List.mem_singleton] at hp
    exact Int.le_of_eq (congrArg Line.index hp.symm)
  | some steps =>
    obtain ⟨hi, hf⟩ := h.firstLine_of_closedBox (mem_nested_of_mem_openLines hl) hb
    have hpair := h.pairwise_expanded_openLines.1 line hl
    rw [Line.expanded_of_closedBox hb,SubProof.toList,List.flatMap_cons,
      Line.expanded_of_plain hf] at hp hpair
    rw [hi]
    rcases List.mem_cons.mp hp with rfl | hp
    · exact Int.le_refl _
    · exact Int.le_of_lt ((List.pairwise_cons.mp hpair).1 plain hp)

/-- No closed box hides a line of an open scope. -/
theorem not_hidden (h : proof.WellFormed) (hl : line ∈ proof.openLines) {steps : SubProof}
    (hs : steps ∈ proof.closedBoxes) :
    ¬(steps.start < line.index ∧ line.index ≤ steps.greatestIndex) := by
  rintro ⟨hlow, hhigh⟩
  obtain ⟨box, hn, hb⟩ := mem_closedBoxes.mp hs
  rw [nested_eq_flatMap] at hn
  obtain ⟨outer, ho, hbox⟩ := List.mem_flatMap.mp hn
  -- The box stands inside the line `outer`, so its first and its greatest index are among those
  -- of the lines that replace `outer`.
  have hinside : ∀ inner ∈ steps.nestedLines, ∃ plain ∈ outer.expanded,
      plain.index = inner.index := fun inner hi =>
    h.exists_expanded_of_nested ho (Line.nested_subset hbox (SubProof.nestedLines_subset hb hi))
  obtain ⟨first, hfirst, hfi⟩ := hinside _ steps.firstLine_mem_nestedLines
  obtain ⟨greatest, hg, hge⟩ := steps.greatestIndex_spec.1
  obtain ⟨last, hlast, hli⟩ := hinside greatest hg
  obtain ⟨own, hown, hoi⟩ := h.exists_expanded_of_nested hl line.mem_nested
  have hstart : steps.firstLine.index = steps.start := rfl
  rcases eq_or_of_pairwise h.pairwise_expanded_openLines.2 hl ho with rfl | hlt | hlt
  · have hle := h.index_le_of_expanded hl hfirst
    omega
  · have hn := hlt own hown first hfirst
    omega
  · have hn := hlt last hlast own hown
    omega

/-- An index is visible when it has been given out and no closed box hides it. -/
theorem isVisible_iff (h : proof.WellFormed) : proof.IsVisible index ↔
    (1 ≤ index ∧ index < proof.nextIndex) ∧
      ∀ steps ∈ proof.closedBoxes, ¬(steps.start < index ∧ index ≤ steps.greatestIndex) := by
  simp only [IsVisible, line_eq_ok, h.find?_eq_some_iff]
  constructor
  · rintro ⟨line, hl, rfl⟩
    refine ⟨?_, fun steps hs => h.not_hidden hl hs⟩
    exact h.index_of_nested (mem_nested_of_mem_openLines hl)
  · rintro ⟨hgiven, hshown⟩
    rw [← mem_indicesBelow,← h.numbered,expanded_eq_flatMap] at hgiven
    obtain ⟨plain, hp, rfl⟩ := List.mem_map.mp hgiven
    obtain ⟨line, hl, hx⟩ := List.mem_flatMap.mp hp
    refine ⟨line, hl, ?_⟩
    cases hb : line.closedBox? with
    | none =>
      rw [Line.expanded_of_plain hb,List.mem_singleton] at hx
      rw [hx]
    | some steps =>
      have hn := mem_nested_of_mem_openLines hl
      have hi := (h.firstLine_of_closedBox hn hb).1
      have hlow := h.index_le_of_expanded hl hx
      have hhigh := steps.greatestIndex_spec.2 plain (SubProof.expanded_subset_nestedLines hb hx)
      have hno := hshown steps (mem_closedBoxes.mpr ⟨line, hn, hb⟩)
      omega

end WellFormed

/-! ## Closing a box -/

/-- Closing a box shows the box under the index of its first line, hides its lines and changes no
other index. -/
theorem WellFormed.find?_close {inner parent : Scope} {outer : List Scope} {next : Int}
    {steps : SubProof} (h : WellFormed ⟨inner, parent :: outer, next⟩)
    (hs : inner.toSubProof? = some steps) (index : Int) :
    find? ⟨parent.append steps.boxLine, outer, next⟩ index =
      if index = steps.start then some steps.boxLine
      else if inner.contains index then none
      else find? ⟨inner, parent :: outer, next⟩ index := by
  have ha := h.close hs
  by_cases hstart : index = steps.start
  · rw [if_pos hstart,hstart]
    have hm : steps.boxLine ∈ (parent.append steps.boxLine).lines :=
      List.mem_append_right _ (List.mem_singleton.mpr rfl)
    exact ha.find?_of_mem_current hm
  have hne : ¬steps.boxLine.index = index := fun he => hstart he.symm
  rw [if_neg hstart,find?_eq,Scope.get?_append,if_neg hne,Option.or_none]
  cases hc : inner.contains index with
  | true =>
    obtain ⟨old, hold, hi⟩ := List.any_eq_true.mp hc
    rw [beq_iff_eq] at hi
    rw [if_pos rfl]
    -- The lines around the box have lower indices than those in it.
    have hnone : ∀ scope ∈ parent :: outer, scope.get? index = none := by
      intro scope hscope
      refine Scope.get?_of_unused fun line hl => ?_
      have hlt := h.index_lt_of_enclosing hscope hl hold
      omega
    rw [hnone parent List.mem_cons_self,Option.none_or,List.findSome?_eq_none_iff]
    exact fun scope hscope => hnone scope (List.mem_cons_of_mem _ hscope)
  | false =>
    have hnone : inner.get? index = none := by
      refine Scope.get?_of_unused fun line hl => ?_
      have hn := List.any_eq_false.mp hc line hl
      rwa [beq_iff_eq] at hn
    rw [if_neg Bool.false_ne_true,find?_eq ⟨inner, parent :: outer, next⟩,hnone,Option.none_or,
      List.findSome?_cons]
    cases parent.get? index <;> rfl

/-! ## Going on without leaving a scope -/

/-- Whether the scopes of a proof are still open in a later one. The innermost of them may have got
more lines and scopes may have been opened inside, all under new indices. -/
structure Keeps (before after : Proof) : Prop where
  /-- The later scopes are those of the earlier proof, with lines and scopes added. -/
  opened : ∃ (inner : List Scope) (added : List Line),
    after.openScopes = inner ++ ⟨before.current.lines ++ added⟩ :: before.enclosing ∧
      ∀ line ∈ inner.flatMap Scope.lines ++ added, before.nextIndex ≤ line.index
  /-- No index is given out again. -/
  nextIndex_le : before.nextIndex ≤ after.nextIndex

namespace Keeps

variable {before after : Proof} {prop : Proposition} {reason : Justification}

/-- A proof keeps its own scopes open. -/
theorem refl (proof : Proof) : Keeps proof proof where
  opened := ⟨[], [], by rw [List.append_nil]; rfl, nofun⟩
  nextIndex_le := Int.le_refl _

/-- Lines with new indices may be added to the innermost scope. -/
theorem add (h : Keeps before after) {lines : List Line} {next : Int}
    (hl : ∀ line ∈ lines, before.nextIndex ≤ line.index) (hn : after.nextIndex ≤ next) :
    Keeps before ⟨⟨after.current.lines ++ lines⟩, after.enclosing, next⟩ where
  opened := by
    obtain ⟨inner, added, ho, hnew⟩ := h.opened
    cases inner with
    | nil =>
      obtain ⟨hc, he⟩ := List.cons.inj ho
      refine ⟨[], added ++ lines, ?_, ?_⟩
      · rw [openScopes,hc,he,List.append_assoc]
        rfl
      · intro line hm
        rw [List.flatMap_nil,List.nil_append,List.mem_append] at hm
        rcases hm with hm | hm
        · exact hnew line hm
        · exact hl line hm
    | cons first rest =>
      obtain ⟨hc, he⟩ := List.cons.inj ho
      refine ⟨⟨after.current.lines ++ lines⟩ :: rest, added, ?_, ?_⟩
      · rw [openScopes,he]
        rfl
      · intro line hm
        simp only [List.flatMap_cons, List.mem_append, hc] at hm hnew
        rcases hm with ((hm | hm) | hm) | hm
        · exact hnew line (Or.inl (Or.inl hm))
        · exact hl line hm
        · exact hnew line (Or.inl (Or.inr hm))
        · exact hnew line (Or.inr hm)
  nextIndex_le := Int.le_trans h.nextIndex_le hn

/-- Adding a line keeps scopes open, whether it succeeds or not. -/
theorem addLine (h : Keeps before after) (prop : Proposition) (reason : Justification) :
    Keeps before (after.addLine prop reason).1 := by
  have hle := h.nextIndex_le
  have hn : after.nextIndex ≤ after.nextIndex + 1 := Int.le_of_lt (Int.lt_succ _)
  cases hc : after.current.contains after.nextIndex with
  | true =>
    have hs := @add _ _ h [] _ nofun hn
    rw [List.append_nil] at hs
    simpa only [Proof.addLine, Scope.insert, hc, if_true] using hs
  | false =>
    have hnew : ∀ line ∈ [Line.mk after.nextIndex prop reason], before.nextIndex ≤ line.index :=
      fun line hl => by rw [List.mem_singleton.mp hl]; exact hle
    have hs := h.add hnew hn
    simpa only [Proof.addLine, Scope.insert, hc, Bool.false_eq_true, if_false] using hs

/-- Opening a scope keeps the others open. -/
theorem assume (h : Keeps before after) (prop : Proposition) :
    Keeps before (after.assume prop).1 := by
  obtain ⟨inner, added, ho, hnew⟩ := h.opened
  have hk : Keeps before ⟨.empty, after.openScopes, after.nextIndex⟩ :=
    ⟨⟨.empty :: inner, added, by rw [openScopes,ho]; rfl, hnew⟩, h.nextIndex_le⟩
  exact hk.addLine prop .assumption

section Leaving

variable {inner parent : Scope} {outer : List Scope} {next : Int}

/-- Leaving a scope that was opened later keeps the earlier ones open. -/
theorem leave (h : Keeps before ⟨inner, parent :: outer, next⟩)
    (hd : before.depth ≤ depth ⟨parent, outer, next⟩) :
    Keeps before ⟨parent, outer, next⟩ ∧ ∀ line ∈ inner.lines, before.nextIndex ≤ line.index := by
  obtain ⟨opened, added, ho, hnew⟩ := h.opened
  cases opened with
  | nil =>
    -- The scope would be one of the earlier proof, and the depth would be too small.
    obtain ⟨-, he⟩ := List.cons.inj ho
    have hl := congrArg List.length he
    rw [List.length_cons] at hl
    rw [depth,depth] at hd
    dsimp only at hd
    omega
  | cons first rest =>
    obtain ⟨hc, he⟩ := List.cons.inj ho
    rw [List.flatMap_cons,List.append_assoc] at hnew
    refine ⟨⟨⟨rest, added, he, fun line hm => hnew line (List.mem_append_right _ hm)⟩,
      h.nextIndex_le⟩, ?_⟩
    intro line hm
    exact hnew line (List.mem_append_left _ (hc ▸ hm))

end Leaving

/-- Closing a box keeps the scopes open that are left. -/
theorem close (h : Keeps before after) (hd : before.depth ≤ after.close.1.depth) :
    Keeps before after.close.1 := by
  obtain ⟨inner, enclosing, next⟩ := after
  cases enclosing with
  | nil => exact h
  | cons parent outer =>
    rw [Proof.close] at hd ⊢
    dsimp only at hd ⊢
    cases hs : inner.toSubProof? with
    | none => exact h
    | some steps =>
      simp only [hs] at hd ⊢
      cases hi : parent.insert ⟨steps.start, .box steps, .assumption⟩ with
      | error fault =>
        simp only [hi] at hd ⊢
        exact (h.leave hd).1
      | ok scope =>
        simp only [hi] at hd ⊢
        obtain ⟨hk, hnew⟩ := h.leave hd
        rw [Scope.insert_eq_ok hi]
        refine hk.add ?_ (Int.le_refl _)
        intro line hm
        have hle := hnew steps.firstLine (Scope.firstLine_mem hs)
        rw [List.mem_singleton.mp hm]
        exact hle

/-- No operation but undoing closes a scope unless the depth gets smaller. -/
theorem perform (h : Keeps before after) {operation : Operation} (ho : operation ≠ .undo)
    (hd : before.depth ≤ (after.perform operation).1.depth) :
    Keeps before (after.perform operation).1 := by
  cases operation with
  | premise prop => exact h.addLine prop .premise
  | assume prop => exact h.assume prop
  | copy source =>
    rw [Proof.perform,Proof.copy]
    cases after.line source with
    | error cause => exact h
    | ok line => exact h.addLine line.prop (.copy source)
  | close => exact h.close hd
  | infer rule =>
    rw [Proof.perform,Proof.infer]
    cases rule.conclusion after.lookup with
    | error cause => exact h
    | ok prop => exact h.addLine prop (.inference rule)
  | undo => exact absurd rfl ho

/-- A run without undoing that never gets less deep keeps the scopes open. -/
theorem run (h : Keeps before after) {operations : List Operation}
    (hu : ∀ operation ∈ operations, operation ≠ .undo)
    (hd : ∀ front, front <+: operations → before.depth ≤ (after.run front).depth) :
    Keeps before (after.run operations) := by
  induction operations generalizing after with
  | nil => exact h
  | cons first rest ih =>
    have hf := hd [first] (List.prefix_append [first] rest)
    refine ih (h.perform (hu first List.mem_cons_self) hf)
      (fun operation ho => hu operation (List.mem_cons_of_mem _ ho)) ?_
    intro front hp
    exact hd (first :: front) (List.cons_prefix_cons.mpr ⟨rfl, hp⟩)

/-- What is visible stays visible as long as its scope is open. -/
theorem find?_eq_some (h : Keeps before after) (hw : before.WellFormed) {index : Int} {line : Line}
    (hf : before.find? index = some line) : after.find? index = some line := by
  obtain ⟨hl, rfl⟩ := hw.find?_eq_some_iff.mp hf
  have hlt := (hw.index_of_nested (mem_nested_of_mem_openLines hl)).2
  obtain ⟨inner, added, ho, hnew⟩ := h.opened
  have hunused : ∀ new ∈ inner.flatMap Scope.lines ++ added, new.index ≠ line.index := by
    intro new hn
    have hle := hnew new hn
    omega
  have hinner : (inner.findSome? fun scope => scope.get? line.index) = none := by
    rw [List.findSome?_eq_none_iff]
    intro scope hs
    refine Scope.get?_of_unused fun new hn => hunused new (List.mem_append_left _ ?_)
    exact List.mem_flatMap.mpr ⟨scope, hs, hn⟩
  have hbase : Scope.get? ⟨before.current.lines ++ added⟩ line.index =
      before.current.get? line.index := by
    have hadded : Scope.get? ⟨added⟩ line.index = none :=
      Scope.get?_of_unused fun new hn => hunused new (List.mem_append_right _ hn)
    rw [Scope.get?] at hadded
    rw [Scope.get?,List.find?_append,hadded,Option.or_none]
    rfl
  rw [find?_eq] at hf
  rw [find?,ho,List.findSome?_append,hinner,Option.none_or,List.findSome?_cons,hbase,← hf]
  cases before.current.get? line.index <;> rfl

end Keeps

/-- A rule whose conclusion is computed has the same conclusion wherever all that was visible is. -/
theorem conclusion_of_find? {before after : Proof} {rule : Rule} {prop : Proposition}
    (h : ∀ index line, before.find? index = some line → after.find? index = some line)
    (hc : rule.conclusion before.lookup = .ok prop) : rule.conclusion after.lookup = .ok prop := by
  rw [← hc]
  refine Rule.conclusion_congr fun index hi => ?_
  obtain ⟨cited, hl⟩ := (Rule.Derives.of_conclusion hc).exists_lookup index hi
  obtain ⟨line, hf, -⟩ := Option.map_eq_some_iff.mp hl
  rw [lookup,lookup,hf,h index line hf]

/-! ## The law -/

/-- How lines are visible by their indices, in a proof and as it goes on. -/
structure VisibilityLaw (proof : Proof) : Prop where
  /-- An index is visible when it has been given out and no closed box hides it. -/
  visible : ∀ index, proof.IsVisible index ↔ (1 ≤ index ∧ index < proof.nextIndex) ∧
    ∀ steps ∈ proof.closedBoxes, ¬(steps.start < index ∧ index ≤ steps.greatestIndex)
  /-- No index is in use in two open scopes. -/
  apart : proof.openScopes.Pairwise fun inner outer =>
    ∀ index, inner.contains index = true → outer.contains index = false
  /-- The open scopes may be searched in any order. -/
  anyOrder : ∀ order : List Scope, order.Perm proof.openScopes → ∀ index,
    (order.findSome? fun scope => scope.get? index) = proof.find? index
  /-- As long as nothing is undone and the proof never gets less deep, what is visible stays visible
  and every rule that applies has the same conclusion. -/
  lasting : ∀ further : List Operation, (∀ operation ∈ further, operation ≠ .undo) →
    (∀ front, front <+: further → proof.depth ≤ (proof.run front).depth) →
      (∀ index line, proof.find? index = some line → (proof.run further).find? index = some line) ∧
        ∀ (rule : Rule) (prop : Proposition), rule.conclusion proof.lookup = .ok prop →
          rule.conclusion (proof.run further).lookup = .ok prop
  /-- Closing a box shows the box under the index of its first line, hides the other lines of its
  scope and changes no other index. -/
  closing : ∀ after, proof.close = (after, .ok ()) → ∃ first steps,
    proof.current.first? = some first ∧ proof.current.toSubProof? = some steps ∧
      ∀ index, after.find? index =
        if index = first.index then some ⟨first.index, .box steps, .assumption⟩
        else if proof.current.contains index then none
        else proof.find? index

/-- A box that is closed is shown in the place of its lines. -/
theorem WellFormed.find?_of_close (h : proof.WellFormed) {after : Proof}
    (hc : proof.close = (after, .ok ())) : ∃ first steps,
      proof.current.first? = some first ∧ proof.current.toSubProof? = some steps ∧
        ∀ index, after.find? index =
          if index = first.index then some ⟨first.index, .box steps, .assumption⟩
          else if proof.current.contains index then none
          else proof.find? index := by
  obtain ⟨inner, enclosing, next⟩ := proof
  cases enclosing with
  | nil =>
    rw [close_global] at hc
    cases hc
  | cons parent outer =>
    obtain ⟨steps, hs⟩ := h.exists_subProof
    rw [h.close_box hs] at hc
    cases hc
    refine ⟨steps.firstLine, steps, ?_, hs, h.find?_close hs⟩
    rw [Scope.first?,← Scope.toSubProof?_eq_some.mp hs]
    rfl

/-- The visibility law holds after every run. -/
theorem visibilityLaw_run {operations : List Operation}
    (hb : ∀ operation ∈ operations, operation.assumesBox = false) :
    (fresh.run operations).VisibilityLaw := by
  obtain ⟨_, hg⟩ := Grown.fresh.exists_run hb
  have h := hg.wellFormed
  refine ⟨fun _ => h.isVisible_iff, h.pairwise_contains, fun _ => h.findSome?_of_perm, ?_,
    fun _ => h.find?_of_close⟩
  intro further hu hd
  have hk := (Keeps.refl (fresh.run operations)).run hu hd
  have hf := fun index line => @Keeps.find?_eq_some _ _ hk h index line
  exact ⟨hf, fun _ _ => conclusion_of_find? hf⟩

/-- The line inside a closed box is hidden while those around it are visible, and a rule that cites
two of them applies also after another box was opened and closed. -/
theorem visibilityLaw_run_of_nested_boxes :
    let p : Proposition := .symbol "p"
    let operations := [.premise p, .assume p, .assume p, .copy 1, .close, .copy 1]
    let further := [.assume p, .infer (.andI 5 6), .close]
    (∀ operation ∈ operations, operation.assumesBox = false) ∧
      (fresh.run operations).VisibilityLaw ∧
      (fresh.run operations).IsVisible 3 ∧ ¬(fresh.run operations).IsVisible 4 ∧
      (fresh.run operations).IsVisible 5 ∧ ¬(fresh.run operations).IsVisible 6 ∧
      (Rule.andI 2 5).conclusion ((fresh.run operations).run further).lookup =
        .ok (.and p p) := by
  intro p operations further
  have hb : ∀ operation ∈ operations, operation.assumesBox = false := by decide
  have hl := visibilityLaw_run hb
  have hd : ∀ front, front <+: further →
      (fresh.run operations).depth ≤ ((fresh.run operations).run front).depth := by
    intro front hp
    rw [← List.mem_inits] at hp
    revert front
    decide +kernel
  refine ⟨hb, hl, ⟨_, rfl⟩, ?_, ⟨_, rfl⟩, ?_, ?_⟩
  · rw [hl.visible]
    decide +kernel
  · rw [hl.visible]
    decide +kernel
  · exact (hl.lasting further (by decide) hd).2 _ _ rfl

end Proof

end BoxedDeduction
