import BoxedDeduction.Proofs.Proof.Run
import Mathlib.Data.List.Nodup

/-!
# Where the lines of a proof stand

A line of a proof stands in one of the open scopes, at whatever depth of closed boxes. The lines in
the innermost scope have higher indices than those around it, and its first line is plain. So no
index begins two closed boxes, and a box that has just been closed is around the lines of its
scope and around no others.
-/

namespace BoxedDeduction

/-! ## Induction over lines -/

mutual

/-- The line that states a proposition is reached after the lines inside it. -/
theorem Proposition.lineInduction {motive : Line → Prop}
    (plain : ∀ line, line.closedBox? = none → motive line)
    (box : ∀ line steps, line.closedBox? = some steps → (∀ inner ∈ steps.toList, motive inner) →
      motive line) (index : Int) (reason : Justification) :
    ∀ prop : Proposition, motive ⟨index, prop, reason⟩
  | .box steps => by
    by_cases hr : reason = .assumption
    · exact box _ steps (Line.closedBox?_eq_some.mpr ⟨rfl, hr⟩) (steps.lineInduction plain box)
    · exact plain _ (Line.closedBox?_eq_none.mpr (Or.inl hr))
  | .bottom | .symbol _ | .and _ _ | .or _ _ | .imply _ _ =>
    plain _ (Line.closedBox?_eq_none.mpr (Or.inr rfl))

/-- The lines of a sub-proof are reached after the lines inside them. -/
theorem SubProof.lineInduction {motive : Line → Prop}
    (plain : ∀ line, line.closedBox? = none → motive line)
    (box : ∀ line steps, line.closedBox? = some steps → (∀ inner ∈ steps.toList, motive inner) →
      motive line) : ∀ steps : SubProof, ∀ inner ∈ steps.toList, motive inner
  | .last index prop reason => by
    intro inner hi
    rw [List.mem_singleton.mp hi]
    exact prop.lineInduction plain box index reason
  | .more index prop reason rest => by
    intro inner hi
    rcases List.mem_cons.mp hi with rfl | hi
    · exact prop.lineInduction plain box index reason
    · exact rest.lineInduction plain box inner hi

end

namespace Line

/-- What holds of plain lines, and of the line of a closed box when it holds of the lines of the
box, holds of every line. -/
theorem boxInduction {motive : Line → Prop}
    (plain : ∀ line, line.closedBox? = none → motive line)
    (box : ∀ line steps, line.closedBox? = some steps → (∀ inner ∈ steps.toList, motive inner) →
      motive line) (line : Line) : motive line :=
  line.prop.lineInduction plain box line.index line.reason

/-- What holds of no lines, and passes from the later lines to a plain line in front of them and from
the lines of a closed box and the later ones to the line of the box in front, holds of all lines. -/
theorem listInduction {motive : List Line → Prop} (nil : motive [])
    (plain : ∀ line later, line.closedBox? = none → motive later → motive (line :: later))
    (box : ∀ line steps later, line.closedBox? = some steps → motive steps.toList →
      motive later → motive (line :: later)) (lines : List Line) : motive lines := by
  -- The lines of a box are a list again, so what passes to each line has to reach whole lists.
  have hall : ∀ given : List Line,
      (∀ line ∈ given, ∀ later, motive later → motive (line :: later)) → motive given := by
    intro given
    induction given with
    | nil => exact fun _ => nil
    | cons first rest ih =>
      intro h
      exact h first List.mem_cons_self rest (ih fun line hl => h line (List.mem_cons_of_mem _ hl))
  have hline : ∀ line : Line, ∀ later, motive later → motive (line :: later) := by
    intro line
    induction line using boxInduction with
    | plain line hp => exact fun later => plain line later hp
    | box line steps hb ih => exact fun later => box line steps later hb (hall _ ih)
  exact hall lines fun line _ => hline line

/-- What is inside a line inside another one is inside that one. -/
theorem nested_subset {outer inner : Line} (h : inner ∈ outer.nested) :
    inner.nested ⊆ outer.nested := by
  induction outer using boxInduction with
  | plain outer hp =>
    rw [nested_of_plain hp] at h
    rw [List.mem_singleton.mp h]
    exact fun _ hm => hm
  | box outer steps hb ih =>
    rw [nested_of_closedBox hb] at h
    rcases List.mem_cons.mp h with rfl | h
    · exact fun _ hm => hm
    · obtain ⟨line, hl, hi⟩ := List.mem_flatMap.mp h
      intro deep hd
      rw [nested_of_closedBox hb]
      exact List.mem_cons_of_mem _ (List.mem_flatMap.mpr ⟨line, hl, ih line hl hi hd⟩)

end Line

/-! ## Lines inside given lines -/

section Inside

variable {lines : List Line} {line inner : Line} {steps : SubProof}

/-- What is inside a line inside given lines is inside these. -/
theorem nested_subset_of_mem_flatMap (h : line ∈ lines.flatMap Line.nested) :
    line.nested ⊆ lines.flatMap Line.nested := by
  obtain ⟨outer, ho, hl⟩ := List.mem_flatMap.mp h
  intro deep hd
  exact List.mem_flatMap.mpr ⟨outer, ho, Line.nested_subset hl hd⟩

/-- What is inside a closed box is inside its line. -/
theorem SubProof.nestedLines_subset (h : line.closedBox? = some steps) :
    steps.nestedLines ⊆ line.nested := by
  rw [Line.nested_of_closedBox h,SubProof.nestedLines_eq]
  exact fun _ hm => List.mem_cons_of_mem _ hm

/-- The expanded lines are the plain ones among the lines inside given lines. -/
theorem flatMap_expanded (lines : List Line) : lines.flatMap Line.expanded =
    (lines.flatMap Line.nested).filter fun inner => !inner.isClosedBox := by
  rw [List.filter_flatMap]
  rfl

/-- The index of a line inside given lines is that of an expanded line. -/
theorem index_mem_expanded_of_nested (hb : ∀ line ∈ lines.flatMap Line.nested, ∀ steps,
      line.closedBox? = some steps → line.index = steps.start ∧ StartsWithAssumption steps.toList)
    (hl : line ∈ lines.flatMap Line.nested) :
    line.index ∈ (lines.flatMap Line.expanded).map Line.index := by
  obtain ⟨plain, hp, he⟩ := List.mem_map.mp (Line.index_mem_expanded (hb line hl))
  refine List.mem_map.mpr ⟨plain, ?_, he⟩
  obtain ⟨hn, hc⟩ := List.mem_filter.mp hp
  rw [flatMap_expanded]
  exact List.mem_filter.mpr ⟨nested_subset_of_mem_flatMap hl hn, hc⟩

end Inside

namespace Proof

/-- The closed boxes of a proof, at every depth. -/
def closedBoxes (proof : Proof) : List SubProof := proof.nested.filterMap Line.closedBox?

variable {proof : Proof} {prop : Proposition} {reason : Justification} {line : Line}
  {steps : SubProof}

/-- A closed box of a proof has a line somewhere in the proof. -/
theorem mem_closedBoxes :
    steps ∈ proof.closedBoxes ↔ ∃ line ∈ proof.nested, line.closedBox? = some steps :=
  List.mem_filterMap

/-- The lines of a proof are those inside the lines of its scopes. -/
theorem nested_eq_flatMap (proof : Proof) :
    proof.nested = (proof.scopes.flatMap Scope.lines).flatMap Line.nested := by
  rw [nested,List.flatMap_assoc]
  rfl

/-- The expanded lines of a proof are those of the lines of its scopes. -/
theorem expanded_eq_flatMap (proof : Proof) :
    proof.expanded = (proof.scopes.flatMap Scope.lines).flatMap Line.expanded := by
  rw [expanded,List.flatMap_assoc]
  rfl

/-- The expanded lines are the plain lines of a proof. -/
theorem mem_expanded : line ∈ proof.expanded ↔ line ∈ proof.nested ∧ line.closedBox? = none := by
  rw [expanded_eq_flatMap,flatMap_expanded,← nested_eq_flatMap,List.mem_filter,Bool.not_eq_true',
    Line.isClosedBox_eq_false]

/-- The lines inside a closed box are lines of the proof. -/
theorem nestedLines_subset (h : steps ∈ proof.closedBoxes) :
    steps.nestedLines ⊆ proof.nested := by
  obtain ⟨outer, ho, hb⟩ := mem_closedBoxes.mp h
  rw [nested_eq_flatMap] at ho ⊢
  exact fun _ hm => nested_subset_of_mem_flatMap ho (SubProof.nestedLines_subset hb hm)

namespace WellFormed

/-- The index of a line has been given out, at whatever depth the line stands. -/
theorem index_of_nested (h : proof.WellFormed) (hl : line ∈ proof.nested) :
    1 ≤ line.index ∧ line.index < proof.nextIndex := by
  have hb := h.boxed
  rw [nested_eq_flatMap] at hl hb
  have hm := index_mem_expanded_of_nested hb hl
  rwa [← expanded_eq_flatMap,h.numbered,mem_indicesBelow] at hm

/-- No line stands under the next index yet. -/
theorem next_notMem_nested (h : proof.WellFormed) (prop : Proposition) (reason : Justification) :
    ⟨proof.nextIndex, prop, reason⟩ ∉ proof.nested := by
  intro hm
  exact Int.lt_irrefl _ (h.index_of_nested hm).2

/-- A closed box begins with the plain line under its index. -/
theorem firstLine_of_closedBox (h : proof.WellFormed) (hl : line ∈ proof.nested)
    (hb : line.closedBox? = some steps) :
    line.index = steps.start ∧ steps.firstLine.closedBox? = none := by
  obtain ⟨hi, -, hf, -⟩ := h.boxed line hl steps hb
  exact ⟨hi, Line.closedBox?_eq_none.mpr (Or.inr hf)⟩

/-- The index under which a closed box begins has been given out. -/
theorem start_lt_of_mem_closedBoxes (h : proof.WellFormed) (hm : steps ∈ proof.closedBoxes) :
    steps.start < proof.nextIndex := by
  obtain ⟨line, hl, hb⟩ := mem_closedBoxes.mp hm
  rw [← (h.firstLine_of_closedBox hl hb).1]
  exact (h.index_of_nested hl).2

end WellFormed

/-! ## The innermost scope among the others -/

/-- A line that opens no box adds no closed box. -/
theorem closedBoxes_extend (hr : reason ≠ .assumption) :
    (proof.extend prop reason).closedBoxes = proof.closedBoxes := by
  have hp : (Line.mk proof.nextIndex prop reason).closedBox? = none :=
    Line.closedBox?_eq_none.mpr (Or.inl hr)
  rw [closedBoxes,nested_extend hr,List.filterMap_append,List.filterMap_cons_none hp,
    List.filterMap_nil,List.append_nil,closedBoxes]

/-- The assumption of a new box adds no closed box. -/
theorem closedBoxes_openBox (hp : prop.isBox = false) :
    (proof.openBox prop).closedBoxes = proof.closedBoxes := by
  have hl : (Line.mk proof.nextIndex prop .assumption).closedBox? = none :=
    Line.closedBox?_eq_none.mpr (Or.inr hp)
  rw [closedBoxes,nested_openBox hp,List.filterMap_append,List.filterMap_cons_none hl,
    List.filterMap_nil,List.append_nil,closedBoxes]

section Closing

variable {inner parent : Scope} {outer : List Scope} {next : Int}

/-- The lines of the innermost scope come after those around it. -/
theorem nested_inner : nested ⟨inner, parent :: outer, next⟩ =
    nested ⟨parent, outer, next⟩ ++ inner.nested := by
  rw [nested_eq,nested_eq,List.reverse_cons,List.flatMap_append,List.flatMap_singleton]

/-- A box that is closed stands between the lines around it and those inside it. -/
theorem nested_close (hs : inner.toSubProof? = some steps) :
    nested ⟨parent.append steps.boxLine, outer, next⟩ =
      nested ⟨parent, outer, next⟩ ++ steps.boxLine :: inner.nested := by
  have hb := Line.nested_of_closedBox steps.closedBox?_boxLine
  rw [Scope.toSubProof?_eq_some.mp hs] at hb
  rw [nested_eq,nested_eq,Scope.nested_append,hb,List.append_assoc]
  rfl

/-- The lines inside a box that is closed are those of its scope. -/
theorem nestedLines_of_toSubProof? (hs : inner.toSubProof? = some steps) :
    steps.nestedLines = inner.nested := by
  rw [SubProof.nestedLines_eq,Scope.toSubProof?_eq_some.mp hs,Scope.nested]

/-- The closed boxes before a box is closed. -/
theorem closedBoxes_inner : closedBoxes ⟨inner, parent :: outer, next⟩ =
    closedBoxes ⟨parent, outer, next⟩ ++ inner.nested.filterMap Line.closedBox? := by
  rw [closedBoxes,nested_inner,List.filterMap_append,closedBoxes]

/-- Closing a box adds it to the closed boxes. -/
theorem closedBoxes_close (hs : inner.toSubProof? = some steps) :
    closedBoxes ⟨parent.append steps.boxLine, outer, next⟩ =
      closedBoxes ⟨parent, outer, next⟩ ++ steps :: inner.nested.filterMap Line.closedBox? := by
  rw [closedBoxes,nested_close hs,List.filterMap_append,
    List.filterMap_cons_some steps.closedBox?_boxLine,closedBoxes]

/-- The closed boxes after a box was closed are the box and those before. -/
theorem mem_closedBoxes_close (hs : inner.toSubProof? = some steps) {box : SubProof} :
    box ∈ closedBoxes ⟨parent.append steps.boxLine, outer, next⟩ ↔
      box = steps ∨ box ∈ closedBoxes ⟨inner, parent :: outer, next⟩ := by
  rw [closedBoxes_close hs,closedBoxes_inner]
  simp only [List.mem_append, List.mem_cons, or_left_comm]

/-- The expanded lines of the innermost scope come after those around it. -/
theorem expanded_inner : expanded ⟨inner, parent :: outer, next⟩ =
    expanded ⟨parent, outer, next⟩ ++ inner.expanded := by
  rw [expanded_eq,expanded_eq,List.reverse_cons,List.flatMap_append,List.flatMap_singleton]

/-- The first line of the innermost box is plain. -/
theorem WellFormed.closedBox?_firstLine (h : WellFormed ⟨inner, parent :: outer, next⟩)
    (hs : inner.toSubProof? = some steps) : steps.firstLine.closedBox? = none := by
  have ho := h.opened
  rw [scopes_eq] at ho
  rcases openedInOrder_concat.mp ho with ⟨hn, -⟩ | ⟨-, hi⟩
  · exact absurd hn (by simp)
  · rw [← Scope.toSubProof?_eq_some.mp hs] at hi
    exact Line.closedBox?_eq_none.mpr (Or.inr hi.2.1)

/-- The expanded lines of the innermost box are its first line and the later ones. -/
theorem WellFormed.expanded_innermost (h : WellFormed ⟨inner, parent :: outer, next⟩)
    (hs : inner.toSubProof? = some steps) :
    inner.expanded = steps.firstLine :: steps.laterLines.flatMap Line.expanded := by
  have hf := Line.expanded_of_plain (h.closedBox?_firstLine hs)
  rw [Scope.expanded,← Scope.toSubProof?_eq_some.mp hs,SubProof.toList,List.flatMap_cons,hf]
  rfl

/-- The lines around the innermost box have lower indices than its lines, at whatever depth they
stand. -/
theorem WellFormed.index_lt_start (h : WellFormed ⟨inner, parent :: outer, next⟩)
    (hs : inner.toSubProof? = some steps) (hl : line ∈ nested ⟨parent, outer, next⟩) :
    line.index < steps.start := by
  have hp := h.pairwise_expanded
  rw [expanded_inner,List.map_append,List.pairwise_append,h.expanded_innermost hs] at hp
  refine hp.2.2 _ ?_ _ List.mem_cons_self
  have hb := h.boxed
  rw [nested_inner] at hb
  have hb' := fun other ho => hb other (List.mem_append_left _ ho)
  rw [nested_eq_flatMap] at hl hb'
  rw [expanded_eq_flatMap]
  exact index_mem_expanded_of_nested hb' hl

/-- After its first line the innermost box holds only lines with higher indices, at whatever depth
they stand. -/
theorem WellFormed.eq_firstLine_or_start_lt (h : WellFormed ⟨inner, parent :: outer, next⟩)
    (hs : inner.toSubProof? = some steps) (hl : line ∈ inner.nested) :
    line = steps.firstLine ∨ steps.start < line.index := by
  have hp := h.pairwise_expanded
  rw [expanded_inner,List.map_append,List.pairwise_append,h.expanded_innermost hs,List.map_cons,
    List.pairwise_cons] at hp
  have hn : inner.nested = steps.firstLine :: steps.laterLines.flatMap Line.nested := by
    have hf := Line.nested_of_plain (h.closedBox?_firstLine hs)
    rw [Scope.nested,← Scope.toSubProof?_eq_some.mp hs,SubProof.toList,List.flatMap_cons,hf]
    rfl
  rw [hn] at hl
  rcases List.mem_cons.mp hl with rfl | hl
  · exact Or.inl rfl
  · refine Or.inr (hp.2.1.1 _ (index_mem_expanded_of_nested ?_ hl))
    intro other ho
    refine h.boxed other ?_
    rw [nested_inner,hn]
    exact List.mem_append_right _ (List.mem_cons_of_mem _ ho)

/-- The lines of the innermost box have at least the index of its first line. -/
theorem WellFormed.start_le (h : WellFormed ⟨inner, parent :: outer, next⟩)
    (hs : inner.toSubProof? = some steps) (hl : line ∈ inner.nested) :
    steps.start ≤ line.index := by
  rcases h.eq_firstLine_or_start_lt hs hl with rfl | hlt
  · exact Int.le_refl _
  · exact Int.le_of_lt hlt

/-- No closed box begins where an open one does. -/
theorem WellFormed.start_ne_of_mem_closedBoxes (h : WellFormed ⟨inner, parent :: outer, next⟩)
    (hs : inner.toSubProof? = some steps) {box : SubProof}
    (hm : box ∈ closedBoxes ⟨inner, parent :: outer, next⟩) : box.start ≠ steps.start := by
  obtain ⟨line, hl, hb⟩ := mem_closedBoxes.mp hm
  obtain ⟨hi, -⟩ := h.firstLine_of_closedBox hl hb
  rw [← hi]
  rw [nested_inner] at hl
  rcases List.mem_append.mp hl with hl | hl
  · exact Int.ne_of_lt (h.index_lt_start hs hl)
  · rcases h.eq_firstLine_or_start_lt hs hl with rfl | hlt
    · rw [h.closedBox?_firstLine hs] at hb
      cases hb
    · exact Int.ne_of_gt hlt

/-- An open box has no line of its own yet. -/
theorem WellFormed.boxLine_notMem_nested (h : WellFormed ⟨inner, parent :: outer, next⟩)
    (hs : inner.toSubProof? = some steps) :
    steps.boxLine ∉ nested ⟨inner, parent :: outer, next⟩ := by
  intro hm
  exact h.start_ne_of_mem_closedBoxes hs (mem_closedBoxes.mpr ⟨_, hm, rfl⟩) rfl

end Closing

/-! ## Proofs that grew -/

variable {history : List Proof}

/-- No two closed boxes begin under the same index. -/
theorem Grown.nodup_starts (h : Grown history proof) :
    (proof.closedBoxes.map SubProof.start).Nodup := by
  induction h with
  | fresh => exact List.nodup_nil
  | extend _ hj ih => rwa [closedBoxes_extend hj.reason_ne]
  | openBox _ hp ih => rwa [closedBoxes_openBox hp]
  | close h hs ih =>
    rw [closedBoxes_close hs,List.map_append,List.map_cons,List.nodup_middle,← List.map_append,
      ← closedBoxes_inner,List.nodup_cons]
    refine ⟨?_, ih⟩
    rw [List.mem_map]
    rintro ⟨box, hm, he⟩
    exact h.wellFormed.start_ne_of_mem_closedBoxes hs hm he

/-- No closed box begins under the index of a plain line of an open scope. -/
theorem Grown.start_ne_of_plain (h : Grown history proof) {scope : Scope}
    (ho : scope ∈ proof.openScopes) (hl : line ∈ scope.lines) (hp : line.closedBox? = none) :
    ∀ box ∈ proof.closedBoxes, box.start ≠ line.index := by
  induction h generalizing scope with
  | fresh => exact fun _ hb => absurd hb List.not_mem_nil
  | @extend _ proof prop reason h hj ih =>
    rw [closedBoxes_extend hj.reason_ne]
    rcases List.mem_cons.mp ho with rfl | ho
    · rcases List.mem_append.mp hl with hl | hl
      · exact ih List.mem_cons_self hl
      · rw [List.mem_singleton.mp hl]
        exact fun _ hb => Int.ne_of_lt (h.wellFormed.start_lt_of_mem_closedBoxes hb)
    · exact ih (List.mem_cons_of_mem _ ho) hl
  | openBox h hb ih =>
    rw [closedBoxes_openBox hb]
    rcases List.mem_cons.mp ho with rfl | ho
    · rw [List.mem_singleton.mp hl]
      exact fun _ hb => Int.ne_of_lt (h.wellFormed.start_lt_of_mem_closedBoxes hb)
    · exact ih ho hl
  | @close _ inner parent outer next steps h hs ih =>
    -- The lines around the box have lower indices than its first line, and those in it are hidden.
    have hold : ∀ {around : Scope}, around ∈ parent :: outer → line ∈ around.lines →
        ∀ box ∈ closedBoxes ⟨parent.append steps.boxLine, outer, next⟩, box.start ≠ line.index := by
      intro around ha hl box hb
      rcases (mem_closedBoxes_close hs).mp hb with rfl | hb
      · exact Int.ne_of_gt (h.wellFormed.index_lt_of_enclosing ha hl (Scope.firstLine_mem hs))
      · exact ih (List.mem_cons_of_mem _ ha) hl box hb
    rcases List.mem_cons.mp ho with rfl | ho
    · rcases List.mem_append.mp hl with hl | hl
      · exact hold List.mem_cons_self hl
      · rw [List.mem_singleton.mp hl,steps.closedBox?_boxLine] at hp
        cases hp
    · exact hold (List.mem_cons_of_mem _ ho) hl

end Proof

end BoxedDeduction
