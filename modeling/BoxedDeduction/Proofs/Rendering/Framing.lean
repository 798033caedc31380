import BoxedDeduction.Proofs.Proof.Visibility
import BoxedDeduction.Rendering.Frames

/-!
# What is drawn of a proof

A drawing lists rows and frames from top to bottom, and while the proof grows, what is drawn grows
at its end: a line adds its row, a new box its opening frame in front of the row of its assumption,
and closing a box adds nothing but the closing frame. So the rows are the plain lines in the order
of their indices, each at its level of nesting. A closed box has its two frames around its rows, an
open one has only the first of them, and there are no other frames.
-/

namespace BoxedDeduction

/-! ## Rows and frames -/

namespace FrameItem

/-- The line of a row with its level of nesting. -/
def row? : FrameItem → Option (Nat × Line)
  | .row level line => some (level, line)
  | .opening _ | .closing _ => none

/-- The level of nesting of a row or of the rows in a frame. -/
def level : FrameItem → Nat
  | .opening level | .closing level | .row level _ => level

/-- Whether what is drawn is an opening frame. -/
def isOpening : FrameItem → Bool
  | .opening _ => true
  | .closing _ | .row _ _ => false

/-- Whether what is drawn is a closing frame. -/
def isClosing : FrameItem → Bool
  | .closing _ => true
  | .opening _ | .row _ _ => false

/-- The lines of the rows with their levels of nesting, from top to bottom. -/
def rows (items : List FrameItem) : List (Nat × Line) := items.filterMap row?

end FrameItem

/-- Whether given items are rows at a level of nesting and boxes between their two frames, in which
the same holds one level deeper. -/
inductive Framed : Nat → List FrameItem → Prop where
  /-- Nothing is drawn. -/
  | nil {level : Nat} : Framed level []
  /-- A row is drawn at the level. -/
  | row {level : Nat} {line : Line} {later : List FrameItem} (h : Framed level later) :
    Framed level (.row level line :: later)
  /-- A box is drawn between two frames. -/
  | box {level : Nat} {inside later : List FrameItem} (hi : Framed (level + 1) inside)
    (h : Framed level later) :
    Framed level (.opening (level + 1) :: inside ++ .closing (level + 1) :: later)

/-- What is drawn for lines at a level of nesting. -/
def lineItems (level : Nat) (lines : List Line) : List FrameItem :=
  lines.flatMap fun line => line.prop.frameItems level line.index line.reason

/-- Whether a closed box is drawn between two frames. Its first line is directly below the first of
them, and there are no other rows than those of its lines between them. -/
def BoxDrawn (items : List FrameItem) (steps : SubProof) : Prop :=
  ∃ before inside after level,
    items = before ++ .opening level :: inside ++ .closing level :: after ∧ Framed level inside ∧
      inside.head? = some (.row level steps.firstLine) ∧
      (FrameItem.rows inside).map Prod.snd = steps.toList.flatMap Line.expanded

/-- Whether an open scope is drawn below an opening frame. Its first line is directly below the
frame, and behind its last line nothing but the frame of the next scope follows. -/
def ScopeDrawn (items : List FrameItem) (level : Nat) (scope : Scope) : Prop :=
  ∃ before own later first,
    items = before ++ .opening level :: own ++ later ∧ Framed level own ∧
      scope.first? = some first ∧ own.head? = some (.row level first) ∧
      (FrameItem.rows own).map Prod.snd = scope.expanded ∧
      ∀ item ∈ later.head?, item = .opening (level + 1)

/-- A box that was drawn stays as it is when more is drawn. -/
theorem BoxDrawn.append {items : List FrameItem} {steps : SubProof} (h : BoxDrawn items steps)
    (more : List FrameItem) : BoxDrawn (items ++ more) steps := by
  obtain ⟨before, inside, after, level, rfl, hrest⟩ := h
  refine ⟨before, inside, after ++ more, level, ?_, hrest⟩
  simp only [List.append_assoc, List.cons_append]

/-- What is drawn for scopes, each of which is open inside the one before, when the first of them is
at a level of nesting. The global scope, at level zero, has no frame. -/
def scopeItems : Nat → List Scope → List FrameItem
  | _, [] => []
  | level, scope :: inner =>
    (if level = 0 then [] else [.opening level]) ++ lineItems level scope.lines ++
      scopeItems (level + 1) inner

/-- Scopes are drawn one after the other. -/
theorem scopeItems_append (level : Nat) (front back : List Scope) :
    scopeItems level (front ++ back) =
      scopeItems level front ++ scopeItems (level + front.length) back := by
  induction front generalizing level with
  | nil => rfl
  | cons scope inner ih =>
    rw [List.cons_append,scopeItems,scopeItems,ih,List.length_cons,Nat.add_assoc,Nat.add_comm 1]
    simp only [List.append_assoc]

/-- A nested scope is drawn below its opening frame. -/
theorem scopeItems_nested {level : Nat} (h : 0 < level) (scope : Scope) (inner : List Scope) :
    scopeItems level (scope :: inner) =
      .opening level :: lineItems level scope.lines ++ scopeItems (level + 1) inner := by
  rw [scopeItems,if_neg (Nat.ne_of_gt h)]
  rfl

/-- Lines that begin with an assumption begin with a plain line. -/
theorem StartsWithAssumption.exists_first {lines : List Line} (h : StartsWithAssumption lines) :
    ∃ first later, lines = first :: later ∧ first.closedBox? = none := by
  cases lines with
  | nil => exact h.elim
  | cons first later =>
    exact ⟨first, later, rfl, Line.closedBox?_eq_none.mpr (Or.inr h.2.1)⟩

/-! ## Lines at one level -/

section Lines

variable {line : Line} {steps : SubProof} {lines later : List Line} {level : Nat}

/-- A sub-proof is drawn line by line. -/
theorem SubProof.frameItems_eq (steps : SubProof) (level : Nat) :
    steps.frameItems level = lineItems level steps.toList := by
  induction steps using chainInduction with
  | last index prop reason =>
    rw [frameItems,toList,firstLine,laterLines,lineItems,List.flatMap_singleton]
  | more index prop reason rest ih =>
    rw [frameItems,ih]
    rfl

/-- A plain line is drawn as its row. -/
theorem lineItems_plain (h : line.closedBox? = none) :
    lineItems level (line :: later) = .row level line :: lineItems level later := by
  obtain ⟨index, prop, reason⟩ := line
  have hp := Line.closedBox?_eq_none.mp h
  cases prop <;> simp_all [lineItems, Proposition.frameItems, Proposition.isBox]

/-- A closed box is drawn as its lines between two frames. -/
theorem lineItems_box (h : line.closedBox? = some steps) : lineItems level (line :: later) =
    .opening (level + 1) :: lineItems (level + 1) steps.toList ++
      .closing (level + 1) :: lineItems level later := by
  obtain ⟨index, prop, reason⟩ := line
  obtain ⟨rfl, rfl⟩ := Line.closedBox?_eq_some.mp h
  simp only [lineItems, List.flatMap_cons, Proposition.frameItems, if_true, steps.frameItems_eq,
    List.cons_append, List.append_assoc, List.nil_append]

/-- Lines are drawn as rows and boxes between frames. -/
theorem framed_lineItems (lines : List Line) (level : Nat) :
    Framed level (lineItems level lines) := by
  induction lines using Line.listInduction generalizing level with
  | nil => exact .nil
  | plain line later hp ih =>
    rw [lineItems_plain hp]
    exact (ih level).row
  | box line steps later hb hs ih =>
    rw [lineItems_box hb]
    exact (hs (level + 1)).box (ih level)

/-- The rows that are drawn for lines are the plain lines in their order. -/
theorem rows_lineItems (lines : List Line) (level : Nat) :
    (FrameItem.rows (lineItems level lines)).map Prod.snd = lines.flatMap Line.expanded := by
  induction lines using Line.listInduction generalizing level with
  | nil => rfl
  | plain line later hp ih =>
    rw [lineItems_plain hp,List.flatMap_cons,Line.expanded_of_plain hp,← ih level]
    rfl
  | box line steps later hb hs ih =>
    rw [lineItems_box hb,List.flatMap_cons,Line.expanded_of_closedBox hb,← hs (level + 1),
      ← ih level,FrameItem.rows,List.filterMap_append,List.map_append]
    rfl

end Lines

namespace Proof

variable {history : List Proof} {proof : Proof} {prop : Proposition} {reason : Justification}

/-- What is drawn for all open scopes, their lines in the order of insertion. -/
def drawnItems (proof : Proof) : List FrameItem := scopeItems 0 proof.scopes

/-- The plain lines of a proof in their order, each with the number of the open scopes around it,
the global scope left out, and of the closed boxes around it. -/
def levelledLines (proof : Proof) : List (Nat × Line) :=
  (proof.placedLines.filter fun placed => !placed.1.isClosedBox).map fun placed =>
    (placed.2 + proof.boxesAround placed.1, placed.1)

/-- The indices under which the closed boxes begin and then those under which the nested open scopes
do. -/
def boxStarts (proof : Proof) : List Int :=
  proof.closedBoxes.map SubProof.start ++ (proof.scopes.tail.filterMap Scope.first?).map Line.index

/-- Open scopes of a well-formed proof are drawn in the order in which their lines were inserted. -/
theorem WellFormed.flatMap_frameItems (h : proof.WellFormed) {scopes : List Scope}
    (ho : scopes ⊆ proof.openScopes) (first : Nat) :
    (scopes.zipIdx first).flatMap (fun placed => placed.1.frameItems placed.2) =
      scopeItems first scopes := by
  induction scopes generalizing first with
  | nil => rfl
  | cons scope inner ih =>
    have hsorted := h.sorted_eq (ho List.mem_cons_self)
    rw [List.zipIdx_cons,List.flatMap_cons,scopeItems,
      ih (fun _ hm => ho (List.mem_cons_of_mem _ hm)) (first + 1)]
    dsimp only
    rw [Scope.frameItems,hsorted,lineItems]

/-- A well-formed proof is drawn in the order in which its lines were inserted. -/
theorem WellFormed.frameItems_eq (h : proof.WellFormed) : proof.frameItems = proof.drawnItems :=
  h.flatMap_frameItems (fun _ hm => List.mem_reverse.mp hm) 0

/-! ## How a drawing grows -/

/-- A line at the end of the innermost scope is drawn last. -/
theorem drawnItems_append (scope : Scope) (outer : List Scope) (next later : Int) (line : Line) :
    drawnItems ⟨scope.append line, outer, later⟩ =
      drawnItems ⟨scope, outer, next⟩ ++ lineItems outer.length [line] := by
  rw [drawnItems,drawnItems,scopes_eq,scopes_eq,scopeItems_append,scopeItems_append]
  simp only [scopeItems, Scope.append, lineItems, List.flatMap_append, List.append_nil,
    List.append_assoc, List.length_reverse, Nat.zero_add]

/-- A line that opens no box adds its row. -/
theorem drawnItems_extend (hr : reason ≠ .assumption) : (proof.extend prop reason).drawnItems =
    proof.drawnItems ++ [.row proof.enclosing.length ⟨proof.nextIndex, prop, reason⟩] := by
  have hp : Line.closedBox? ⟨proof.nextIndex, prop, reason⟩ = none :=
    Line.closedBox?_eq_none.mpr (Or.inl hr)
  rw [extend,drawnItems_append proof.current proof.enclosing proof.nextIndex,lineItems_plain hp]
  rfl

section Closing

variable {inner parent : Scope} {outer : List Scope} {next : Int} {steps : SubProof}

/-- The innermost scope is drawn below its opening frame. -/
theorem drawnItems_inner : drawnItems ⟨inner, parent :: outer, next⟩ =
    drawnItems ⟨parent, outer, next⟩ ++
      .opening (outer.length + 1) :: lineItems (outer.length + 1) inner.lines := by
  have hs : scopes ⟨inner, parent :: outer, next⟩ = scopes ⟨parent, outer, next⟩ ++ [inner] :=
    scopes_eq _
  have hl : 0 + (scopes ⟨parent, outer, next⟩).length = outer.length + 1 := by
    rw [Nat.zero_add,scopes,List.length_reverse]
    rfl
  rw [drawnItems,hs,scopeItems_append,hl,scopeItems_nested (Nat.succ_pos _),scopeItems,
    List.append_nil,drawnItems]

/-- Closing a box adds its closing frame. -/
theorem drawnItems_close (hs : inner.toSubProof? = some steps) :
    drawnItems ⟨parent.append steps.boxLine, outer, next⟩ =
      drawnItems ⟨inner, parent :: outer, next⟩ ++ [.closing (outer.length + 1)] := by
  rw [drawnItems_append parent outer next,lineItems_box steps.closedBox?_boxLine,drawnItems_inner,
    Scope.toSubProof?_eq_some.mp hs,List.append_assoc]
  rfl

end Closing

/-- A new box adds its opening frame and the row of its assumption. -/
theorem drawnItems_openBox (hp : prop.isBox = false) : (proof.openBox prop).drawnItems =
    proof.drawnItems ++ [.opening proof.openScopes.length,
      .row proof.openScopes.length ⟨proof.nextIndex, prop, .assumption⟩] := by
  have hl : Line.closedBox? ⟨proof.nextIndex, prop, .assumption⟩ = none :=
    Line.closedBox?_eq_none.mpr (Or.inr hp)
  rw [openBox,openScopes,drawnItems_inner,lineItems_plain hl]
  rfl

/-! ## Levels of nesting -/

/-- A plain line that is placed last, in no closed box, is at the level of its scope. -/
theorem levelledLines_concat {after : Proof} {line : Line} {level : Nat}
    (hp : after.placedLines = proof.placedLines ++ [(line, level)])
    (hb : ∀ other, after.boxesAround other = proof.boxesAround other)
    (hl : line.closedBox? = none) (hn : line ∉ proof.nested) :
    after.levelledLines = proof.levelledLines ++ [(level, line)] := by
  have hc := Line.isClosedBox_eq_false.mpr hl
  rw [levelledLines,hp,List.filter_append,List.map_append,
    List.filter_cons_of_pos (by rw [hc]; rfl)]
  simp only [hb, List.filter_nil, List.map_cons, List.map_nil, boxesAround_of_notMem hn,
    Nat.add_zero, levelledLines]

/-- A line that opens no box is at the level of the innermost scope. -/
theorem Grown.levelledLines_extend (h : Grown history proof) (hr : reason ≠ .assumption) :
    (proof.extend prop reason).levelledLines = proof.levelledLines ++
      [(proof.enclosing.length, ⟨proof.nextIndex, prop, reason⟩)] :=
  levelledLines_concat (placedLines_extend hr) (fun _ => boxesAround_extend hr)
    (Line.closedBox?_eq_none.mpr (Or.inl hr)) (h.wellFormed.next_notMem_nested prop reason)

/-- The assumption of a new box is one level deeper. -/
theorem Grown.levelledLines_openBox (h : Grown history proof) (hp : prop.isBox = false) :
    (proof.openBox prop).levelledLines = proof.levelledLines ++
      [(proof.openScopes.length, ⟨proof.nextIndex, prop, .assumption⟩)] :=
  levelledLines_concat (placedLines_openBox hp) (fun _ => boxesAround_openBox hp)
    (Line.closedBox?_eq_none.mpr (Or.inr hp)) (h.wellFormed.next_notMem_nested prop .assumption)

/-- Closing a box changes no level: its lines lose an open scope and gain a closed box. -/
theorem WellFormed.levelledLines_close {inner parent : Scope} {outer : List Scope} {next : Int}
    {steps : SubProof} (h : WellFormed ⟨inner, parent :: outer, next⟩)
    (hs : inner.toSubProof? = some steps) :
    levelledLines ⟨parent.append steps.boxLine, outer, next⟩ =
      levelledLines ⟨inner, parent :: outer, next⟩ := by
  have hb : steps.boxLine.isClosedBox = true := rfl
  rw [levelledLines,levelledLines,placedLines_close hs,placedLines_inner,List.map_cons]
  simp only [List.filter_append, List.filter_cons, hb, Bool.not_true, Bool.false_eq_true, if_false,
    List.map_append]
  congr 1
  · refine List.map_congr_left fun placed hm => ?_
    rw [h.boxesAround_close_of_placed hs (List.mem_filter.mp hm).1]
  · rw [List.filter_map,List.filter_map,List.map_map,List.map_map]
    refine List.map_congr_left fun line hm => ?_
    simp only [Function.comp_apply, boxesAround_close_of_mem hs (List.mem_filter.mp hm).1,
      Nat.add_assoc, Nat.add_comm 1]

/-- The rows are the plain lines in their order, each at its level of nesting. -/
theorem Grown.rows_drawnItems (h : Grown history proof) :
    FrameItem.rows proof.drawnItems = proof.levelledLines := by
  induction h with
  | fresh => rfl
  | extend h hj ih =>
    rw [drawnItems_extend hj.reason_ne,h.levelledLines_extend hj.reason_ne,← ih,FrameItem.rows,
      List.filterMap_append]
    rfl
  | openBox h hp ih =>
    rw [drawnItems_openBox hp,h.levelledLines_openBox hp,← ih,FrameItem.rows,List.filterMap_append]
    rfl
  | close h hs ih =>
    rw [drawnItems_close hs,h.wellFormed.levelledLines_close hs,← ih,FrameItem.rows,
      List.filterMap_append]
    exact List.append_nil _

/-- The rows show the plain lines of the proof. -/
theorem map_snd_levelledLines (proof : Proof) :
    proof.levelledLines.map Prod.snd = proof.expanded := by
  have hp : proof.placedLines.map Prod.fst = proof.nested := by
    have hz := List.zipIdx_map_fst 0 proof.scopes
    rw [placedLines,nested,List.map_flatMap]
    conv_rhs => rw [← hz,List.flatMap_map]
    simp only [List.map_map, Function.comp_def, List.map_id']
  rw [levelledLines,List.map_map,expanded_eq_flatMap,flatMap_expanded,← nested_eq_flatMap,← hp,
    List.filter_map]
  rfl

/-! ## Frames -/

/-- There is an opening frame for each closed box and each nested open scope. -/
theorem Grown.countP_isOpening (h : Grown history proof) :
    proof.drawnItems.countP FrameItem.isOpening =
      proof.closedBoxes.length + proof.enclosing.length := by
  induction h with
  | fresh => rfl
  | extend h hj ih =>
    rw [drawnItems_extend hj.reason_ne,List.countP_append,ih,closedBoxes_extend hj.reason_ne]
    rfl
  | openBox h hp ih =>
    rw [drawnItems_openBox hp,List.countP_append,ih,closedBoxes_openBox hp]
    rfl
  | close h hs ih =>
    rw [drawnItems_close hs,List.countP_append,ih,closedBoxes_close hs,closedBoxes_inner]
    simp only [List.countP_singleton, FrameItem.isOpening, Bool.false_eq_true, if_false,
      List.length_append, List.length_cons]
    omega

/-- There is a closing frame for each closed box. -/
theorem Grown.countP_isClosing (h : Grown history proof) :
    proof.drawnItems.countP FrameItem.isClosing = proof.closedBoxes.length := by
  induction h with
  | fresh => rfl
  | extend h hj ih =>
    rw [drawnItems_extend hj.reason_ne,List.countP_append,ih,closedBoxes_extend hj.reason_ne]
    rfl
  | openBox h hp ih =>
    rw [drawnItems_openBox hp,List.countP_append,ih,closedBoxes_openBox hp]
    rfl
  | close h hs ih =>
    rw [drawnItems_close hs,List.countP_append,ih,closedBoxes_close hs,closedBoxes_inner]
    simp only [List.countP_singleton, FrameItem.isClosing, if_true, List.length_append,
      List.length_cons]
    omega

/-- Frames are drawn around rows that are nested. -/
theorem Grown.level_pos (h : Grown history proof) :
    ∀ item ∈ proof.drawnItems, item.row? = none → 0 < item.level := by
  induction h with
  | fresh => exact fun _ hm => absurd hm List.not_mem_nil
  | extend h hj ih =>
    rw [drawnItems_extend hj.reason_ne,List.forall_mem_append]
    exact ⟨ih, List.forall_mem_singleton.mpr nofun⟩
  | openBox h hp ih =>
    rw [drawnItems_openBox hp,List.forall_mem_append]
    refine ⟨ih, List.forall_mem_cons.mpr ⟨fun _ => Nat.succ_pos _, ?_⟩⟩
    exact List.forall_mem_singleton.mpr nofun
  | close h hs ih =>
    rw [drawnItems_close hs,List.forall_mem_append]
    exact ⟨ih, List.forall_mem_singleton.mpr fun _ => Nat.succ_pos _⟩

/-- Every closed box is drawn between its two frames. -/
theorem Grown.boxDrawn (h : Grown history proof) :
    ∀ steps ∈ proof.closedBoxes, BoxDrawn proof.drawnItems steps := by
  induction h with
  | fresh => exact fun _ hb => absurd hb List.not_mem_nil
  | extend h hj ih =>
    rw [drawnItems_extend hj.reason_ne,closedBoxes_extend hj.reason_ne]
    exact fun steps hs => (ih steps hs).append _
  | openBox h hp ih =>
    rw [drawnItems_openBox hp,closedBoxes_openBox hp]
    exact fun steps hs => (ih steps hs).append _
  | @close _ inner parent outer next steps h hs ih =>
    rw [drawnItems_close hs]
    intro box hb
    rcases (mem_closedBoxes_close hs).mp hb with rfl | hb
    · have hf := h.wellFormed.closedBox?_firstLine hs
      refine ⟨drawnItems ⟨parent, outer, next⟩, lineItems (outer.length + 1) box.toList, [],
        outer.length + 1, ?_, framed_lineItems _ _, ?_, rows_lineItems _ _⟩
      · rw [drawnItems_inner,Scope.toSubProof?_eq_some.mp hs]
      · rw [SubProof.toList,lineItems_plain hf]
        rfl
    · exact (ih box hb).append _

/-- Every nested open scope begins with its assumption. -/
theorem WellFormed.startsWithAssumption (h : proof.WellFormed) {scope : Scope}
    (hs : scope ∈ proof.scopes.tail) : StartsWithAssumption scope.lines := by
  have ho := h.opened
  cases hl : proof.scopes with
  | nil =>
    rw [hl] at hs
    cases hs
  | cons outermost inner =>
    rw [hl] at ho hs
    exact ho.2 scope hs

/-- A list is split at the place of a member. -/
theorem exists_append_of_getElem? {α : Type} {list : List α} {place : Nat} {item : α}
    (h : list[place]? = some item) :
    ∃ front back, list = front ++ item :: back ∧ front.length = place := by
  obtain ⟨hb, hg⟩ := List.getElem?_eq_some_iff.mp h
  refine ⟨list.take place, list.drop (place + 1), ?_, ?_⟩
  · rw [← hg,List.getElem_cons_drop,List.take_append_drop]
  · exact List.length_take_of_le (Nat.le_of_lt hb)

/-- Every nested open scope is drawn below its opening frame. -/
theorem WellFormed.scopeDrawn (h : proof.WellFormed) {level : Nat} {scope : Scope}
    (hs : proof.scopes[level]? = some scope) (hl : 0 < level) :
    ScopeDrawn proof.drawnItems level scope := by
  obtain ⟨front, back, hsplit, hlen⟩ := exists_append_of_getElem? hs
  have ht : scope ∈ proof.scopes.tail := by
    rw [hsplit]
    cases front with
    | nil => exact absurd hlen (Nat.ne_of_lt hl)
    | cons outermost rest => exact List.mem_append_right _ List.mem_cons_self
  obtain ⟨first, later, he, hp⟩ := (h.startsWithAssumption ht).exists_first
  refine ⟨scopeItems 0 front, lineItems level scope.lines, scopeItems (level + 1) back, first, ?_,
    framed_lineItems _ _, ?_, ?_, rows_lineItems _ _, ?_⟩
  · rw [drawnItems,hsplit,scopeItems_append,Nat.zero_add,hlen,scopeItems_nested hl,
      List.append_assoc]
  · rw [Scope.first?,he]
    rfl
  · rw [he,lineItems_plain hp]
    rfl
  · cases back with
    | nil =>
      intro item hi
      cases hi
    | cons next rest =>
      rw [scopeItems_nested (Nat.succ_pos _)]
      intro item hi
      exact (Option.some.inj hi).symm

/-- The first lines of scopes are among their lines, in the same order. -/
theorem filterMap_first?_sublist (scopes : List Scope) :
    (scopes.filterMap Scope.first?).Sublist (scopes.flatMap Scope.lines) := by
  induction scopes with
  | nil => exact List.Sublist.slnil
  | cons scope inner ih =>
    rw [List.filterMap_cons,List.flatMap_cons,Scope.first?]
    cases scope.lines with
    | nil => exact ih
    | cons first later => exact (ih.trans (List.sublist_append_right later _)).cons_cons first

/-- No two nested open scopes begin under one index. -/
theorem WellFormed.nodup_openStarts (h : proof.WellFormed) :
    ((proof.scopes.tail.filterMap Scope.first?).map Line.index).Nodup := by
  have hsub := ((List.tail_sublist proof.scopes).filterMap Scope.first?).trans
    (filterMap_first?_sublist proof.scopes)
  exact (h.pairwise_openLines.sublist (hsub.map Line.index)).imp fun hlt => Int.ne_of_lt hlt

/-- No two boxes begin under one index, whether they are closed or open. -/
theorem Grown.nodup_boxStarts (h : Grown history proof) : proof.boxStarts.Nodup := by
  refine List.nodup_append.mpr ⟨h.nodup_starts, h.wellFormed.nodup_openStarts, ?_⟩
  rintro _ hc _ ho rfl
  obtain ⟨steps, hs, he⟩ := List.mem_map.mp hc
  obtain ⟨first, hm, hi⟩ := List.mem_map.mp ho
  obtain ⟨scope, ht, hf⟩ := List.mem_filterMap.mp hm
  obtain ⟨opening, later, hl, hp⟩ := (h.wellFormed.startsWithAssumption ht).exists_first
  obtain rfl : opening = first := by
    rw [Scope.first?,hl] at hf
    exact Option.some.inj hf
  have hscope : scope ∈ proof.openScopes := List.mem_reverse.mp (List.mem_of_mem_tail ht)
  have hfirst : opening ∈ scope.lines := by
    rw [hl]
    exact List.mem_cons_self
  exact h.start_ne_of_plain hscope hfirst hp steps hs (he.trans hi.symm)

/-- What the items of a drawing say about the proof. -/
structure Draws (items : List FrameItem) (proof : Proof) : Prop where
  /-- The rows are the plain lines of the proof, each at its level of nesting. -/
  rows : FrameItem.rows items = proof.levelledLines
  /-- From top to bottom they are numbered from one up to the last index. -/
  numbered : (FrameItem.rows items).map (fun shown => shown.2.index) = indicesBelow proof.nextIndex
  /-- Every closed box is drawn between its two frames. -/
  closed : ∀ steps ∈ proof.closedBoxes, BoxDrawn items steps
  /-- Every nested open scope is drawn below its opening frame. -/
  opened : ∀ level scope, proof.scopes[level]? = some scope → 0 < level →
    ScopeDrawn items level scope
  /-- There are no other opening frames. -/
  openings : items.countP FrameItem.isOpening = proof.closedBoxes.length + proof.enclosing.length
  /-- There are no other closing frames. -/
  closings : items.countP FrameItem.isClosing = proof.closedBoxes.length
  /-- No two boxes begin under one index, whether they are closed or open. -/
  starts : proof.boxStarts.Nodup

/-- What is drawn of a proof that grew shows the whole proof. -/
theorem Grown.draws (h : Grown history proof) : Draws proof.frameItems proof := by
  have hw := h.wellFormed
  have hr := h.rows_drawnItems
  rw [hw.frameItems_eq]
  refine ⟨hr, ?_, h.boxDrawn, fun _ _ => hw.scopeDrawn, h.countP_isOpening, h.countP_isClosing,
    h.nodup_boxStarts⟩
  rw [hr,← hw.numbered,← map_snd_levelledLines,List.map_map]
  rfl

end Proof

end BoxedDeduction
