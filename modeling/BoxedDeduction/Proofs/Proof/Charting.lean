import BoxedDeduction.Proofs.Proof.Placement
import BoxedDeduction.Proofs.Proof.Recording

/-!
# What the citation graph charts

The graph has one node for every index that was given out and one for every closed box, each with
the number of scopes and boxes around it. A line cites what stands under an index: the closed box
that begins there, unless the line stands in that box itself, and otherwise the plain line. No
citation is left out. Nodes are recorded in the order in which lines are added and boxes closed,
and every edge leads forward in it, so the graph has no cycle.
-/

namespace BoxedDeduction

/-! ## Recording what is not recorded yet -/

namespace CitationGraph

variable {graph : CitationGraph} {entry : CitationEntry} {source target : CitedNode}

/-- A new node is recorded last. -/
theorem entries_addEntry (h : entry.node ∉ graph.nodes) :
    (graph.addEntry entry).entries = graph.entries ++ [entry] := by
  have hn : ¬graph.entries.any (·.node == entry.node) = true := by
    intro ha
    obtain ⟨old, ho, he⟩ := List.any_eq_true.mp ha
    exact h (List.mem_map.mpr ⟨old, ho, beq_iff_eq.mp he⟩)
  rw [addEntry,if_neg hn]

/-- Recording an edge changes no entry. -/
theorem entries_addEdge : (graph.addEdge source target).entries = graph.entries := by
  rw [addEdge]
  split <;> rfl

/-- Recording a node changes no edge. -/
theorem edges_addEntry : (graph.addEntry entry).edges = graph.edges := by
  rw [addEntry]
  split <;> rfl

/-- No edge is recorded twice. -/
theorem nodup_edges_addEdge (h : graph.edges.Nodup) : (graph.addEdge source target).edges.Nodup := by
  rw [addEdge]
  split
  · exact h
  · next hn =>
    refine List.nodup_append.mpr ⟨h, List.pairwise_singleton _ _, ?_⟩
    rintro edge he _ hs rfl
    rw [List.mem_singleton.mp hs] at he
    exact hn he

end CitationGraph

namespace CitationWalk

variable {walk inner : CitationWalk} {indices : List Int} {goal : CitedNode} {depth : Nat}
  {line : Line} {index : Int} {steps : SubProof}

/-- Citing indices changes no entry. -/
theorem entries_cite : (walk.cite indices goal).graph.entries = walk.graph.entries := by
  induction indices generalizing walk with
  | nil => rfl
  | cons first later ih =>
    cases hm : walk.meaning? first with
    | none => rw [cite_cons_of_none hm,ih]
    | some found => rw [cite_cons_of_some hm,ih,CitationGraph.entries_addEdge]

/-- Citing indices records no edge twice. -/
theorem nodup_edges_cite (h : walk.graph.edges.Nodup) :
    (walk.cite indices goal).graph.edges.Nodup := by
  induction indices generalizing walk with
  | nil => exact h
  | cons first later ih =>
    cases hm : walk.meaning? first with
    | none =>
      rw [cite_cons_of_none hm]
      exact ih h
    | some found =>
      rw [cite_cons_of_some hm]
      exact ih (CitationGraph.nodup_edges_addEdge h)

/-- A new line is recorded last. -/
theorem entries_addLine (h : .line line.index ∉ walk.graph.nodes) :
    (walk.addLine depth line).graph.entries =
      walk.graph.entries ++ [⟨.line line.index, line.reason.nodeKind, depth, line.prop⟩] := by
  rw [addLine]
  dsimp only
  rw [entries_cite,CitationGraph.entries_addEntry h]

/-- A line records no edge twice. -/
theorem nodup_edges_addLine (h : walk.graph.edges.Nodup) :
    (walk.addLine depth line).graph.edges.Nodup := by
  rw [addLine]
  refine nodup_edges_cite ?_
  dsimp only
  rwa [CitationGraph.edges_addEntry]

/-- A new box is recorded last. -/
theorem entries_addBox (h : .box index ∉ inner.graph.nodes) :
    (walk.addBox inner depth index steps).graph.entries =
      inner.graph.entries ++ [⟨.box index, .box, depth, .box steps⟩] := by
  rw [addBox]
  dsimp only
  rw [entries_cite,CitationGraph.entries_addEntry h]

/-- A box records no edge twice. -/
theorem nodup_edges_addBox (h : inner.graph.edges.Nodup) :
    (walk.addBox inner depth index steps).graph.edges.Nodup := by
  rw [addBox]
  refine nodup_edges_cite ?_
  dsimp only
  rwa [CitationGraph.edges_addEntry]

end CitationWalk

/-! ## Nodes -/

namespace Proof

variable {history : List Proof} {proof : Proof} {prop : Proposition} {reason : Justification}
  {index : Int} {source target : CitedNode}

/-- The plain nodes of the graph are the indices that were given out. -/
theorem Grown.line_mem_nodes (h : Grown history proof) :
    .line index ∈ proof.citations.nodes ↔ 1 ≤ index ∧ index < proof.nextIndex := by
  induction h with
  | fresh =>
    rw [citations_fresh]
    refine ⟨fun hm => absurd hm List.not_mem_nil, ?_⟩
    rintro ⟨hone, hlt⟩
    exact absurd hlt (Int.not_lt.mpr hone)
  | @extend _ proof prop reason h hj ih =>
    have hone := h.wellFormed.one_le
    rw [h.wellFormed.mem_nodes_extend hj.reason_ne,ih,CitedNode.line.injEq,Proof.extend]
    dsimp only
    omega
  | @openBox _ proof prop h hp ih =>
    have hone := h.wellFormed.one_le
    rw [h.wellFormed.mem_nodes_openBox hp,ih,CitedNode.line.injEq,Proof.openBox]
    dsimp only
    omega
  | close h hs ih =>
    rw [h.wellFormed.mem_nodes_close hs,ih]
    simp only [reduceCtorEq, or_false]

/-- The other nodes of the graph are the indices under which closed boxes begin. -/
theorem Grown.box_mem_nodes (h : Grown history proof) :
    .box index ∈ proof.citations.nodes ↔ ∃ steps ∈ proof.closedBoxes, steps.start = index := by
  induction h with
  | fresh =>
    rw [citations_fresh]
    exact ⟨fun hm => absurd hm List.not_mem_nil, nofun⟩
  | extend h hj ih =>
    rw [h.wellFormed.mem_nodes_extend hj.reason_ne,ih,closedBoxes_extend hj.reason_ne]
    simp only [reduceCtorEq, or_false]
  | openBox h hp ih =>
    rw [h.wellFormed.mem_nodes_openBox hp,ih,closedBoxes_openBox hp]
    simp only [reduceCtorEq, or_false]
  | close h hs ih =>
    rw [h.wellFormed.mem_nodes_close hs,ih,CitedNode.box.injEq,@eq_comm _ index,or_comm]
    simp only [mem_closedBoxes_close hs, or_and_right, exists_or, exists_eq_left]

/-- The next index is not recorded yet. -/
theorem Grown.line_notMem_nodes (h : Grown history proof) :
    .line proof.nextIndex ∉ proof.citations.nodes := by
  rw [h.line_mem_nodes]
  exact fun hm => Int.lt_irrefl _ hm.2

/-- An open box is not recorded yet. -/
theorem Grown.box_notMem_nodes {inner parent : Scope} {outer : List Scope} {next : Int}
    {steps : SubProof} (h : Grown history ⟨inner, parent :: outer, next⟩)
    (hs : inner.toSubProof? = some steps) :
    .box steps.start ∉ (citations ⟨inner, parent :: outer, next⟩).nodes := by
  rw [h.box_mem_nodes]
  rintro ⟨box, hb, he⟩
  exact h.wellFormed.start_ne_of_mem_closedBoxes hs hb he

/-! ## Entries -/

/-- A line that opens no box is recorded last. -/
theorem Grown.entries_extend (h : Grown history proof) (hr : reason ≠ .assumption) :
    (proof.extend prop reason).citations.entries = proof.citations.entries ++
      [⟨.line proof.nextIndex, reason.nodeKind, proof.enclosing.length, prop⟩] := by
  have hn := h.line_notMem_nodes
  rw [h.wellFormed.citations_eq] at hn ⊢
  rw [h.wellFormed.citations_extend hr,CitationWalk.entries_addLine hn]

/-- The assumption of a new box is recorded last. -/
theorem Grown.entries_openBox (h : Grown history proof) (hp : prop.isBox = false) :
    (proof.openBox prop).citations.entries = proof.citations.entries ++
      [⟨.line proof.nextIndex, .assumption, proof.openScopes.length, prop⟩] := by
  have hn := h.line_notMem_nodes
  rw [h.wellFormed.citations_eq] at hn ⊢
  rw [h.wellFormed.citations_openBox hp,CitationWalk.entries_addLine hn,Justification.nodeKind]

section Closing

variable {inner parent : Scope} {outer : List Scope} {next : Int} {steps : SubProof}

/-- A closed box is recorded last. -/
theorem Grown.entries_close (h : Grown history ⟨inner, parent :: outer, next⟩)
    (hs : inner.toSubProof? = some steps) :
    (citations ⟨parent.append steps.boxLine, outer, next⟩).entries =
      (citations ⟨inner, parent :: outer, next⟩).entries ++
        [⟨.box steps.start, .box, outer.length, .box steps⟩] := by
  have hn := h.box_notMem_nodes hs
  rw [h.wellFormed.citations_eq] at hn ⊢
  rw [h.wellFormed.citations_close hs]
  exact CitationWalk.entries_addBox hn

end Closing

/-- The lines of a proof, those inside closed boxes included, each with the number of open scopes
around it, the global scope left out. -/
def placedLines (proof : Proof) : List (Line × Nat) :=
  proof.scopes.zipIdx.flatMap fun (scope, level) => scope.nested.map (·, level)

/-- The number of closed boxes around a line. -/
def boxesAround (proof : Proof) (line : Line) : Nat :=
  proof.closedBoxes.countP fun steps => decide (line ∈ steps.nestedLines)

end Proof

/-- The sort of the node of a line. -/
def Line.nodeKind (line : Line) : NodeKind :=
  if line.isClosedBox then .box else line.reason.nodeKind

/-- What a graph records about a line that stands at a depth. -/
def Line.entry (line : Line) (depth : Nat) : CitationEntry :=
  ⟨line.node, line.nodeKind, depth, line.prop⟩

/-- What a graph records about a plain line. -/
theorem Line.entry_of_plain {line : Line} (h : line.closedBox? = none) (depth : Nat) :
    line.entry depth = ⟨.line line.index, line.reason.nodeKind, depth, line.prop⟩ := by
  rw [entry,node_of_plain h,nodeKind,isClosedBox_eq_false.mpr h]
  rfl

namespace Proof

variable {history : List Proof} {proof : Proof} {prop : Proposition} {reason : Justification}
  {line : Line}

/-- What the graph records about a placed line. -/
def placedEntry (proof : Proof) (placed : Line × Nat) : CitationEntry :=
  placed.1.entry (placed.2 + proof.boxesAround placed.1)

/-- The innermost scope has all others around it. -/
theorem placedLines_eq (proof : Proof) : proof.placedLines =
    (proof.enclosing.reverse.zipIdx.flatMap fun (scope, level) => scope.nested.map (·, level)) ++
      proof.current.nested.map (·, proof.enclosing.length) := by
  rw [placedLines,scopes_eq,List.zipIdx_append,List.flatMap_append,Nat.zero_add,
    List.length_reverse]
  simp only [List.zipIdx_singleton, List.flatMap_cons, List.flatMap_nil, List.append_nil]

/-- Every placed line is a line of the proof. -/
theorem mem_nested_of_placed {placed : Line × Nat} (h : placed ∈ proof.placedLines) :
    placed.1 ∈ proof.nested := by
  obtain ⟨⟨scope, level⟩, hs, hl⟩ := List.mem_flatMap.mp h
  obtain ⟨line, hn, rfl⟩ := List.mem_map.mp hl
  exact List.mem_flatMap.mpr ⟨scope, List.fst_mem_of_mem_zipIdx hs, hn⟩

/-- There is no closed box around what is no line of the proof. -/
theorem boxesAround_of_notMem (h : line ∉ proof.nested) : proof.boxesAround line = 0 := by
  rw [boxesAround,List.countP_eq_zero]
  intro steps hs hd
  exact h (nestedLines_subset hs (of_decide_eq_true hd))

/-- A line that opens no box is placed last. -/
theorem placedLines_extend (hr : reason ≠ .assumption) :
    (proof.extend prop reason).placedLines =
      proof.placedLines ++ [(⟨proof.nextIndex, prop, reason⟩, proof.enclosing.length)] := by
  have hp : (Line.mk proof.nextIndex prop reason).nested = [⟨proof.nextIndex, prop, reason⟩] :=
    Line.nested_of_plain (Line.closedBox?_eq_none.mpr (Or.inl hr))
  rw [placedLines_eq,placedLines_eq,extend,Scope.nested_append,hp,List.map_append,
    List.append_assoc]
  rfl

/-- The assumption of a new box is placed last. -/
theorem placedLines_openBox (hp : prop.isBox = false) :
    (proof.openBox prop).placedLines =
      proof.placedLines ++ [(⟨proof.nextIndex, prop, .assumption⟩, proof.openScopes.length)] := by
  have hl : (Line.mk proof.nextIndex prop .assumption).nested =
      [⟨proof.nextIndex, prop, .assumption⟩] :=
    Line.nested_of_plain (Line.closedBox?_eq_none.mpr (Or.inr hp))
  rw [placedLines_eq,openBox,Scope.nested,List.flatMap_singleton,hl]
  rfl

/-- A line that opens no box changes nothing about the boxes around a line. -/
theorem boxesAround_extend (hr : reason ≠ .assumption) :
    (proof.extend prop reason).boxesAround line = proof.boxesAround line := by
  rw [boxesAround,closedBoxes_extend hr,boxesAround]

/-- The assumption of a new box changes nothing about the closed boxes around a line. -/
theorem boxesAround_openBox (hp : prop.isBox = false) :
    (proof.openBox prop).boxesAround line = proof.boxesAround line := by
  rw [boxesAround,closedBoxes_openBox hp,boxesAround]

section Closing

variable {inner parent : Scope} {outer : List Scope} {next : Int} {steps : SubProof}

/-- The lines of the innermost scope are placed after those around it. -/
theorem placedLines_inner : placedLines ⟨inner, parent :: outer, next⟩ =
    placedLines ⟨parent, outer, next⟩ ++ inner.nested.map (·, outer.length + 1) := by
  rw [placedLines_eq,placedLines_eq,List.reverse_cons,List.zipIdx_append,List.flatMap_append,
    Nat.zero_add,List.length_reverse]
  simp only [List.zipIdx_singleton, List.flatMap_cons, List.flatMap_nil, List.append_nil,
    List.length_cons]

/-- A box that is closed is placed, with its lines, after those around it. -/
theorem placedLines_close (hs : inner.toSubProof? = some steps) :
    placedLines ⟨parent.append steps.boxLine, outer, next⟩ =
      placedLines ⟨parent, outer, next⟩ ++ (steps.boxLine :: inner.nested).map (·, outer.length) := by
  have hb := Line.nested_of_closedBox steps.closedBox?_boxLine
  rw [Scope.toSubProof?_eq_some.mp hs] at hb
  rw [placedLines_eq,placedLines_eq,Scope.nested_append,hb,List.map_append,List.append_assoc]
  rfl

/-- A box that was closed is around the lines inside it. -/
theorem boxesAround_close (hs : inner.toSubProof? = some steps) :
    boxesAround ⟨parent.append steps.boxLine, outer, next⟩ line =
      boxesAround ⟨inner, parent :: outer, next⟩ line +
        if line ∈ steps.nestedLines then 1 else 0 := by
  rw [boxesAround,boxesAround,closedBoxes_close hs,closedBoxes_inner,List.countP_append,
    List.countP_append,List.countP_cons]
  simp only [decide_eq_true_eq, Nat.add_assoc]

/-- A box that was closed is around every line of the innermost scope. -/
theorem boxesAround_close_of_mem (hs : inner.toSubProof? = some steps) (hl : line ∈ inner.nested) :
    boxesAround ⟨parent.append steps.boxLine, outer, next⟩ line =
      boxesAround ⟨inner, parent :: outer, next⟩ line + 1 := by
  rw [← nestedLines_of_toSubProof? hs] at hl
  rw [boxesAround_close hs,if_pos hl]

/-- A box that was closed is not around the lines of the other scopes. -/
theorem WellFormed.boxesAround_close_of_placed (h : WellFormed ⟨inner, parent :: outer, next⟩)
    (hs : inner.toSubProof? = some steps) {placed : Line × Nat}
    (hm : placed ∈ placedLines ⟨parent, outer, next⟩) :
    boxesAround ⟨parent.append steps.boxLine, outer, next⟩ placed.1 =
      boxesAround ⟨inner, parent :: outer, next⟩ placed.1 := by
  have hlt := h.index_lt_start hs (mem_nested_of_placed hm)
  have hn : placed.1 ∉ steps.nestedLines := by
    rw [nestedLines_of_toSubProof? hs]
    intro hi
    exact Int.not_le.mpr hlt (h.start_le hs hi)
  rw [boxesAround_close hs,if_neg hn,Nat.add_zero]

/-- A box that was closed stands in no closed box. -/
theorem WellFormed.boxesAround_boxLine (h : WellFormed ⟨inner, parent :: outer, next⟩)
    (hs : inner.toSubProof? = some steps) :
    boxesAround ⟨parent.append steps.boxLine, outer, next⟩ steps.boxLine = 0 := by
  have hn := h.boxLine_notMem_nested hs
  have hi : steps.boxLine ∉ steps.nestedLines := by
    rw [nestedLines_of_toSubProof? hs]
    rw [nested_inner] at hn
    exact fun hi => hn (List.mem_append_right _ hi)
  rw [boxesAround_close hs,boxesAround_of_notMem hn,if_neg hi]

/-- Closing a box records the box and changes nothing about the other lines. -/
theorem WellFormed.exists_placedEntry_close (h : WellFormed ⟨inner, parent :: outer, next⟩)
    (hs : inner.toSubProof? = some steps) {entry : CitationEntry} :
    (∃ placed ∈ placedLines ⟨parent.append steps.boxLine, outer, next⟩,
        entry = placedEntry ⟨parent.append steps.boxLine, outer, next⟩ placed) ↔
      (∃ placed ∈ placedLines ⟨inner, parent :: outer, next⟩,
        entry = placedEntry ⟨inner, parent :: outer, next⟩ placed) ∨
      entry = ⟨.box steps.start, .box, outer.length, .box steps⟩ := by
  have hout : ∀ placed ∈ placedLines ⟨parent, outer, next⟩,
      placedEntry ⟨parent.append steps.boxLine, outer, next⟩ placed =
        placedEntry ⟨inner, parent :: outer, next⟩ placed := by
    intro placed hm
    rw [placedEntry,h.boxesAround_close_of_placed hs hm,placedEntry]
  -- A line of the box loses an open scope and gains a closed box, so its depth stays.
  have hin : ∀ line ∈ inner.nested,
      placedEntry ⟨parent.append steps.boxLine, outer, next⟩ (line, outer.length) =
        placedEntry ⟨inner, parent :: outer, next⟩ (line, outer.length + 1) := by
    intro line hl
    rw [placedEntry,boxesAround_close_of_mem hs hl,placedEntry,Nat.add_right_comm,Nat.add_assoc]
  have hbox : placedEntry ⟨parent.append steps.boxLine, outer, next⟩
      (steps.boxLine, outer.length) = ⟨.box steps.start, .box, outer.length, .box steps⟩ := by
    rw [placedEntry,h.boxesAround_boxLine hs]
    rfl
  rw [placedLines_inner,placedLines_close hs]
  constructor
  · rintro ⟨placed, hm, rfl⟩
    rcases List.mem_append.mp hm with hm | hm
    · exact Or.inl ⟨placed, List.mem_append_left _ hm, hout placed hm⟩
    · obtain ⟨line, hl, rfl⟩ := List.mem_map.mp hm
      rcases List.mem_cons.mp hl with rfl | hl
      · exact Or.inr hbox
      · exact Or.inl ⟨_, List.mem_append_right _ (List.mem_map_of_mem hl), hin line hl⟩
  · rintro (⟨placed, hm, rfl⟩ | rfl)
    · rcases List.mem_append.mp hm with hm | hm
      · exact ⟨placed, List.mem_append_left _ hm, (hout placed hm).symm⟩
      · obtain ⟨line, hl, rfl⟩ := List.mem_map.mp hm
        refine ⟨(line, outer.length), List.mem_append_right _ ?_, (hin line hl).symm⟩
        exact List.mem_map_of_mem (List.mem_cons_of_mem _ hl)
    · refine ⟨(steps.boxLine, outer.length), List.mem_append_right _ ?_, hbox.symm⟩
      exact List.mem_map_of_mem List.mem_cons_self

end Closing

/-- The entries of the graph are those of the lines, each at the depth of open scopes and closed
boxes around the line. -/
theorem Grown.mem_entries (h : Grown history proof) {entry : CitationEntry} :
    entry ∈ proof.citations.entries ↔
      ∃ placed ∈ proof.placedLines, entry = proof.placedEntry placed := by
  induction h with
  | fresh =>
    rw [citations_fresh]
    exact ⟨fun hm => absurd hm List.not_mem_nil, nofun⟩
  | @extend _ proof prop reason h hj ih =>
    have hr := hj.reason_ne
    have hp : Line.closedBox? ⟨proof.nextIndex, prop, reason⟩ = none :=
      Line.closedBox?_eq_none.mpr (Or.inl hr)
    have hn := boxesAround_of_notMem (h.wellFormed.next_notMem_nested prop reason)
    rw [h.entries_extend hr,List.mem_append,ih,List.mem_singleton]
    simp only [placedEntry, placedLines_extend hr, boxesAround_extend hr, List.mem_append,
      List.mem_singleton, or_and_right, exists_or, exists_eq_left, hn, Line.entry_of_plain hp,
      Nat.add_zero]
  | @openBox _ proof prop h hp ih =>
    have hl : Line.closedBox? ⟨proof.nextIndex, prop, .assumption⟩ = none :=
      Line.closedBox?_eq_none.mpr (Or.inr hp)
    have hn := boxesAround_of_notMem (h.wellFormed.next_notMem_nested prop .assumption)
    rw [h.entries_openBox hp,List.mem_append,ih,List.mem_singleton]
    simp only [placedEntry, placedLines_openBox hp, boxesAround_openBox hp, List.mem_append,
      List.mem_singleton, or_and_right, exists_or, exists_eq_left, hn, Line.entry_of_plain hl,
      Nat.add_zero, Justification.nodeKind]
  | close h hs ih =>
    rw [h.entries_close hs,List.mem_append,ih,List.mem_singleton,
      h.wellFormed.exists_placedEntry_close hs]

/-! ## Edges -/

/-- The node that a line cites under an index: the closed box that begins there, unless the line
stands in it, and otherwise the plain line. -/
def citedNode (proof : Proof) (line : Line) (index : Int) : CitedNode :=
  if ∃ steps ∈ proof.closedBoxes, steps.start = index ∧ line ∉ steps.nestedLines then .box index
  else .line index

end Proof

/-- A rule that derives something finds a proposition under every index that it cites. -/
theorem Rule.Derives.exists_lookup {lookup : Lookup} {rule : Rule} {prop : Proposition}
    (h : rule.Derives lookup prop) : ∀ index ∈ rule.cited, ∃ cited, lookup index = some cited := by
  cases h <;> simp_all [Rule.cited, Rule.arguments, Argument.cited?]

namespace Proof

variable {history : List Proof} {proof : Proof} {prop : Proposition} {reason : Justification}
  {line : Line} {index : Int} {source target : CitedNode}

/-- Every index that a justified line cites is visible. -/
theorem Justifies.exists_find? (h : proof.Justifies reason prop) (hi : index ∈ reason.cited) :
    ∃ found, proof.find? index = some found := by
  have hl : ∃ cited, proof.lookup index = some cited := by
    cases h with
    | premise => cases hi
    | copy h => exact ⟨_, List.mem_singleton.mp hi ▸ h⟩
    | inference h => exact (Rule.Derives.of_conclusion h).exists_lookup index hi
  obtain ⟨cited, hc⟩ := hl
  obtain ⟨found, hf, -⟩ := Option.map_eq_some_iff.mp hc
  exact ⟨found, hf⟩

/-- A line is found under its own index. -/
theorem index_of_find? {found : Line} (h : proof.find? index = some found) :
    found.index = index := by
  obtain ⟨scope, -, hg⟩ := List.exists_of_findSome?_eq_some h
  exact (Scope.mem_of_get?_eq_some hg).2

/-- Every line cites lower indices only. -/
theorem Grown.cited_lt (h : Grown history proof) (hl : line ∈ proof.expanded)
    (hi : index ∈ line.reason.cited) : index < line.index := by
  induction h with
  | fresh => cases hl
  | extend h hj ih =>
    rw [expanded_extend hj.reason_ne] at hl
    rcases List.mem_append.mp hl with hl | hl
    · exact ih hl
    · rw [List.mem_singleton.mp hl] at hi ⊢
      obtain ⟨found, hf⟩ := hj.exists_find? hi
      obtain ⟨scope, hs, hm⟩ := exists_of_find? hf
      rw [← index_of_find? hf]
      exact (h.wellFormed.index_lt (List.mem_reverse.mpr hs) hm).2
  | openBox h hp ih =>
    rw [expanded_openBox hp] at hl
    rcases List.mem_append.mp hl with hl | hl
    · exact ih hl
    · rw [List.mem_singleton.mp hl] at hi
      cases hi
  | close h hs ih =>
    rw [expanded_close hs] at hl
    exact ih hl

/-- A new line cites the nodes of the lines that are visible under the indices. -/
theorem Grown.citedNode_of_find? (h : Grown history proof) {found : Line}
    (hf : proof.find? index = some found) :
    proof.citedNode ⟨proof.nextIndex, prop, reason⟩ index = found.node := by
  obtain ⟨scope, hs, hm⟩ := exists_of_find? hf
  obtain rfl := index_of_find? hf
  cases hb : found.closedBox? with
  | none =>
    have hn : ¬∃ steps ∈ proof.closedBoxes, steps.start = found.index ∧
        ⟨proof.nextIndex, prop, reason⟩ ∉ steps.nestedLines := by
      rintro ⟨steps, hc, he, -⟩
      exact h.start_ne_of_plain hs hm hb steps hc he
    rw [citedNode,if_neg hn,Line.node_of_plain hb]
  | some steps =>
    have hl : found ∈ proof.nested := by
      refine List.mem_flatMap.mpr ⟨scope, List.mem_reverse.mpr hs, ?_⟩
      exact List.mem_flatMap.mpr ⟨found, hm, found.mem_nested⟩
    have hc : steps ∈ proof.closedBoxes := mem_closedBoxes.mpr ⟨found, hl, hb⟩
    have hn : ⟨proof.nextIndex, prop, reason⟩ ∉ steps.nestedLines :=
      fun hi => h.wellFormed.next_notMem_nested prop reason (nestedLines_subset hc hi)
    have he := (h.wellFormed.firstLine_of_closedBox hl hb).1
    rw [citedNode,if_pos ⟨steps, hc, he.symm, hn⟩,Line.node_of_closedBox hb]

/-- What a line cites stays the same when a line is added that opens no box. -/
theorem citedNode_extend (hr : reason ≠ .assumption) :
    (proof.extend prop reason).citedNode line index = proof.citedNode line index := by
  rw [citedNode,closedBoxes_extend hr,citedNode]

/-- What a line cites stays the same when a box is opened. -/
theorem citedNode_openBox (hp : prop.isBox = false) :
    (proof.openBox prop).citedNode line index = proof.citedNode line index := by
  rw [citedNode,closedBoxes_openBox hp,citedNode]

/-- What a line cites stays the same when a box is closed. -/
theorem Grown.citedNode_close {inner parent : Scope} {outer : List Scope} {next : Int}
    {steps : SubProof} (h : Grown history ⟨inner, parent :: outer, next⟩)
    (hs : inner.toSubProof? = some steps)
    (hl : line ∈ expanded ⟨inner, parent :: outer, next⟩) (hi : index ∈ line.reason.cited) :
    citedNode ⟨parent.append steps.boxLine, outer, next⟩ line index =
      citedNode ⟨inner, parent :: outer, next⟩ line index := by
  -- A line outside the closed box has a lower index than its first line, so it does not cite it.
  have hn : line ∉ steps.nestedLines → steps.start ≠ index := by
    intro hn
    have hlt := h.cited_lt hl hi
    have hm := (mem_expanded.mp hl).1
    rw [nestedLines_of_toSubProof? hs] at hn
    rw [nested_inner,List.mem_append] at hm
    have hout := h.wellFormed.index_lt_start hs (hm.resolve_right hn)
    exact Int.ne_of_gt (Int.lt_trans hlt hout)
  rw [citedNode,citedNode]
  refine if_congr ?_ rfl rfl
  simp only [mem_closedBoxes_close hs, or_and_right, exists_or, exists_eq_left]
  exact or_iff_right fun hc => hn hc.2 hc.1

/-- The edges of the graph: from what a plain line cites to its node, and from the assumption and the
last line of a closed box to the node of the box. -/
theorem Grown.cites_iff (h : Grown history proof) : proof.citations.Cites source target ↔
    (∃ line ∈ proof.expanded, (∃ index ∈ line.reason.cited, source = proof.citedNode line index) ∧
        target = .line line.index) ∨
      ∃ steps ∈ proof.closedBoxes, (source = .line steps.start ∨ source = steps.lastLine.node) ∧
        target = .box steps.start := by
  induction h with
  | fresh =>
    rw [citations_fresh]
    refine ⟨fun hc => absurd hc List.not_mem_nil, ?_⟩
    rintro (⟨line, hl, -⟩ | ⟨steps, hs, -⟩)
    · cases hl
    · cases hs
  | @extend _ proof prop reason h hj ih =>
    have hr := hj.reason_ne
    have hnew : (∃ cited ∈ reason.cited, (proof.find? cited).map Line.node = some source) ↔
        ∃ index ∈ reason.cited,
          source = proof.citedNode ⟨proof.nextIndex, prop, reason⟩ index := by
      refine exists_congr fun index => and_congr_right fun hi => ?_
      obtain ⟨found, hf⟩ := hj.exists_find? hi
      rw [h.citedNode_of_find? hf,hf,Option.map_some,Option.some.injEq,eq_comm]
    rw [h.wellFormed.cites_extend hr,ih,hnew,expanded_extend hr,closedBoxes_extend hr]
    simp only [citedNode_extend hr, List.mem_append, List.mem_singleton, or_and_right, exists_or,
      exists_eq_left, or_right_comm]
  | @openBox _ proof prop h hp ih =>
    rw [h.wellFormed.cites_openBox hp,ih,expanded_openBox hp,closedBoxes_openBox hp]
    simp only [citedNode_openBox hp, List.mem_append, List.mem_singleton, or_and_right, exists_or,
      exists_eq_left, Justification.cited, List.not_mem_nil, false_and, exists_false, or_false]
  | @close _ inner parent outer next steps h hs ih =>
    have hf : steps.firstLine.node = .line steps.start :=
      Line.node_of_plain (h.wellFormed.closedBox?_firstLine hs)
    have hold : (∃ line ∈ expanded ⟨inner, parent :: outer, next⟩, (∃ index ∈ line.reason.cited,
          source = citedNode ⟨inner, parent :: outer, next⟩ line index) ∧
            target = .line line.index) ↔
        ∃ line ∈ expanded ⟨inner, parent :: outer, next⟩, (∃ index ∈ line.reason.cited,
          source = citedNode ⟨parent.append steps.boxLine, outer, next⟩ line index) ∧
            target = .line line.index := by
      refine exists_congr fun line => and_congr_right fun hl => and_congr_left fun _ => ?_
      refine exists_congr fun index => and_congr_right fun hi => ?_
      rw [h.citedNode_close hs hl hi]
    rw [h.wellFormed.cites_close hs,ih,hf,hold,expanded_close hs]
    simp only [mem_closedBoxes_close hs, or_and_right, exists_or, exists_eq_left, or_assoc,
      or_comm, or_left_comm]

/-! ## The order of the nodes -/

/-- A line that opens no box is the last node. -/
theorem Grown.nodes_extend (h : Grown history proof) (hr : reason ≠ .assumption) :
    (proof.extend prop reason).citations.nodes =
      proof.citations.nodes ++ [.line proof.nextIndex] := by
  rw [CitationGraph.nodes,h.entries_extend hr,List.map_append]
  rfl

/-- The assumption of a new box is the last node. -/
theorem Grown.nodes_openBox (h : Grown history proof) (hp : prop.isBox = false) :
    (proof.openBox prop).citations.nodes =
      proof.citations.nodes ++ [.line proof.nextIndex] := by
  rw [CitationGraph.nodes,h.entries_openBox hp,List.map_append]
  rfl

/-- A box that was closed is the last node. -/
theorem Grown.nodes_close {inner parent : Scope} {outer : List Scope} {next : Int}
    {steps : SubProof} (h : Grown history ⟨inner, parent :: outer, next⟩)
    (hs : inner.toSubProof? = some steps) :
    (citations ⟨parent.append steps.boxLine, outer, next⟩).nodes =
      (citations ⟨inner, parent :: outer, next⟩).nodes ++ [.box steps.start] := by
  rw [CitationGraph.nodes,h.entries_close hs,List.map_append]
  rfl

/-- No node is recorded twice. -/
theorem Grown.nodup_nodes (h : Grown history proof) : proof.citations.nodes.Nodup := by
  induction h with
  | fresh =>
    rw [citations_fresh]
    exact List.nodup_nil
  | extend h hj ih =>
    rw [h.nodes_extend hj.reason_ne,← List.concat_eq_append]
    exact List.Nodup.concat h.line_notMem_nodes ih
  | openBox h hp ih =>
    rw [h.nodes_openBox hp,← List.concat_eq_append]
    exact List.Nodup.concat h.line_notMem_nodes ih
  | close h hs ih =>
    rw [h.nodes_close hs,← List.concat_eq_append]
    exact List.Nodup.concat (h.box_notMem_nodes hs) ih

/-- No edge is recorded twice. -/
theorem Grown.nodup_edges (h : Grown history proof) : proof.citations.edges.Nodup := by
  induction h with
  | fresh =>
    rw [citations_fresh]
    exact List.nodup_nil
  | extend h hj ih =>
    rw [h.wellFormed.citations_eq] at ih
    rw [h.wellFormed.citations_extend hj.reason_ne]
    exact CitationWalk.nodup_edges_addLine ih
  | openBox h hp ih =>
    rw [h.wellFormed.citations_eq] at ih
    rw [h.wellFormed.citations_openBox hp]
    exact CitationWalk.nodup_edges_addLine ih
  | close h hs ih =>
    rw [h.wellFormed.citations_eq] at ih
    rw [h.wellFormed.citations_close hs]
    exact CitationWalk.nodup_edges_addBox ih

/-- The plain nodes are recorded in the order of their indices. -/
theorem Grown.filter_nodes (h : Grown history proof) :
    proof.citations.nodes.filter (fun node => !node.isBox) =
      (indicesBelow proof.nextIndex).map .line := by
  induction h with
  | fresh => rw [citations_fresh]; rfl
  | @extend _ proof prop reason h hj ih =>
    rw [h.nodes_extend hj.reason_ne,List.filter_append,ih,Proof.extend,
      indicesBelow_succ h.wellFormed.one_le,List.map_append]
    rfl
  | @openBox _ proof prop h hp ih =>
    rw [h.nodes_openBox hp,List.filter_append,ih,Proof.openBox,
      indicesBelow_succ h.wellFormed.one_le,List.map_append]
    rfl
  | close h hs ih =>
    rw [h.nodes_close hs,List.filter_append,ih]
    exact List.append_nil _

/-- The last line of the innermost scope is the last node. -/
theorem Grown.getLast?_nodes (h : Grown history proof) {last : Line}
    (hl : proof.current.last? = some last) : proof.citations.nodes.getLast? = some last.node := by
  cases h with
  | fresh => cases hl
  | extend h hj =>
    rw [Scope.last?,Proof.extend,Scope.append,List.getLast?_concat] at hl
    cases hl
    rw [h.nodes_extend hj.reason_ne,List.getLast?_concat,
      Line.node_of_plain (Line.closedBox?_eq_none.mpr (Or.inl hj.reason_ne))]
  | @openBox _ proof prop h hp =>
    obtain rfl : ⟨proof.nextIndex, prop, .assumption⟩ = last := Option.some.inj hl
    rw [h.nodes_openBox hp,List.getLast?_concat,
      Line.node_of_plain (Line.closedBox?_eq_none.mpr (Or.inr hp))]
  | close h hs =>
    rw [Scope.last?,Scope.append,List.getLast?_concat] at hl
    cases hl
    rw [h.nodes_close hs,List.getLast?_concat]
    rfl

/-- A closed box is recorded right after its last line. -/
theorem Grown.infix_nodes (h : Grown history proof) :
    ∀ steps ∈ proof.closedBoxes,
      [steps.lastLine.node, .box steps.start] <:+: proof.citations.nodes := by
  induction h with
  | fresh => exact fun _ hs => absurd hs List.not_mem_nil
  | extend h hj ih =>
    rw [closedBoxes_extend hj.reason_ne,h.nodes_extend hj.reason_ne]
    exact fun steps hs => (ih steps hs).trans (List.prefix_append _ _).isInfix
  | openBox h hp ih =>
    rw [closedBoxes_openBox hp,h.nodes_openBox hp]
    exact fun steps hs => (ih steps hs).trans (List.prefix_append _ _).isInfix
  | @close _ inner parent outer next steps h hs ih =>
    intro box hb
    rw [h.nodes_close hs]
    rcases (mem_closedBoxes_close hs).mp hb with rfl | hb
    · have hl : inner.last? = some box.lastLine := by
        rw [Scope.last?,← Scope.toSubProof?_eq_some.mp hs,SubProof.getLast?_toList]
      obtain ⟨before, hn⟩ := List.getLast?_eq_some_iff.mp (h.getLast?_nodes hl)
      rw [hn,List.append_assoc]
      exact (List.suffix_append before _).isInfix
    · exact (ih box hb).trans (List.prefix_append _ _).isInfix

/-- Every line of the proof has its node in the graph. -/
theorem Grown.node_mem_of_nested (h : Grown history proof) {line : Line}
    (hl : line ∈ proof.nested) : line.node ∈ proof.citations.nodes := by
  cases hb : line.closedBox? with
  | none =>
    rw [Line.node_of_plain hb]
    exact h.line_mem_nodes.mpr (h.wellFormed.index_of_nested hl)
  | some steps =>
    have he := (h.wellFormed.firstLine_of_closedBox hl hb).1
    rw [Line.node_of_closedBox hb]
    exact h.box_mem_nodes.mpr ⟨steps, mem_closedBoxes.mpr ⟨line, hl, hb⟩, he.symm⟩

/-- Every edge ends at a node of the graph. -/
theorem Grown.target_mem_nodes (h : Grown history proof)
    (hc : proof.citations.Cites source target) : target ∈ proof.citations.nodes := by
  rcases h.cites_iff.mp hc with ⟨line, hl, -, rfl⟩ | ⟨steps, hs, -, rfl⟩
  · exact h.line_mem_nodes.mpr (h.wellFormed.index_of_nested (mem_expanded.mp hl).1)
  · exact h.box_mem_nodes.mpr ⟨steps, hs, rfl⟩

end Proof

/-- In a list of nodes that ends with a new one the others come first and keep their places. -/
theorem idxOf_lt_concat {nodes : List CitedNode} {source target last : CitedNode}
    (hs : source ∈ nodes) (hn : last ∉ nodes)
    (ht : target = last ∨ target ∈ nodes ∧ nodes.idxOf source < nodes.idxOf target) :
    (nodes ++ [last]).idxOf source < (nodes ++ [last]).idxOf target := by
  rw [List.idxOf_append_of_mem hs]
  rcases ht with rfl | ⟨hm, hlt⟩
  · rw [List.idxOf_append_of_notMem hn]
    exact Nat.lt_add_right _ (List.idxOf_lt_length_of_mem hs)
  · rwa [List.idxOf_append_of_mem hm]

namespace Proof

variable {history : List Proof} {proof : Proof} {source target : CitedNode}

/-- Every edge leads from an earlier to a later node. -/
theorem Grown.idxOf_lt_of_cites (h : Grown history proof)
    (hc : proof.citations.Cites source target) :
    proof.citations.nodes.idxOf source < proof.citations.nodes.idxOf target := by
  induction h with
  | fresh =>
    rw [citations_fresh] at hc
    cases hc
  | extend h hj ih =>
    have hr := hj.reason_ne
    rw [h.nodes_extend hr]
    rcases (h.wellFormed.cites_extend hr).mp hc with hc | ⟨⟨cited, -, hf⟩, rfl⟩
    · exact idxOf_lt_concat (h.sourcesRecorded _ _ hc) h.line_notMem_nodes
        (Or.inr ⟨h.target_mem_nodes hc, ih hc⟩)
    · obtain ⟨found, hfound, rfl⟩ := Option.map_eq_some_iff.mp hf
      obtain ⟨scope, hs, hm⟩ := exists_of_find? hfound
      exact idxOf_lt_concat (h.node_mem hs hm) h.line_notMem_nodes (Or.inl rfl)
  | openBox h hp ih =>
    have hc := (h.wellFormed.cites_openBox hp).mp hc
    rw [h.nodes_openBox hp]
    exact idxOf_lt_concat (h.sourcesRecorded _ _ hc) h.line_notMem_nodes
      (Or.inr ⟨h.target_mem_nodes hc, ih hc⟩)
  | @close _ inner parent outer next steps h hs ih =>
    have hi : ∀ line ∈ inner.lines,
        line.node ∈ (citations ⟨inner, parent :: outer, next⟩).nodes :=
      fun line hl => h.node_mem List.mem_cons_self hl
    rw [h.nodes_close hs]
    rcases (h.wellFormed.cites_close hs).mp hc with hc | ⟨rfl | rfl, rfl⟩
    · exact idxOf_lt_concat (h.sourcesRecorded _ _ hc) (h.box_notMem_nodes hs)
        (Or.inr ⟨h.target_mem_nodes hc, ih hc⟩)
    · exact idxOf_lt_concat (hi _ (Scope.firstLine_mem hs)) (h.box_notMem_nodes hs) (Or.inl rfl)
    · exact idxOf_lt_concat (hi _ (Scope.lastLine_mem hs)) (h.box_notMem_nodes hs) (Or.inl rfl)

/-- Everything inside a closed box comes before the box. -/
theorem Grown.idxOf_lt_of_nestedLines (h : Grown history proof) :
    ∀ steps ∈ proof.closedBoxes, ∀ line ∈ steps.nestedLines,
      proof.citations.nodes.idxOf line.node < proof.citations.nodes.idxOf (.box steps.start) := by
  induction h with
  | fresh => exact fun _ hs => absurd hs List.not_mem_nil
  | extend h hj ih =>
    rw [closedBoxes_extend hj.reason_ne,h.nodes_extend hj.reason_ne]
    intro steps hs line hl
    exact idxOf_lt_concat (h.node_mem_of_nested (nestedLines_subset hs hl)) h.line_notMem_nodes
      (Or.inr ⟨h.box_mem_nodes.mpr ⟨steps, hs, rfl⟩, ih steps hs line hl⟩)
  | openBox h hp ih =>
    rw [closedBoxes_openBox hp,h.nodes_openBox hp]
    intro steps hs line hl
    exact idxOf_lt_concat (h.node_mem_of_nested (nestedLines_subset hs hl)) h.line_notMem_nodes
      (Or.inr ⟨h.box_mem_nodes.mpr ⟨steps, hs, rfl⟩, ih steps hs line hl⟩)
  | @close _ inner parent outer next steps h hs ih =>
    intro box hb line hl
    rw [h.nodes_close hs]
    rcases (mem_closedBoxes_close hs).mp hb with rfl | hb
    · have hi : line ∈ nested ⟨inner, parent :: outer, next⟩ := by
        rw [nested_inner]
        exact List.mem_append_right _ (nestedLines_of_toSubProof? hs ▸ hl)
      exact idxOf_lt_concat (h.node_mem_of_nested hi) (h.box_notMem_nodes hs) (Or.inl rfl)
    · exact idxOf_lt_concat (h.node_mem_of_nested (nestedLines_subset hb hl))
        (h.box_notMem_nodes hs)
        (Or.inr ⟨h.box_mem_nodes.mpr ⟨box, hb, rfl⟩, ih box hb line hl⟩)

/-- Every path of edges leads forward. -/
theorem Grown.idxOf_lt_of_transGen (h : Grown history proof)
    (hp : Relation.TransGen proof.citations.Cites source target) :
    proof.citations.nodes.idxOf source < proof.citations.nodes.idxOf target := by
  induction hp with
  | single hc => exact h.idxOf_lt_of_cites hc
  | tail _ hc ih => exact Nat.lt_trans ih (h.idxOf_lt_of_cites hc)

end Proof

/-! ## The whole graph -/

/-- What a graph says about a proof when it charts it. -/
structure CitationGraph.Charts (graph : CitationGraph) (proof : Proof) : Prop where
  /-- The plain nodes are the indices that were given out. -/
  lines : ∀ index, .line index ∈ graph.nodes ↔ 1 ≤ index ∧ index < proof.nextIndex
  /-- The other nodes are the indices under which closed boxes begin, at every depth. -/
  boxes : ∀ index, .box index ∈ graph.nodes ↔ ∃ steps ∈ proof.closedBoxes, steps.start = index
  /-- No two closed boxes begin under one index. -/
  starts : (proof.closedBoxes.map SubProof.start).Nodup
  /-- No node occurs twice. -/
  nodes : graph.nodes.Nodup
  /-- The entries are those of the lines, at the depth of the open scopes, the global one left out,
  and the closed boxes around each line. -/
  entries : ∀ entry, entry ∈ graph.entries ↔ ∃ placed ∈ proof.placedLines,
    entry = proof.placedEntry placed
  /-- The edges lead to each plain line from all that it cites, and to each closed box from its
  assumption and its last line. -/
  edges : ∀ source target, graph.Cites source target ↔
    (∃ line ∈ proof.expanded, (∃ index ∈ line.reason.cited, source = proof.citedNode line index) ∧
        target = .line line.index) ∨
      ∃ steps ∈ proof.closedBoxes, (source = .line steps.start ∨ source = steps.lastLine.node) ∧
        target = .box steps.start
  /-- No edge occurs twice. -/
  once : graph.edges.Nodup
  /-- Every edge begins at a node of the graph. -/
  sources : graph.SourcesRecorded
  /-- The plain nodes are listed in the order in which their lines were added. -/
  ordered : graph.nodes.filter (fun node => !node.isBox) =
    (indicesBelow proof.nextIndex).map .line
  /-- A closed box is listed right after its last line. -/
  closed : ∀ steps ∈ proof.closedBoxes,
    [steps.lastLine.node, .box steps.start] <:+: graph.nodes
  /-- A closed box is listed after everything inside it. -/
  inside : ∀ steps ∈ proof.closedBoxes, ∀ line ∈ steps.nestedLines,
    graph.nodes.idxOf line.node < graph.nodes.idxOf (.box steps.start)
  /-- Every edge leads forward in the list of nodes. -/
  forward : ∀ source target, graph.Cites source target →
    graph.nodes.idxOf source < graph.nodes.idxOf target
  /-- No path leads from a node to itself. -/
  acyclic : ∀ node, ¬Relation.TransGen graph.Cites node node

namespace Proof

/-- The graph of a proof that grew charts it. -/
theorem Grown.charts {history : List Proof} {proof : Proof} (h : Grown history proof) :
    proof.citations.Charts proof where
  lines := fun _ => h.line_mem_nodes
  boxes := fun _ => h.box_mem_nodes
  starts := h.nodup_starts
  nodes := h.nodup_nodes
  entries := fun _ => h.mem_entries
  edges := fun _ _ => h.cites_iff
  once := h.nodup_edges
  sources := h.sourcesRecorded
  ordered := h.filter_nodes
  closed := h.infix_nodes
  inside := h.idxOf_lt_of_nestedLines
  forward := fun _ _ hc => h.idxOf_lt_of_cites hc
  acyclic := fun _ hp => Nat.lt_irrefl _ (h.idxOf_lt_of_transGen hp)

/-- After every run the citation graph charts the proof: it has exactly the nodes and edges of the
lines and closed boxes, at their depths, and every edge leads forward. -/
theorem charts_run {operations : List Operation}
    (hb : ∀ operation ∈ operations, operation.assumesBox = false) :
    (fresh.run operations).citations.Charts (fresh.run operations) := by
  obtain ⟨_, h⟩ := Grown.fresh.exists_run hb
  exact h.charts

/-- An assumption is cited as a line inside its box and as a box around it, also after the line
that cited the box was undone and another one was added. -/
theorem charts_run_of_nested_boxes :
    let p : Proposition := .symbol "p"
    let operations := [.assume p, .assume p, .copy 1, .infer (.andI 2 3), .close, .copy 2, .undo,
      .infer (.implyI 2), .close]
    (∀ operation ∈ operations, operation.assumesBox = false) ∧
      (fresh.run operations).citations.Charts (fresh.run operations) ∧
      (fresh.run operations).citations.Cites (.line 2) (.line 4) ∧
      (fresh.run operations).citations.Cites (.box 2) (.line 5) ∧
      (fresh.run operations).citations.Cites (.line 5) (.box 1) := by
  intro p operations
  have hb : ∀ operation ∈ operations, operation.assumesBox = false := by decide
  have hc := charts_run hb
  refine ⟨hb, hc, ?_⟩
  simp only [hc.edges]
  decide +kernel

end Proof

end BoxedDeduction
