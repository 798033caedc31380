import BoxedDeduction.Proofs.Proof.Deduction
import BoxedDeduction.Proofs.Proof.Reachability

/-!
# How the citation graph grows

The graph is recorded from the outermost scope inwards, each scope line by line. In a well-formed
proof the lines of a scope stand in the order of their indices, and an index means the line that
is visible under it. So the graph of a proof that grew is the one before with the node of the
new line or box: a line is cited by nothing yet and cites what its justification names, and a
box depends on its assumption and on its last line.
-/

namespace BoxedDeduction

/-! ## Nodes and edges -/

namespace CitationGraph

variable {graph : CitationGraph} {entry : CitationEntry} {node source target first second : CitedNode}

/-- Recording a node adds it to the nodes. -/
theorem mem_nodes_addEntry :
    node ∈ (graph.addEntry entry).nodes ↔ node ∈ graph.nodes ∨ node = entry.node := by
  rw [addEntry]
  split
  · next hr =>
    -- The node was recorded before, and its entry is replaced by one with the same node.
    have hn : (graph.entries.map fun old => if old.node = entry.node then entry else old).map
        CitationEntry.node = graph.nodes := by
      rw [nodes,List.map_map]
      refine List.map_congr_left ?_
      intro old _
      rw [Function.comp_apply]
      split
      · next he => exact he.symm
      · rfl
    have hm : entry.node ∈ graph.nodes := by
      obtain ⟨old, ho, he⟩ := List.any_eq_true.mp hr
      exact List.mem_map.mpr ⟨old, ho, beq_iff_eq.mp he⟩
    rw [nodes,hn]
    refine ⟨Or.inl, ?_⟩
    rintro (h | rfl)
    · exact h
    · exact hm
  · rw [nodes,List.map_append,List.mem_append,List.map_singleton,List.mem_singleton,nodes]

/-- Recording a node adds no edge. -/
theorem cites_addEntry : (graph.addEntry entry).Cites source target ↔ graph.Cites source target := by
  rw [addEntry]
  split <;> rfl

/-- Recording an edge adds that edge. -/
theorem cites_addEdge : (graph.addEdge first second).Cites source target ↔
    graph.Cites source target ∨ source = first ∧ target = second := by
  rw [addEdge]
  split
  · next h =>
    refine ⟨Or.inl, ?_⟩
    rintro (h' | ⟨rfl, rfl⟩)
    · exact h'
    · exact h
  · rw [Cites,List.mem_append,List.mem_singleton,Prod.mk.injEq]
    rfl

/-- Recording an edge adds no node. -/
theorem nodes_addEdge : (graph.addEdge first second).nodes = graph.nodes := by
  rw [addEdge]
  split <;> rfl

end CitationGraph

namespace CitationWalk

variable {walk inner : CitationWalk} {indices : List Int} {node source target goal : CitedNode}
  {depth : Nat} {line : Line} {index : Int} {steps : SubProof}

/-- An index that means a node is cited by an edge from it. -/
theorem cite_cons_of_some {later : List Int} (h : walk.meaning? index = some source) :
    walk.cite (index :: later) goal =
      cite ⟨walk.graph.addEdge source goal, walk.visible⟩ later goal := by
  rw [cite,List.foldl_cons,h]
  rfl

/-- An index that means no node is left out. -/
theorem cite_cons_of_none {later : List Int} (h : walk.meaning? index = none) :
    walk.cite (index :: later) goal = walk.cite later goal := by
  rw [cite,List.foldl_cons,h]
  rfl

/-- Citing indices adds no node. -/
theorem nodes_cite : (walk.cite indices goal).graph.nodes = walk.graph.nodes := by
  induction indices generalizing walk with
  | nil => rfl
  | cons first later ih =>
    cases hm : walk.meaning? first with
    | none => rw [cite_cons_of_none hm,ih]
    | some found => rw [cite_cons_of_some hm,ih,CitationGraph.nodes_addEdge]

/-- Citing indices adds the edges from what they mean. -/
theorem cites_cite : (walk.cite indices goal).graph.Cites source target ↔
    walk.graph.Cites source target ∨
      (∃ index ∈ indices, walk.meaning? index = some source) ∧ target = goal := by
  induction indices generalizing walk with
  | nil => simp [cite]
  | cons first later ih =>
    simp only [List.mem_cons, exists_eq_or_imp]
    cases hm : walk.meaning? first with
    | none =>
      rw [cite_cons_of_none hm,ih]
      simp only [reduceCtorEq, false_or]
    | some found =>
      rw [cite_cons_of_some hm,ih,CitationGraph.cites_addEdge,or_assoc,← or_and_right,
        Option.some.injEq,@eq_comm _ source]
      rfl

/-- A line becomes a node. -/
theorem mem_nodes_addLine : node ∈ (walk.addLine depth line).graph.nodes ↔
    node ∈ walk.graph.nodes ∨ node = .line line.index := by
  rw [addLine]
  dsimp only
  rw [nodes_cite,CitationGraph.mem_nodes_addEntry]

/-- A line cites what its justification names. -/
theorem cites_addLine : (walk.addLine depth line).graph.Cites source target ↔
    walk.graph.Cites source target ∨
      (∃ index ∈ line.reason.cited, walk.meaning? index = some source) ∧
        target = .line line.index := by
  rw [addLine]
  dsimp only
  rw [cites_cite,CitationGraph.cites_addEntry]
  rfl

/-- A closed box becomes a node. -/
theorem mem_nodes_addBox : node ∈ (walk.addBox inner depth index steps).graph.nodes ↔
    node ∈ inner.graph.nodes ∨ node = .box index := by
  rw [addBox]
  dsimp only
  rw [nodes_cite,CitationGraph.mem_nodes_addEntry]

/-- A closed box depends on its assumption and on its last line. -/
theorem cites_addBox : (walk.addBox inner depth index steps).graph.Cites source target ↔
    inner.graph.Cites source target ∨
      (∃ cited ∈ [steps.start, steps.lastLine.index], inner.meaning? cited = some source) ∧
        target = .box index := by
  rw [addBox]
  dsimp only
  rw [cites_cite,CitationGraph.cites_addEntry]
  rfl

end CitationWalk

/-! ## Recording lines -/

/-- The lines of a sub-proof are recorded one after the other. -/
theorem SubProof.recordCitations_eq : ∀ (steps : SubProof) (depth : Nat) (walk : CitationWalk),
    steps.recordCitations depth walk = walk.addLines depth steps.toList
  | .last _ _ _, _, _ => rfl
  | .more index prop reason rest, depth, walk => by
    rw [recordCitations,recordCitations_eq rest]
    rfl

namespace Line

variable {line : Line} {steps : SubProof}

/-- A plain line is recorded as itself. -/
theorem recordCitations_of_plain (h : line.closedBox? = none) (depth : Nat) (walk : CitationWalk) :
    line.prop.recordCitations depth line.index line.reason walk = walk.addLine depth line := by
  obtain ⟨index, prop, reason⟩ := line
  cases prop with
  | box steps =>
    have hr := (closedBox?_eq_none.mp h).resolve_right (by simp [Proposition.isBox])
    rw [Proposition.recordCitations,if_neg hr]
  | _ => rfl

/-- A closed box is recorded after its lines. -/
theorem recordCitations_of_closedBox (h : line.closedBox? = some steps) (depth : Nat)
    (walk : CitationWalk) : line.prop.recordCitations depth line.index line.reason walk =
      walk.addBox (walk.addLines (depth + 1) steps.toList) depth line.index steps := by
  obtain ⟨index, prop, reason⟩ := line
  obtain ⟨rfl, rfl⟩ := closedBox?_eq_some.mp h
  rw [Proposition.recordCitations,if_pos rfl,steps.recordCitations_eq]

/-- The node of a plain line. -/
theorem node_of_plain (h : line.closedBox? = none) : line.node = .line line.index := by
  rw [node,isClosedBox_eq_false.mpr h]
  rfl

/-- The node of a closed box. -/
theorem node_of_closedBox (h : line.closedBox? = some steps) : line.node = .box line.index := by
  rw [node,isClosedBox,h]
  rfl

end Line

namespace CitationWalk

variable {walk : CitationWalk} {depth : Nat} {line : Line} {lines : List Line}

/-- A recorded line is visible under its index. -/
theorem visible_recordCitations (walk : CitationWalk) (depth : Nat) (line : Line) :
    (line.prop.recordCitations depth line.index line.reason walk).visible =
      (line.index, line.node) :: walk.visible := by
  cases h : line.closedBox? with
  | none => rw [Line.recordCitations_of_plain h,addLine,Line.node_of_plain h]
  | some steps => rw [Line.recordCitations_of_closedBox h,addBox,Line.node_of_closedBox h]

/-- Recorded lines are visible under their indices, the last one first. -/
theorem visible_addLines (walk : CitationWalk) (depth : Nat) (lines : List Line) :
    (walk.addLines depth lines).visible =
      (lines.map fun line => (line.index, line.node)).reverse ++ walk.visible := by
  induction lines generalizing walk with
  | nil => rfl
  | cons first later ih =>
    rw [addLines,List.foldl_cons,← addLines,ih,visible_recordCitations,List.map_cons,
      List.reverse_cons,List.append_assoc,List.singleton_append]

/-- The last line is recorded last. -/
theorem addLines_concat (walk : CitationWalk) (depth : Nat) (lines : List Line) (line : Line) :
    walk.addLines depth (lines ++ [line]) =
      line.prop.recordCitations depth line.index line.reason (walk.addLines depth lines) := by
  rw [addLines,List.foldl_append]
  rfl

/-- The walk over scopes that are listed from the innermost to the global one, line by line. -/
def ofScopes : List Scope → CitationWalk
  | [] => start
  | scope :: outer => (ofScopes outer).addLines outer.length scope.lines

variable {scope parent inner : Scope} {outer : List Scope} {steps : SubProof}

/-- A plain line at the end of the innermost scope is recorded last. -/
theorem ofScopes_append (h : line.closedBox? = none) : ofScopes (scope.append line :: outer) =
    (ofScopes (scope :: outer)).addLine outer.length line := by
  rw [ofScopes,Scope.append,addLines_concat,Line.recordCitations_of_plain h,ofScopes]

/-- The line that opens a scope is recorded after the lines around it. -/
theorem ofScopes_openBox (h : line.closedBox? = none) : ofScopes (⟨[line]⟩ :: outer) =
    (ofScopes outer).addLine outer.length line := by
  rw [ofScopes,← Line.recordCitations_of_plain h]
  rfl

/-- A box is recorded after the lines that it had when it was open. -/
theorem ofScopes_close (h : inner.toSubProof? = some steps) :
    ofScopes (parent.append steps.boxLine :: outer) =
      (ofScopes (parent :: outer)).addBox (ofScopes (inner :: parent :: outer)) outer.length
        steps.start steps := by
  rw [ofScopes,Scope.append,addLines_concat,
    Line.recordCitations_of_closedBox steps.closedBox?_boxLine,Scope.toSubProof?_eq_some.mp h]
  rfl

/-- Walking over numbered scopes from the global one inwards is the walk over these scopes. -/
theorem foldl_eq_ofScopes {scopes : List Scope}
    (h : ∀ scope ∈ scopes, scope.sorted = scope.lines) :
    scopes.reverse.zipIdx.foldl (fun walk (scope, depth) => walk.addLines depth scope.sorted)
      start = ofScopes scopes := by
  induction scopes with
  | nil => rfl
  | cons scope outer ih =>
    rw [List.reverse_cons,List.zipIdx_append,List.foldl_append,
      ih fun other ho => h other (List.mem_cons_of_mem _ ho),Nat.zero_add,List.length_reverse]
    simp only [List.zipIdx_singleton, List.foldl_cons, List.foldl_nil, h scope List.mem_cons_self,
      ofScopes]

end CitationWalk

/-- The last line of a sub-proof is a line of the scope that makes it. -/
theorem Scope.lastLine_mem {scope : Scope} {steps : SubProof}
    (h : scope.toSubProof? = some steps) : steps.lastLine ∈ scope.lines := by
  rw [← Scope.toSubProof?_eq_some.mp h]
  exact List.mem_of_getLast? steps.getLast?_toList

/-! ## What an index means -/

/-- Lines with increasing indices are found under their own. -/
theorem find?_of_increasing {lines : List Line} (h : (lines.map Line.index).Pairwise (· < ·))
    {line : Line} (hl : line ∈ lines) : lines.find? (·.index == line.index) = some line := by
  induction lines with
  | nil => cases hl
  | cons first later ih =>
    rw [List.map_cons,List.pairwise_cons] at h
    rcases List.mem_cons.mp hl with rfl | hl
    · exact List.find?_cons_of_pos (beq_self_eq_true line.index)
    · have hlt := h.1 _ (List.mem_map_of_mem hl)
      have hn : (first.index == line.index) = false := by simpa using Int.ne_of_lt hlt
      simp only [List.find?_cons, hn]
      exact ih h.2 hl

/-- Among lines with increasing indices it makes no difference whether the first or the last one
is searched for. -/
theorem lookup_reverse_of_increasing {lines : List Line}
    (h : (lines.map Line.index).Pairwise (· < ·)) (index : Int) :
    (lines.map fun line => (line.index, line.node)).reverse.lookup index =
      (lines.find? (·.index == index)).map Line.node := by
  induction lines with
  | nil => rfl
  | cons first later ih =>
    rw [List.map_cons,List.pairwise_cons] at h
    rw [List.map_cons,List.reverse_cons,List.lookup_append,ih h.2]
    by_cases hi : first.index = index
    · have hl : later.find? (·.index == index) = none := by
        rw [List.find?_eq_none]
        intro line hl
        rw [beq_iff_eq,← hi]
        exact Int.ne_of_gt (h.1 _ (List.mem_map_of_mem hl))
      simp [hl, hi]
    · have hn : (first.index == index) = false := by simpa using hi
      have hs : (index == first.index) = false := by simpa using Ne.symm hi
      simp only [List.find?_cons, hn, List.lookup_cons, hs, List.lookup_nil, Option.or_none]

/-- An index means the line that is found under it first, from the innermost scope outwards. -/
theorem CitationWalk.meaning?_ofScopes {scopes : List Scope}
    (h : ∀ scope ∈ scopes, (scope.lines.map Line.index).Pairwise (· < ·)) (index : Int) :
    (ofScopes scopes).meaning? index =
      (scopes.findSome? fun scope => scope.get? index).map Line.node := by
  induction scopes with
  | nil => rfl
  | cons scope outer ih =>
    have ho := ih fun other hm => h other (List.mem_cons_of_mem _ hm)
    rw [meaning?] at ho
    rw [meaning?,ofScopes,visible_addLines,List.lookup_append,
      lookup_reverse_of_increasing (h scope List.mem_cons_self),ho,List.findSome?_cons]
    simp only [Scope.get?]
    cases scope.lines.find? (·.index == index) <;> rfl

namespace Proof

variable {proof : Proof} {prop : Proposition} {reason : Justification} {index : Int}
  {source target node : CitedNode}

/-- The lines of a scope of a well-formed proof are displayed as they stand. -/
theorem WellFormed.sorted_eq (h : proof.WellFormed) {scope : Scope} (hs : scope ∈ proof.openScopes) :
    scope.sorted = scope.lines := by
  have hp := List.pairwise_map.mp (h.pairwise_scope (List.mem_reverse.mpr hs))
  refine List.mergeSort_of_pairwise (hp.imp ?_)
  intro first second hlt
  exact decide_eq_true (Int.le_of_lt hlt)

/-- The graph of a well-formed proof is recorded line by line. -/
theorem WellFormed.citations_eq (h : proof.WellFormed) :
    proof.citations = (CitationWalk.ofScopes proof.openScopes).graph := by
  rw [citations,scopes,CitationWalk.foldl_eq_ofScopes fun scope hs => h.sorted_eq hs]

/-- In a well-formed proof an index means the visible line under it. -/
theorem WellFormed.meaning?_eq (h : proof.WellFormed) (index : Int) :
    (CitationWalk.ofScopes proof.openScopes).meaning? index = (proof.find? index).map Line.node :=
  CitationWalk.meaning?_ofScopes (fun _ hs => h.pairwise_scope (List.mem_reverse.mpr hs)) index

/-- The lines of the innermost scope are visible under their indices. -/
theorem WellFormed.find?_of_mem_current (h : proof.WellFormed) {line : Line}
    (hl : line ∈ proof.current.lines) : proof.find? line.index = some line := by
  have hs : proof.current ∈ proof.openScopes := List.mem_cons_self
  have hg : proof.current.get? line.index = some line :=
    find?_of_increasing (h.pairwise_scope (List.mem_reverse.mpr hs)) hl
  rw [find?_eq,hg,Option.some_or]

/-! ## Growing graphs -/

/-- The graph of the proof without lines has no node. -/
theorem citations_fresh : fresh.citations = .empty := by
  rw [WellFormed.fresh.citations_eq]
  rfl

/-- A line that opens no box is recorded last. -/
theorem WellFormed.citations_extend (h : proof.WellFormed) (hr : reason ≠ .assumption) :
    (proof.extend prop reason).citations =
      ((CitationWalk.ofScopes proof.openScopes).addLine proof.enclosing.length
        ⟨proof.nextIndex, prop, reason⟩).graph := by
  have hp : (Line.mk proof.nextIndex prop reason).closedBox? = none :=
    Line.closedBox?_eq_none.mpr (Or.inl hr)
  rw [(h.extend hr).citations_eq,Proof.extend,openScopes,CitationWalk.ofScopes_append hp]
  rfl

/-- A line that opens no box becomes a node. -/
theorem WellFormed.mem_nodes_extend (h : proof.WellFormed) (hr : reason ≠ .assumption) :
    node ∈ (proof.extend prop reason).citations.nodes ↔
      node ∈ proof.citations.nodes ∨ node = .line proof.nextIndex := by
  rw [h.citations_extend hr,h.citations_eq,CitationWalk.mem_nodes_addLine]

/-- A line that opens no box cites the nodes of the lines that its justification names. -/
theorem WellFormed.cites_extend (h : proof.WellFormed) (hr : reason ≠ .assumption) :
    (proof.extend prop reason).citations.Cites source target ↔
      proof.citations.Cites source target ∨
        (∃ cited ∈ reason.cited, (proof.find? cited).map Line.node = some source) ∧
          target = .line proof.nextIndex := by
  rw [h.citations_extend hr,h.citations_eq,CitationWalk.cites_addLine]
  simp only [h.meaning?_eq]

/-- The assumption of a new box is recorded last. -/
theorem WellFormed.citations_openBox (h : proof.WellFormed) (hp : prop.isBox = false) :
    (proof.openBox prop).citations =
      ((CitationWalk.ofScopes proof.openScopes).addLine proof.openScopes.length
        ⟨proof.nextIndex, prop, .assumption⟩).graph := by
  have hl : (Line.mk proof.nextIndex prop .assumption).closedBox? = none :=
    Line.closedBox?_eq_none.mpr (Or.inr hp)
  rw [(h.openBox hp).citations_eq,Proof.openBox,openScopes,CitationWalk.ofScopes_openBox hl]

/-- The assumption of a new box becomes a node. -/
theorem WellFormed.mem_nodes_openBox (h : proof.WellFormed) (hp : prop.isBox = false) :
    node ∈ (proof.openBox prop).citations.nodes ↔
      node ∈ proof.citations.nodes ∨ node = .line proof.nextIndex := by
  rw [h.citations_openBox hp,h.citations_eq,CitationWalk.mem_nodes_addLine]

/-- The assumption of a new box cites nothing. -/
theorem WellFormed.cites_openBox (h : proof.WellFormed) (hp : prop.isBox = false) :
    (proof.openBox prop).citations.Cites source target ↔ proof.citations.Cites source target := by
  rw [h.citations_openBox hp,h.citations_eq,CitationWalk.cites_addLine]
  simp [Justification.cited]

section Closing

variable {inner parent : Scope} {outer : List Scope} {next : Int} {steps : SubProof}

/-- A closed box is recorded last. -/
theorem WellFormed.citations_close (h : WellFormed ⟨inner, parent :: outer, next⟩)
    (hs : inner.toSubProof? = some steps) :
    citations ⟨parent.append steps.boxLine, outer, next⟩ =
      ((CitationWalk.ofScopes (parent :: outer)).addBox (CitationWalk.ofScopes (inner :: parent :: outer))
        outer.length steps.start steps).graph := by
  rw [(h.close hs).citations_eq,openScopes,CitationWalk.ofScopes_close hs]

/-- A closed box becomes a node. -/
theorem WellFormed.mem_nodes_close (h : WellFormed ⟨inner, parent :: outer, next⟩)
    (hs : inner.toSubProof? = some steps) :
    node ∈ (citations ⟨parent.append steps.boxLine, outer, next⟩).nodes ↔
      node ∈ (citations ⟨inner, parent :: outer, next⟩).nodes ∨ node = .box steps.start := by
  rw [h.citations_close hs,h.citations_eq,CitationWalk.mem_nodes_addBox]
  rfl

/-- A closed box depends on its assumption and on its last line. -/
theorem WellFormed.cites_close (h : WellFormed ⟨inner, parent :: outer, next⟩)
    (hs : inner.toSubProof? = some steps) :
    (citations ⟨parent.append steps.boxLine, outer, next⟩).Cites source target ↔
      (citations ⟨inner, parent :: outer, next⟩).Cites source target ∨
        (source = steps.firstLine.node ∨ source = steps.lastLine.node) ∧
          target = .box steps.start := by
  have hm : ∀ {line : Line}, line ∈ inner.lines →
      (CitationWalk.ofScopes (inner :: parent :: outer)).meaning? line.index = some line.node := by
    intro line hl
    have he := h.meaning?_eq line.index
    rwa [h.find?_of_mem_current hl] at he
  have hf := hm (Scope.firstLine_mem hs)
  have hl := hm (Scope.lastLine_mem hs)
  rw [h.citations_close hs,h.citations_eq,CitationWalk.cites_addBox]
  simp only [List.mem_cons, List.not_mem_nil, or_false, exists_eq_or_imp, exists_eq_left,
    SubProof.start, hf, hl, Option.some.injEq, openScopes, @eq_comm _ _ source]

end Closing

/-! ## Nodes of visible lines -/

/-- A visible line is a line of an open scope. -/
theorem exists_of_find? {line : Line} (h : proof.find? index = some line) :
    ∃ scope ∈ proof.openScopes, line ∈ scope.lines := by
  obtain ⟨scope, hs, hg⟩ := List.exists_of_findSome?_eq_some h
  exact ⟨scope, hs, (Scope.mem_of_get?_eq_some hg).1⟩

variable {history : List Proof} {scope : Scope} {line : Line}

/-- The lines of the open scopes are nodes. -/
theorem Grown.node_mem (h : Grown history proof) (hs : scope ∈ proof.openScopes)
    (hl : line ∈ scope.lines) : line.node ∈ proof.citations.nodes := by
  induction h generalizing scope with
  | fresh =>
    rw [List.mem_singleton.mp hs] at hl
    cases hl
  | extend h hj ih =>
    rw [h.wellFormed.mem_nodes_extend hj.reason_ne]
    rcases List.mem_cons.mp hs with rfl | hs
    · rcases List.mem_append.mp hl with hl | hl
      · exact Or.inl (ih List.mem_cons_self hl)
      · rw [List.mem_singleton.mp hl]
        exact Or.inr (Line.node_of_plain (Line.closedBox?_eq_none.mpr (Or.inl hj.reason_ne)))
    · exact Or.inl (ih (List.mem_cons_of_mem _ hs) hl)
  | openBox h hp ih =>
    rw [h.wellFormed.mem_nodes_openBox hp]
    rcases List.mem_cons.mp hs with rfl | hs
    · rw [List.mem_singleton.mp hl]
      exact Or.inr (Line.node_of_plain (Line.closedBox?_eq_none.mpr (Or.inr hp)))
    · exact Or.inl (ih hs hl)
  | close h hc ih =>
    rw [h.wellFormed.mem_nodes_close hc]
    rcases List.mem_cons.mp hs with rfl | hs
    · rcases List.mem_append.mp hl with hl | hl
      · exact Or.inl (ih (List.mem_cons_of_mem _ List.mem_cons_self) hl)
      · rw [List.mem_singleton.mp hl]
        exact Or.inr rfl
    · exact Or.inl (ih (List.mem_cons_of_mem _ (List.mem_cons_of_mem _ hs)) hl)

/-- Every edge of the graph begins at one of its nodes. -/
theorem Grown.sourcesRecorded (h : Grown history proof) : proof.citations.SourcesRecorded := by
  induction h with
  | fresh =>
    intro source target hc
    rw [citations_fresh] at hc
    cases hc
  | extend h hj ih =>
    intro source target hc
    rw [h.wellFormed.mem_nodes_extend hj.reason_ne]
    rcases (h.wellFormed.cites_extend hj.reason_ne).mp hc with hc | ⟨⟨cited, -, hf⟩, -⟩
    · exact Or.inl (ih source target hc)
    · obtain ⟨line, hl, rfl⟩ := Option.map_eq_some_iff.mp hf
      obtain ⟨scope, hs, hm⟩ := exists_of_find? hl
      exact Or.inl (h.node_mem hs hm)
  | openBox h hp ih =>
    intro source target hc
    rw [h.wellFormed.mem_nodes_openBox hp]
    exact Or.inl (ih source target ((h.wellFormed.cites_openBox hp).mp hc))
  | @close _ inner parent outer next steps h hs ih =>
    intro source target hc
    rw [h.wellFormed.mem_nodes_close hs]
    have hi : ∀ line ∈ inner.lines,
        line.node ∈ (citations ⟨inner, parent :: outer, next⟩).nodes :=
      fun _ hl => h.node_mem List.mem_cons_self hl
    rcases (h.wellFormed.cites_close hs).mp hc with hc | ⟨rfl | rfl, -⟩
    · exact Or.inl (ih source target hc)
    · exact Or.inl (hi _ (Scope.firstLine_mem hs))
    · exact Or.inl (hi _ (Scope.lastLine_mem hs))

end Proof

end BoxedDeduction
