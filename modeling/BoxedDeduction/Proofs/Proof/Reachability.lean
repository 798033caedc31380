import BoxedDeduction.Proof.Citations
import Mathlib.Logic.Relation

/-!
# What a node depends on

The nodes that a node needs are found in rounds, each of which follows the edges back from the
nodes that were found last. A round that is not the last one finds a node of the graph that was
not known, so there are at least as many rounds as it takes: the nodes that are found are exactly
those from which a path leads to the given one.
-/

namespace BoxedDeduction

/-- Without its repetitions a list holds each element once. -/
theorem nodup_eraseDups {α : Type} [BEq α] [LawfulBEq α] : ∀ elements : List α,
    elements.eraseDups.Nodup
  | [] => by rw [List.eraseDups_nil]; exact List.nodup_nil
  | first :: later => by
    rw [List.eraseDups_cons,List.nodup_cons,List.mem_eraseDups,List.mem_filter]
    refine ⟨fun h => ?_, nodup_eraseDups _⟩
    simp only [beq_self_eq_true, Bool.not_true, Bool.false_eq_true, and_false] at h
termination_by elements => elements.length
decreasing_by
  have hl := List.length_filter_le (fun other => !other == first) later
  rw [List.length_cons]
  omega

namespace CitationGraph

/-- The nodes of a graph. -/
def nodes (graph : CitationGraph) : List CitedNode := graph.entries.map CitationEntry.node

/-- Whether an edge leads from one node to another. -/
def Cites (graph : CitationGraph) (source target : CitedNode) : Prop :=
  (source, target) ∈ graph.edges

/-- Whether every edge begins at a node of the graph. -/
def SourcesRecorded (graph : CitationGraph) : Prop :=
  ∀ source target, graph.Cites source target → source ∈ graph.nodes

/-- Whether what is cited by chosen nodes is chosen too. -/
def IsClosed (graph : CitationGraph) (chosen : List CitedNode) : Prop :=
  ∀ source target, graph.Cites source target → target ∈ chosen → source ∈ chosen

variable {graph : CitationGraph} {latest known : List CitedNode} {source target : CitedNode}

/-- A round finds what cites no known node but is cited by one of the latest. -/
theorem mem_newSources : source ∈ graph.newSources latest known ↔
    source ∉ known ∧ ∃ node ∈ latest, graph.Cites source node := by
  rw [newSources,List.mem_eraseDups,List.mem_filterMap]
  constructor
  · rintro ⟨⟨first, second⟩, he, hs⟩
    simp only [Option.ite_none_right_eq_some, Option.some.injEq] at hs
    obtain ⟨⟨hl, hk⟩, rfl⟩ := hs
    exact ⟨hk, second, hl, he⟩
  · rintro ⟨hk, node, hl, he⟩
    exact ⟨(source, node), he, if_pos ⟨hl, hk⟩⟩

/-- How far a search has come: what is known are nodes of the graph, each of them once, and all
edges into known nodes have been followed, except those into the latest. -/
structure Searched (graph : CitationGraph) (latest known : List CitedNode) : Prop where
  /-- What is known are nodes of the graph. -/
  recorded : ∀ node ∈ known, node ∈ graph.nodes
  /-- No node is known twice. -/
  nodup : known.Nodup
  /-- The latest nodes are known. -/
  latest_known : ∀ node ∈ latest, node ∈ known
  /-- The edges into other known nodes begin at known nodes. -/
  followed : ∀ source target, graph.Cites source target → target ∈ known →
    target ∈ latest ∨ source ∈ known

/-- A search starts at a node of the graph. -/
theorem Searched.start (h : target ∈ graph.nodes) : graph.Searched [target] [target] where
  recorded := by
    intro node hn
    rwa [List.mem_singleton.mp hn]
  nodup := List.pairwise_singleton _ target
  latest_known := fun _ hn => hn
  followed := fun _ _ _ hn => Or.inl hn

/-- A round takes a search one step further. -/
theorem Searched.round (h : graph.Searched latest known) (hg : graph.SourcesRecorded) :
    graph.Searched (graph.newSources latest known) (known ++ graph.newSources latest known) where
  recorded := by
    intro node hn
    rcases List.mem_append.mp hn with hn | hn
    · exact h.recorded node hn
    · obtain ⟨-, citing, -, he⟩ := mem_newSources.mp hn
      exact hg node citing he
  nodup := by
    refine List.nodup_append.mpr ⟨h.nodup, nodup_eraseDups _, ?_⟩
    rintro node hn _ hf rfl
    exact (mem_newSources.mp hf).1 hn
  latest_known := fun _ hn => List.mem_append_right _ hn
  followed := by
    intro source target he hn
    rcases List.mem_append.mp hn with hn | hn
    · refine Or.inr (List.mem_append.mpr ?_)
      by_cases hs : source ∈ known
      · exact Or.inl hs
      · have hl := (h.followed source target he hn).resolve_right hs
        exact Or.inr (mem_newSources.mpr ⟨hs, target, hl, he⟩)
    · exact Or.inl hn

/-- A search that finds nothing new has followed all edges. -/
theorem Searched.isClosed (h : graph.Searched latest known)
    (hf : graph.newSources latest known = []) : graph.IsClosed known := by
  intro source target he hn
  by_cases hs : source ∈ known
  · exact hs
  · have hl := (h.followed source target he hn).resolve_right hs
    have hm := mem_newSources.mpr ⟨hs, target, hl, he⟩
    rw [hf] at hm
    cases hm

/-- Without new nodes the search ends. -/
theorem withSources_of_eq_nil {rounds : Nat} (h : graph.newSources latest known = []) :
    graph.withSources (rounds + 1) latest known = known := by
  rw [withSources,h]

/-- With new nodes the search goes on from them. -/
theorem withSources_of_ne_nil {rounds : Nat} (h : graph.newSources latest known ≠ []) :
    graph.withSources (rounds + 1) latest known =
      graph.withSources rounds (graph.newSources latest known)
        (known ++ graph.newSources latest known) := by
  rw [withSources]
  split
  · next he => exact absurd he h
  · rfl

/-- What is known stays known. -/
theorem mem_withSources_of_mem {rounds : Nat} {node : CitedNode} (h : node ∈ known) :
    node ∈ graph.withSources rounds latest known := by
  induction rounds generalizing latest known with
  | zero => exact h
  | succ rounds ih =>
    by_cases hf : graph.newSources latest known = []
    · rwa [withSources_of_eq_nil hf]
    · rw [withSources_of_ne_nil hf]
      exact ih (List.mem_append_left _ h)

/-- What is found has what was to be found about the nodes known at first, if an edge hands it
on from its target to its source. -/
theorem withSources_induction (Wanted : CitedNode → Prop)
    (hw : ∀ source target, graph.Cites source target → Wanted target → Wanted source)
    {rounds : Nat} (hl : ∀ node ∈ latest, node ∈ known) (hk : ∀ node ∈ known, Wanted node) :
    ∀ node ∈ graph.withSources rounds latest known, Wanted node := by
  induction rounds generalizing latest known with
  | zero => exact hk
  | succ rounds ih =>
    by_cases hf : graph.newSources latest known = []
    · rwa [withSources_of_eq_nil hf]
    · rw [withSources_of_ne_nil hf]
      refine ih (fun node hn => List.mem_append_right _ hn) ?_
      intro node hn
      rcases List.mem_append.mp hn with hn | hn
      · exact hk node hn
      · obtain ⟨-, citing, hc, he⟩ := mem_newSources.mp hn
        exact hw node citing he (hk citing (hl citing hc))

/-- After enough rounds all edges have been followed. -/
theorem Searched.isClosed_withSources {rounds : Nat} (h : graph.Searched latest known)
    (hg : graph.SourcesRecorded) (hr : graph.nodes.length < rounds + known.length) :
    graph.IsClosed (graph.withSources rounds latest known) := by
  induction rounds generalizing latest known with
  | zero =>
    -- There cannot be more known nodes than nodes.
    have hle := h.nodup.length_le_of_subset h.recorded
    omega
  | succ rounds ih =>
    by_cases hf : graph.newSources latest known = []
    · rw [withSources_of_eq_nil hf]
      exact h.isClosed hf
    · rw [withSources_of_ne_nil hf]
      have hpos := List.length_pos_iff.mpr hf
      refine ih (h.round hg) ?_
      rw [List.length_append]
      omega

/-- A node needs itself. -/
theorem self_mem_needed (graph : CitationGraph) (target : CitedNode) :
    target ∈ graph.needed target :=
  mem_withSources_of_mem (List.mem_singleton.mpr rfl)

/-- A node needs what the nodes that it needs cite. -/
theorem isClosed_needed (hg : graph.SourcesRecorded) {goal : CitedNode}
    (hn : goal ∈ graph.nodes) : graph.IsClosed (graph.needed goal) := by
  refine (Searched.start hn).isClosed_withSources hg ?_
  rw [nodes,List.length_map,List.length_singleton]
  omega

/-- A node needs exactly the nodes from which a path leads to it. -/
theorem mem_needed_iff (hg : graph.SourcesRecorded) {goal : CitedNode} (hn : goal ∈ graph.nodes) :
    source ∈ graph.needed goal ↔ Relation.ReflTransGen graph.Cites source goal := by
  constructor
  · refine withSources_induction (fun node => Relation.ReflTransGen graph.Cites node goal)
      (fun _ _ he hp => hp.head he) (fun _ hm => hm) ?_ source
    intro node hm
    rw [List.mem_singleton.mp hm]
  · intro hp
    induction hp using Relation.ReflTransGen.head_induction_on with
    | refl => exact graph.self_mem_needed goal
    | head he _ ih => exact isClosed_needed hg hn _ _ he ih

end CitationGraph

end BoxedDeduction
