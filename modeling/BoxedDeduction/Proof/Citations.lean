import BoxedDeduction.Proof.Basic

/-!
# The citation graph

Every line and every closed box of a proof is a node, and an edge leads from
each node to those that cite it. Inside its box an assumption is cited as a
line; around the box the same index means the box. A closed box depends on its
assumption and on its last line. The premises from which no path leads to the
last line of the global scope are unused.
-/

namespace BoxedDeduction

/-- A node of the citation graph. -/
inductive CitedNode where
  /-- An ordinary line. -/
  | line (index : Int)
  /-- A closed box, named by the index of its assumption. -/
  | box (index : Int)
  deriving DecidableEq

namespace CitedNode

/-- The index of a node. -/
def index : CitedNode → Int
  | .line i => i
  | .box i => i

/-- Whether a node is a closed box. -/
def isBox : CitedNode → Bool
  | .line _ => false
  | .box _ => true

/-- The printed node. -/
def print : CitedNode → String
  | .line i => toString i
  | .box i => "box" ++ toString i

/-- Nodes are listed by index, an assumption before its box. -/
def precedes (a b : CitedNode) : Bool :=
  decide (a.index < b.index) || (a.index == b.index && (!a.isBox || b.isBox))

end CitedNode

/-- The sort of a node. -/
inductive NodeKind where
  | box
  | premise
  | assumption
  | copy
  | rule
  deriving DecidableEq

/-- The word for a sort of node. -/
def NodeKind.name : NodeKind → String
  | .box => "box"
  | .premise => "premise"
  | .assumption => "assumption"
  | .copy => "copy"
  | .rule => "rule"

/-- The sort of a line that is not a closed box. -/
def Justification.nodeKind : Justification → NodeKind
  | .premise => .premise
  | .assumption => .assumption
  | .copy _ => .copy
  | .inference _ => .rule

/-- A node with what the graph records about it. -/
structure CitationEntry where
  /-- The node. -/
  node : CitedNode
  /-- Its sort. -/
  kind : NodeKind
  /-- The number of scopes and boxes around it, the global scope left out. -/
  depth : Nat
  /-- The proposition that it states. -/
  prop : Proposition

/-- Nodes and the edges between them. -/
structure CitationGraph where
  /-- The nodes, each once. -/
  entries : List CitationEntry
  /-- The edges, each once, from the cited to the citing node. -/
  edges : List (CitedNode × CitedNode)

namespace CitationGraph

/-- The graph without nodes. -/
def empty : CitationGraph := ⟨[], []⟩

/-- Record a node. What was recorded about it before is replaced. -/
def addEntry (graph : CitationGraph) (entry : CitationEntry) : CitationGraph :=
  if graph.entries.any (·.node == entry.node) then
    { graph with
      entries := graph.entries.map fun old => if old.node = entry.node then entry else old }
  else { graph with entries := graph.entries ++ [entry] }

/-- Record an edge. -/
def addEdge (graph : CitationGraph) (source target : CitedNode) : CitationGraph :=
  if (source, target) ∈ graph.edges then graph
  else { graph with edges := graph.edges ++ [(source, target)] }

/-- The nodes in their order. -/
def sortedEntries (graph : CitationGraph) : List CitationEntry :=
  graph.entries.mergeSort fun a b => a.node.precedes b.node

/-- The edges in the order of their sources, then of their targets. -/
def sortedEdges (graph : CitationGraph) : List (CitedNode × CitedNode) :=
  graph.edges.mergeSort fun a b =>
    if a.1 = b.1 then a.2.precedes b.2 else a.1.precedes b.1

/-- The sources of edges into the latest nodes that are not known yet. -/
def newSources (graph : CitationGraph) (latest known : List CitedNode) : List CitedNode :=
  (graph.edges.filterMap fun (source, target) =>
    if target ∈ latest ∧ source ∉ known then some source else none).eraseDups

/-- Add the sources of edges into known nodes, for a number of rounds or until none is new. Only
edges into the latest of the nodes can lead to new ones. -/
def withSources (graph : CitationGraph) : Nat → List CitedNode → List CitedNode → List CitedNode
  | 0, _, known => known
  | rounds + 1, latest, known =>
    match graph.newSources latest known with
    | [] => known
    | fresh => graph.withSources rounds fresh (known ++ fresh)

/-- A node and all nodes from which a path leads to it. A path visits each node at most once,
so as many rounds as there are nodes suffice. -/
def needed (graph : CitationGraph) (target : CitedNode) : List CitedNode :=
  graph.withSources graph.entries.length [target] [target]

end CitationGraph

/-- A graph in the making, with the node that each visible index means. -/
structure CitationWalk where
  /-- The nodes and edges so far. -/
  graph : CitationGraph
  /-- What the visible indices mean, the latest meaning first. -/
  visible : List (Int × CitedNode)

namespace CitationWalk

/-- The walk before the first line. -/
def start : CitationWalk := ⟨.empty, []⟩

/-- The node that an index means. -/
def meaning? (walk : CitationWalk) (index : Int) : Option CitedNode := walk.visible.lookup index

/-- Record edges from cited indices to a node. An index that is not visible is left out. -/
def cite (walk : CitationWalk) (indices : List Int) (target : CitedNode) : CitationWalk :=
  { walk with graph := indices.foldl (fun graph index =>
      match walk.meaning? index with
      | some source => graph.addEdge source target
      | none => graph) walk.graph }

/-- Record an ordinary line. -/
def addLine (walk : CitationWalk) (depth : Nat) (line : Line) : CitationWalk :=
  let node := CitedNode.line line.index
  let entry : CitationEntry := ⟨node, line.reason.nodeKind, depth, line.prop⟩
  let recorded := { walk with graph := walk.graph.addEntry entry }
  let cited := recorded.cite line.reason.cited node
  { cited with visible := (line.index, node) :: walk.visible }

/-- Record a closed box after its lines. Outside the box its index means the box and its other
indices mean what they meant before. -/
def addBox (walk inner : CitationWalk) (depth : Nat) (index : Int) (steps : SubProof) :
    CitationWalk :=
  let node := CitedNode.box index
  let recorded := { inner with graph := inner.graph.addEntry ⟨node, .box, depth, .box steps⟩ }
  let cited := recorded.cite [steps.start, steps.lastLine.index] node
  { cited with visible := (index, node) :: walk.visible }

end CitationWalk

mutual

/-- Record the line that states a proposition. -/
def Proposition.recordCitations (depth : Nat) (index : Int) (reason : Justification)
    (walk : CitationWalk) : Proposition → CitationWalk
  | .box steps =>
    if reason = .assumption then
      walk.addBox (steps.recordCitations (depth + 1) walk) depth index steps
    else walk.addLine depth ⟨index, .box steps, reason⟩
  | prop => walk.addLine depth ⟨index, prop, reason⟩

/-- Record the lines of a sub-proof in their order. -/
def SubProof.recordCitations (depth : Nat) (walk : CitationWalk) : SubProof → CitationWalk
  | .last index prop reason => prop.recordCitations depth index reason walk
  | .more index prop reason rest =>
    rest.recordCitations depth (prop.recordCitations depth index reason walk)

end

/-- Record lines in their order. -/
def CitationWalk.addLines (walk : CitationWalk) (depth : Nat) (lines : List Line) : CitationWalk :=
  lines.foldl (fun walk line => line.prop.recordCitations depth line.index line.reason walk) walk

/-- The node of a line. -/
def Line.node (line : Line) : CitedNode :=
  if line.isClosedBox then .box line.index else .line line.index

namespace Proof

/-- The citation graph of a proof, its open scopes included. -/
def citations (proof : Proof) : CitationGraph :=
  (proof.scopes.zipIdx.foldl
    (fun walk (scope, depth) => walk.addLines depth scope.sorted) CitationWalk.start).graph

/-- The premises of the global scope that its last line does not depend on. -/
def unusedPremises (proof : Proof) : List Int :=
  match proof.globalScope.last? with
  | none => []
  | some last =>
    let needed := proof.citations.needed last.node
    (proof.globalScope.sorted.filter fun line =>
      line.reason = .premise ∧ CitedNode.line line.index ∉ needed).map Line.index

end Proof

end BoxedDeduction
