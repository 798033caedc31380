import BoxedDeduction.Proposition.Basic

/-!
# Scopes

A scope holds the lines of one level of nesting in the order of insertion, at
most one under each index. The first line of a nested scope is its assumption
and the last one is what it derives. A scope is folded into a sub-proof when
its box is closed, and a sub-proof is unfolded into a scope when the box is
opened again.
-/

namespace BoxedDeduction

/-- A state of the proof that does not let an operation finish. -/
inductive StateFault where
  /-- The scope already holds a line under this index. -/
  | indexInUse (index : Int)
  /-- The innermost scope has no line. -/
  | noAssumption
  /-- The latest line is neither in the innermost scope nor in a box at its end. -/
  | notInScope (index : Int)
  /-- The latest line is an assumption that does not open the innermost scope. -/
  | notOpening (index : Int)
  deriving DecidableEq

/-- The message for a fault. -/
def StateFault.message : StateFault → String
  | .indexInUse index => "Step index " ++ toString index ++ " is already in use"
  | .noAssumption => "Open scope without an assumption"
  | .notInScope index => "Step " ++ toString index ++ " is not in the current scope"
  | .notOpening index => "Assumption " ++ toString index ++ " does not open the current scope"

/-- The lines of one level of nesting, in the order of insertion. -/
structure Scope where
  /-- The lines, the latest one last. -/
  lines : List Line
  deriving DecidableEq

namespace Scope

/-- The scope without lines. -/
def empty : Scope := ⟨[]⟩

/-- The number of lines. -/
def size (scope : Scope) : Nat := scope.lines.length

/-- The indices in the order of insertion. -/
def indices (scope : Scope) : List Int := scope.lines.map Line.index

/-- Whether an index is in use. -/
def contains (scope : Scope) (index : Int) : Bool := scope.lines.any (·.index == index)

/-- The line under an index. -/
def get? (scope : Scope) (index : Int) : Option Line := scope.lines.find? (·.index == index)

/-- The line that was inserted first. -/
def first? (scope : Scope) : Option Line := scope.lines.head?

/-- The line that was inserted last. -/
def last? (scope : Scope) : Option Line := scope.lines.getLast?

/-- Add a line at the end, unless its index is in use. -/
def insert (scope : Scope) (line : Line) : Except StateFault Scope :=
  if scope.contains line.index then .error (.indexInUse line.index)
  else .ok ⟨scope.lines ++ [line]⟩

/-- The scope without the line under an index. -/
def erase (scope : Scope) (index : Int) : Scope := ⟨scope.lines.eraseP (·.index == index)⟩

/-- Take the line under an index out of the scope, unless there is none. -/
def remove? (scope : Scope) (index : Int) : Option (Line × Scope) :=
  (scope.get? index).map fun line => (line, scope.erase index)

/-- Insert lines one after the other, up to the first index that is in use. -/
def insertAll (scope : Scope) : List Line → Except StateFault Scope
  | [] => .ok scope
  | line :: rest =>
    match scope.insert line with
    | .ok next => next.insertAll rest
    | .error fault => .error fault

/-- The scope of given lines. -/
def ofLines (lines : List Line) : Except StateFault Scope := empty.insertAll lines

/-- The lines in the order of their indices, in which a proof is displayed. -/
def sorted (scope : Scope) : List Line :=
  scope.lines.mergeSort fun a b => decide (a.index ≤ b.index)

/-- The lines as a sub-proof. -/
def toSubProof? (scope : Scope) : Option SubProof := SubProof.ofList? scope.lines

/-- Unfold a sub-proof. -/
def ofSubProof (steps : SubProof) : Except StateFault Scope := ofLines steps.toList

/-- The index and the content of the closed box that was inserted last. -/
def lastBox? (scope : Scope) : Option (Int × SubProof) := do
  let line ← scope.last?
  let steps ← line.closedBox?
  return (line.index, steps)

/-- The line under an index, if it does not stand for a closed box. -/
def plain? (scope : Scope) (index : Int) : Option Line :=
  (scope.get? index).filter fun line => !line.isClosedBox

/-- A scope in short: the indices in the order of insertion. -/
def summary (scope : Scope) : String :=
  "Scope(indices=[" ++ ", ".intercalate (scope.indices.map toString) ++ "])"

/-- Lines that were all inserted stand at the end in their order. -/
theorem lines_of_insertAll {scope result : Scope} {lines : List Line}
    (h : scope.insertAll lines = .ok result) : result.lines = scope.lines ++ lines := by
  induction lines generalizing scope with
  | nil =>
    simp only [insertAll, Except.ok.injEq] at h
    rw [h,List.append_nil]
  | cons line rest ih =>
    simp only [insertAll, insert] at h
    split at h
    · next next hn =>
      split at hn
      · cases hn
      · cases hn
        rw [ih h,List.append_assoc,List.singleton_append]
    · cases h

/-- An unfolded sub-proof has the lines of the sub-proof. -/
theorem lines_of_ofSubProof {scope : Scope} {steps : SubProof}
    (h : ofSubProof steps = .ok scope) : scope.lines = steps.toList := by
  rw [lines_of_insertAll h,empty,List.nil_append]

end Scope

/-- How many closed boxes stand one inside the other at the end of a sub-proof. -/
def SubProof.closingDepth : SubProof → Nat
  | .last _ (.box steps) .assumption => steps.closingDepth + 1
  | .last _ _ _ => 0
  | .more _ _ _ rest => rest.closingDepth

/-- How many closed boxes end at a line, the box of the line being the outermost. -/
def Line.closingDepth (line : Line) : Nat :=
  match line.closedBox? with
  | some steps => steps.closingDepth + 1
  | none => 0

/-- How many closed boxes stand one inside the other at the end of a scope. -/
def Scope.closingDepth (scope : Scope) : Nat :=
  match scope.last? with
  | some line => line.closingDepth
  | none => 0

/-- The boxes at the end of a sub-proof are those that end at its last line. -/
theorem SubProof.closingDepth_lastLine : ∀ steps : SubProof,
    steps.lastLine.closingDepth = steps.closingDepth
  | .more _ _ _ rest => by
    rw [lastLine,closingDepth_lastLine rest,closingDepth]
  | .last _ prop reason => by
    cases prop <;> cases reason <;>
      simp only [lastLine, Line.closingDepth, Line.closedBox?, closingDepth]

/-- The last of the listed lines is the last line. -/
theorem SubProof.getLast?_toList : ∀ steps : SubProof, steps.toList.getLast? = some steps.lastLine
  | .last _ _ _ => rfl
  | .more _ _ _ rest => by
    have h := getLast?_toList rest
    simp only [toList] at h
    simp only [toList, laterLines, List.getLast?_cons_cons, h, lastLine]

/-- Opening the last box leaves one box fewer to open. -/
theorem Scope.closingDepth_of_lastBox? {scope inner : Scope} {index : Int} {steps : SubProof}
    (h : scope.lastBox? = some (index, steps)) (hi : ofSubProof steps = .ok inner) :
    scope.closingDepth = inner.closingDepth + 1 := by
  have hl : inner.last? = some steps.lastLine := by
    rw [last?,lines_of_ofSubProof hi,SubProof.getLast?_toList]
  simp only [lastBox?, Option.bind_eq_bind, Option.bind_eq_some_iff, Option.pure_def,
    Option.some.injEq, Prod.mk.injEq] at h
  obtain ⟨line, hline, steps', hsteps, _, rfl⟩ := h
  simp only [closingDepth, hline, hl, SubProof.closingDepth_lastLine]
  simp only [Line.closingDepth, hsteps]

end BoxedDeduction
