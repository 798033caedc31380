import BoxedDeduction.Proof.Basic

/-!
# Lines inside closed boxes

The lines of a proof form a tree: the line of a closed box holds the lines of the box.
Expanding a line replaces the line of a closed box by what stands inside it, at every
depth, so an expanded proof lists the lines that were numbered one by one. A proof is
well formed when these numbers are the indices below the next one in their order, each
closed box is found under the index of its first line, and exactly the lines that open
a box are assumptions of a formula.
-/

namespace BoxedDeduction

/-- Whether a proposition is a box. -/
def Proposition.isBox : Proposition → Bool
  | .box _ => true
  | _ => false

mutual

/-- The line that states a proposition, followed by the lines inside it if it stands for a
closed box. -/
def Proposition.nestedLines (index : Int) (reason : Justification) : Proposition → List Line
  | .box steps =>
    ⟨index, .box steps, reason⟩ :: if reason = .assumption then steps.nestedLines else []
  | prop => [⟨index, prop, reason⟩]

/-- The lines of a sub-proof, each followed by the lines inside it. -/
def SubProof.nestedLines : SubProof → List Line
  | .last index prop reason => prop.nestedLines index reason
  | .more index prop reason rest => prop.nestedLines index reason ++ rest.nestedLines

end

namespace Line

/-- A line, followed by the lines inside it at every depth. -/
def nested (line : Line) : List Line := line.prop.nestedLines line.index line.reason

/-- What a line becomes when each closed box is replaced by its lines. -/
def expanded (line : Line) : List Line := line.nested.filter fun inner => !inner.isClosedBox

/-- A line stands for a closed box when it is the assumption of a box. -/
theorem closedBox?_eq_some {line : Line} {steps : SubProof} :
    line.closedBox? = some steps ↔ line.prop = .box steps ∧ line.reason = .assumption := by
  obtain ⟨index, prop, reason⟩ := line
  cases prop <;> cases reason <;> simp [closedBox?]

/-- A line stands for no closed box when it is no assumption or states no box. -/
theorem closedBox?_eq_none {line : Line} :
    line.closedBox? = none ↔ line.reason ≠ .assumption ∨ line.prop.isBox = false := by
  obtain ⟨index, prop, reason⟩ := line
  cases prop <;> cases reason <;> simp [closedBox?, Proposition.isBox]

/-- A line either stands for a closed box or is a plain line. -/
theorem isClosedBox_eq_false {line : Line} :
    line.isClosedBox = false ↔ line.closedBox? = none := by
  rw [isClosedBox,Option.isSome_eq_false_iff,Option.isNone_iff_eq_none]

end Line

/-- What holds of a single line, and passes from the rest of a sub-proof to a line in front of it,
holds of every sub-proof. -/
theorem SubProof.chainInduction {motive : SubProof → Prop}
    (last : ∀ index prop reason, motive (.last index prop reason))
    (more : ∀ index prop reason rest, motive rest → motive (.more index prop reason rest)) :
    ∀ steps : SubProof, motive steps
  | .last index prop reason => last index prop reason
  | .more index prop reason rest => more index prop reason rest (rest.chainInduction last more)

/-- The lines of a sub-proof with all lines inside them, one line after the other. -/
theorem SubProof.nestedLines_eq (steps : SubProof) :
    steps.nestedLines = steps.toList.flatMap Line.nested := by
  induction steps using chainInduction with
  | last index prop reason =>
    simp only [nestedLines, toList, firstLine, laterLines, List.flatMap_cons, List.flatMap_nil,
      List.append_nil, Line.nested]
  | more index prop reason rest ih =>
    rw [nestedLines,ih]
    simp only [toList, firstLine, laterLines, List.flatMap_cons, Line.nested]

namespace Line

variable {line : Line} {steps : SubProof}

/-- A plain line holds no other. -/
theorem nested_of_plain (h : line.closedBox? = none) : line.nested = [line] := by
  obtain ⟨index, prop, reason⟩ := line
  have hp := closedBox?_eq_none.mp h
  cases prop <;> simp_all [nested, Proposition.nestedLines, Proposition.isBox]

/-- The line of a closed box holds the lines of the box. -/
theorem nested_of_closedBox (h : line.closedBox? = some steps) :
    line.nested = line :: steps.toList.flatMap nested := by
  obtain ⟨index, prop, reason⟩ := line
  obtain ⟨rfl, rfl⟩ := closedBox?_eq_some.mp h
  simp only [nested, Proposition.nestedLines, if_true, steps.nestedLines_eq]

/-- A line is among the lines that are inside it or are itself. -/
theorem mem_nested (line : Line) : line ∈ line.nested := by
  cases h : line.closedBox? with
  | none => simp only [nested_of_plain h, List.mem_singleton]
  | some steps => simp only [nested_of_closedBox h, List.mem_cons, true_or]

/-- A plain line stays when it is expanded. -/
theorem expanded_of_plain (h : line.closedBox? = none) : line.expanded = [line] := by
  have hp := isClosedBox_eq_false.mpr h
  simp [expanded, nested_of_plain h, hp]

/-- The line of a closed box is replaced by the expanded lines of the box. -/
theorem expanded_of_closedBox (h : line.closedBox? = some steps) :
    line.expanded = steps.toList.flatMap expanded := by
  have hb : line.isClosedBox = true := by rw [isClosedBox,h,Option.isSome_some]
  simp only [expanded, nested_of_closedBox h, List.filter_cons, hb, Bool.not_true,
    Bool.false_eq_true, if_false, List.filter_flatMap]
  rfl

end Line

namespace Scope

/-- The lines of a scope with all lines inside them. -/
def nested (scope : Scope) : List Line := scope.lines.flatMap Line.nested

/-- The lines of a scope with each closed box replaced by its lines. -/
def expanded (scope : Scope) : List Line := scope.lines.flatMap Line.expanded

end Scope

namespace Proof

/-- All lines of a proof, those inside closed boxes included. -/
def nested (proof : Proof) : List Line := proof.scopes.flatMap Scope.nested

/-- The plain lines of a proof from the outermost scope to the innermost, with each closed box
replaced by its lines. -/
def expanded (proof : Proof) : List Line := proof.scopes.flatMap Scope.expanded

/-- The propositions of all premises of a proof, those inside closed boxes included. -/
def premises (proof : Proof) : List Proposition :=
  (proof.expanded.filter fun line => line.reason = .premise).map Line.prop

end Proof

/-- The indices from one up to the last below a bound. -/
def indicesBelow (bound : Int) : List Int :=
  (List.range (bound - 1).toNat).map fun number : Nat => (number : Int) + 1

/-- Whether the assumptions among given lines all stand for closed boxes. -/
def NoOpenAssumption (lines : List Line) : Prop :=
  ∀ line ∈ lines, line.reason = .assumption → line.isClosedBox = true

/-- Whether given lines begin with the assumption of a formula and hold no other assumption but
those that stand for closed boxes. -/
def StartsWithAssumption : List Line → Prop
  | [] => False
  | first :: later =>
    first.reason = .assumption ∧ first.prop.isBox = false ∧ NoOpenAssumption later

/-- Whether the outermost of given scopes holds no open assumption and each further one begins
with its assumption. -/
def OpenedInOrder : List Scope → Prop
  | [] => False
  | outermost :: inner =>
    NoOpenAssumption outermost.lines ∧ ∀ scope ∈ inner, StartsWithAssumption scope.lines

/-- The structure that operations keep up. -/
structure Proof.WellFormed (proof : Proof) : Prop where
  /-- The next index is at least one. -/
  one_le : 1 ≤ proof.nextIndex
  /-- The expanded lines are numbered from one up to the last index, in this order. -/
  numbered : proof.expanded.map Line.index = indicesBelow proof.nextIndex
  /-- A closed box is found under the index of its first line, which is its assumption. -/
  boxed : ∀ line ∈ proof.nested, ∀ steps, line.closedBox? = some steps →
    line.index = steps.start ∧ StartsWithAssumption steps.toList
  /-- Every scope but the global one begins with its assumption. -/
  opened : OpenedInOrder proof.scopes

end BoxedDeduction
