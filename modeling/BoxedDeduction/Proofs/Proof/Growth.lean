import BoxedDeduction.Proofs.Proof.Nesting

/-!
# How proofs grow

Three changes make a proof from the one without lines: a justified line is added to the
innermost scope, a box is opened with the assumption of a formula, and the innermost box is
closed. The first two give out an index, and the proofs before them are kept as a history.
Every proof that grows in this way is well formed.
-/

namespace BoxedDeduction

/-- A scope with one more line at its end. -/
def Scope.append (scope : Scope) (line : Line) : Scope := ⟨scope.lines ++ [line]⟩

/-- The line of a closed box. -/
def SubProof.boxLine (steps : SubProof) : Line := ⟨steps.start, .box steps, .assumption⟩

namespace Proof

/-- A proof with one more line in its innermost scope. -/
def extend (proof : Proof) (prop : Proposition) (reason : Justification) : Proof :=
  ⟨proof.current.append ⟨proof.nextIndex, prop, reason⟩, proof.enclosing, proof.nextIndex + 1⟩

/-- A proof with one more scope, which holds its assumption. -/
def openBox (proof : Proof) (prop : Proposition) : Proof :=
  ⟨⟨[⟨proof.nextIndex, prop, .assumption⟩]⟩, proof.openScopes, proof.nextIndex + 1⟩

/-- What a line may state under a justification that opens no box. -/
inductive Justifies (proof : Proof) : Justification → Proposition → Prop where
  /-- Anything may be a premise. -/
  | premise {prop : Proposition} : Justifies proof .premise prop
  /-- A visible line may be repeated. -/
  | copy {source : Int} {prop : Proposition} (h : proof.lookup source = some prop) :
    Justifies proof (.copy source) prop
  /-- A rule may be applied. -/
  | inference {rule : Rule} {prop : Proposition} (h : rule.conclusion proof.lookup = .ok prop) :
    Justifies proof (.inference rule) prop

/-- How a proof grows. The history lists the proofs before each index was given out, the latest
first. -/
inductive Grown : List Proof → Proof → Prop where
  /-- The proof without lines. -/
  | fresh : Grown [] fresh
  /-- A justified line is added. -/
  | extend {history : List Proof} {proof : Proof} {prop : Proposition} {reason : Justification}
    (h : Grown history proof) (hj : proof.Justifies reason prop) :
    Grown (proof :: history) (proof.extend prop reason)
  /-- A box is opened. -/
  | openBox {history : List Proof} {proof : Proof} {prop : Proposition}
    (h : Grown history proof) (hp : prop.isBox = false) :
    Grown (proof :: history) (proof.openBox prop)
  /-- The innermost box is closed. -/
  | close {history : List Proof} {inner parent : Scope} {outer : List Scope} {next : Int}
    {steps : SubProof} (h : Grown history ⟨inner, parent :: outer, next⟩)
    (hs : inner.toSubProof? = some steps) :
    Grown history ⟨parent.append steps.boxLine, outer, next⟩

/-- A justification that opens no box is no assumption. -/
theorem Justifies.reason_ne {proof : Proof} {reason : Justification} {prop : Proposition}
    (h : proof.Justifies reason prop) : reason ≠ .assumption := by
  cases h <;> exact Justification.noConfusion

/-- The scopes around the innermost one come first. -/
theorem scopes_eq (proof : Proof) : proof.scopes = proof.enclosing.reverse ++ [proof.current] := by
  rw [scopes,openScopes,List.reverse_cons]

end Proof

/-! ## The parts of a larger proof -/

/-- A line at the end of a scope is expanded after the others. -/
theorem Scope.expanded_append (scope : Scope) (line : Line) :
    (scope.append line).expanded = scope.expanded ++ line.expanded := by
  simp only [expanded, append, List.flatMap_append, List.flatMap_singleton]

/-- A line at the end of a scope comes after the others. -/
theorem Scope.nested_append (scope : Scope) (line : Line) :
    (scope.append line).nested = scope.nested ++ line.nested := by
  simp only [nested, append, List.flatMap_append, List.flatMap_singleton]

/-- The lines of a scope that is not empty make a sub-proof. -/
theorem Scope.toSubProof?_eq_some {scope : Scope} {steps : SubProof} :
    scope.toSubProof? = some steps ↔ steps.toList = scope.lines := by
  rw [toSubProof?]
  constructor
  · intro h
    cases hl : scope.lines with
    | nil => rw [hl] at h; cases h
    | cons first rest =>
      rw [hl,SubProof.ofList?,Option.some.injEq] at h
      rw [← h,SubProof.toList_ofLines]
  · intro h
    rw [← h,SubProof.ofList?_toList]

/-- The first line of a sub-proof is a line of the scope that makes it. -/
theorem Scope.firstLine_mem {scope : Scope} {steps : SubProof}
    (h : scope.toSubProof? = some steps) : steps.firstLine ∈ scope.lines := by
  rw [← Scope.toSubProof?_eq_some.mp h]
  exact List.mem_cons_self

namespace SubProof

/-- The line of a closed box stands for the box. -/
@[simp] theorem closedBox?_boxLine (steps : SubProof) : steps.boxLine.closedBox? = some steps := rfl

/-- The line of a closed box is replaced by the lines of the box. -/
theorem expanded_boxLine (steps : SubProof) :
    steps.boxLine.expanded = steps.toList.flatMap Line.expanded :=
  Line.expanded_of_closedBox steps.closedBox?_boxLine

end SubProof

namespace Proof

variable {proof : Proof} {prop : Proposition} {reason : Justification}

/-- The innermost scope is expanded last. -/
theorem expanded_eq (proof : Proof) :
    proof.expanded = proof.enclosing.reverse.flatMap Scope.expanded ++ proof.current.expanded := by
  rw [expanded,scopes_eq,List.flatMap_append,List.flatMap_singleton]

/-- The lines of the innermost scope come last. -/
theorem nested_eq (proof : Proof) :
    proof.nested = proof.enclosing.reverse.flatMap Scope.nested ++ proof.current.nested := by
  rw [nested,scopes_eq,List.flatMap_append,List.flatMap_singleton]

/-- A line that opens no box is expanded at the end. -/
theorem expanded_extend (hr : reason ≠ .assumption) : (proof.extend prop reason).expanded =
    proof.expanded ++ [⟨proof.nextIndex, prop, reason⟩] := by
  have hp : (Line.mk proof.nextIndex prop reason).expanded = [⟨proof.nextIndex, prop, reason⟩] :=
    Line.expanded_of_plain (Line.closedBox?_eq_none.mpr (Or.inl hr))
  rw [expanded_eq,expanded_eq,extend,Scope.expanded_append,hp,List.append_assoc]

/-- A line that opens no box comes at the end. -/
theorem nested_extend (hr : reason ≠ .assumption) : (proof.extend prop reason).nested =
    proof.nested ++ [⟨proof.nextIndex, prop, reason⟩] := by
  have hp : (Line.mk proof.nextIndex prop reason).nested = [⟨proof.nextIndex, prop, reason⟩] :=
    Line.nested_of_plain (Line.closedBox?_eq_none.mpr (Or.inl hr))
  rw [nested_eq,nested_eq,extend,Scope.nested_append,hp,List.append_assoc]

/-- The assumption of a new box is expanded at the end. -/
theorem expanded_openBox (hp : prop.isBox = false) : (proof.openBox prop).expanded =
    proof.expanded ++ [⟨proof.nextIndex, prop, .assumption⟩] := by
  have hl : (Line.mk proof.nextIndex prop .assumption).expanded =
      [⟨proof.nextIndex, prop, .assumption⟩] :=
    Line.expanded_of_plain (Line.closedBox?_eq_none.mpr (Or.inr hp))
  rw [expanded_eq,expanded,openBox,Scope.expanded,List.flatMap_singleton,hl,scopes]

/-- The assumption of a new box comes at the end. -/
theorem nested_openBox (hp : prop.isBox = false) : (proof.openBox prop).nested =
    proof.nested ++ [⟨proof.nextIndex, prop, .assumption⟩] := by
  have hl : (Line.mk proof.nextIndex prop .assumption).nested =
      [⟨proof.nextIndex, prop, .assumption⟩] :=
    Line.nested_of_plain (Line.closedBox?_eq_none.mpr (Or.inr hp))
  rw [nested_eq,nested,openBox,Scope.nested,List.flatMap_singleton,hl,scopes]

section Closing

variable {inner parent : Scope} {outer : List Scope} {next : Int} {steps : SubProof}

/-- Closing a box changes no expanded line. -/
theorem expanded_close (hs : inner.toSubProof? = some steps) :
    expanded ⟨parent.append steps.boxLine, outer, next⟩ =
      expanded ⟨inner, parent :: outer, next⟩ := by
  rw [expanded_eq,expanded_eq,Scope.expanded_append,steps.expanded_boxLine,
    Scope.toSubProof?_eq_some.mp hs,List.reverse_cons,List.flatMap_append,List.flatMap_singleton,
    List.append_assoc]
  rfl

/-- Closing a box adds the line of the box and no other. -/
theorem mem_nested_close (hs : inner.toSubProof? = some steps) {line : Line} :
    line ∈ nested ⟨parent.append steps.boxLine, outer, next⟩ ↔
      line = steps.boxLine ∨ line ∈ nested ⟨inner, parent :: outer, next⟩ := by
  have hb := Line.nested_of_closedBox steps.closedBox?_boxLine
  rw [Scope.toSubProof?_eq_some.mp hs] at hb
  rw [nested_eq,nested_eq,Scope.nested_append,hb,List.reverse_cons,List.flatMap_append,
    List.flatMap_singleton]
  simp only [List.mem_append, List.mem_cons, Scope.nested, or_assoc, or_left_comm]

end Closing

end Proof

end BoxedDeduction
