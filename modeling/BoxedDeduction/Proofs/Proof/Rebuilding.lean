import BoxedDeduction.Proofs.Proof.Deduction

/-!
# Rebuilding proofs

The lines of a proof tell which operations made it: a plain line was added by the operation that
its justification names, and a closed box was opened by its assumption, filled by its lines and
closed. Performing these operations on the proof without lines gives the proof again. What was
undone leaves no trace among them: an operation adds itself or nothing to the list, and undoing
takes operations away from its end.
-/

namespace BoxedDeduction

/-- The operation that adds a line with a justification. -/
def Justification.operation (prop : Proposition) : Justification → Operation
  | .premise => .premise prop
  | .assumption => .assume prop
  | .copy source => .copy source
  | .inference rule => .infer rule

mutual

/-- The operations that lead to the line that states a proposition. Those of a closed box are the
operations of its lines and its closing. -/
def Proposition.operations (reason : Justification) : Proposition → List Operation
  | .box steps =>
    if reason = .assumption then steps.operations ++ [.close]
    else [reason.operation (.box steps)]
  | prop => [reason.operation prop]

/-- The operations that lead to the lines of a sub-proof. -/
def SubProof.operations : SubProof → List Operation
  | .last _ prop reason => prop.operations reason
  | .more _ prop reason rest => prop.operations reason ++ rest.operations

end

/-- The operations that lead to a line. -/
def Line.operations (line : Line) : List Operation := line.prop.operations line.reason

/-- The operations that lead to the lines of a scope. -/
def Scope.operations (scope : Scope) : List Operation := scope.lines.flatMap Line.operations

/-- The operations that lead to a proof, from the outermost scope to the innermost. -/
def Proof.operations (proof : Proof) : List Operation := proof.scopes.flatMap Scope.operations

/-! ## The operations of the parts -/

/-- The operations of a sub-proof are those of its lines, one line after the other. -/
theorem SubProof.operations_eq (steps : SubProof) :
    steps.operations = steps.toList.flatMap Line.operations := by
  induction steps using chainInduction with
  | last index prop reason =>
    simp only [operations, toList, firstLine, laterLines, List.flatMap_cons, List.flatMap_nil,
      List.append_nil, Line.operations]
  | more index prop reason rest ih =>
    rw [operations,ih]
    simp only [toList, firstLine, laterLines, List.flatMap_cons, Line.operations]

namespace Line

variable {line : Line} {steps : SubProof}

/-- A plain line is added by one operation. -/
theorem operations_of_plain (h : line.closedBox? = none) :
    line.operations = [line.reason.operation line.prop] := by
  obtain ⟨index, prop, reason⟩ := line
  have hp := closedBox?_eq_none.mp h
  cases prop <;> simp_all [operations, Proposition.operations, Proposition.isBox]

/-- A closed box is filled with its lines and then closed. -/
theorem operations_of_closedBox (h : line.closedBox? = some steps) :
    line.operations = steps.toList.flatMap operations ++ [.close] := by
  obtain ⟨index, prop, reason⟩ := line
  obtain ⟨rfl, rfl⟩ := closedBox?_eq_some.mp h
  simp only [operations, Proposition.operations, if_true, steps.operations_eq]

end Line

/-- A line at the end of a scope is added after the others. -/
theorem Scope.operations_append (scope : Scope) (line : Line) :
    (scope.append line).operations = scope.operations ++ line.operations := by
  simp only [operations, append, List.flatMap_append, List.flatMap_singleton]

namespace Proof

variable {proof : Proof} {prop : Proposition} {reason : Justification}

/-- The innermost scope is filled last. -/
theorem operations_eq (proof : Proof) : proof.operations =
    proof.enclosing.reverse.flatMap Scope.operations ++ proof.current.operations := by
  rw [operations,scopes_eq,List.flatMap_append,List.flatMap_singleton]

/-- A line that opens no box is added last. -/
theorem operations_extend (hr : reason ≠ .assumption) :
    (proof.extend prop reason).operations = proof.operations ++ [reason.operation prop] := by
  have hp : (Line.mk proof.nextIndex prop reason).operations = [reason.operation prop] :=
    Line.operations_of_plain (Line.closedBox?_eq_none.mpr (Or.inl hr))
  rw [operations_eq,operations_eq,extend,Scope.operations_append,hp,List.append_assoc]

/-- A new box is opened last. -/
theorem operations_openBox (hp : prop.isBox = false) :
    (proof.openBox prop).operations = proof.operations ++ [.assume prop] := by
  have hl : (Line.mk proof.nextIndex prop .assumption).operations = [.assume prop] :=
    Line.operations_of_plain (Line.closedBox?_eq_none.mpr (Or.inr hp))
  rw [operations_eq,operations,openBox,Scope.operations,List.flatMap_singleton,hl,scopes]

/-- A box is closed last. -/
theorem operations_close {inner parent : Scope} {outer : List Scope} {next : Int}
    {steps : SubProof} (hs : inner.toSubProof? = some steps) :
    operations ⟨parent.append steps.boxLine, outer, next⟩ =
      operations ⟨inner, parent :: outer, next⟩ ++ [.close] := by
  have hb := Line.operations_of_closedBox steps.closedBox?_boxLine
  rw [Scope.toSubProof?_eq_some.mp hs] at hb
  rw [operations_eq,operations_eq,Scope.operations_append,hb,List.reverse_cons,
    List.flatMap_append,List.flatMap_singleton]
  simp only [Scope.operations, List.append_assoc]

/-! ## Rebuilding a proof that grew -/

variable {history : List Proof}

/-- A justified line is added by the operation of its justification. -/
theorem WellFormed.perform_operation (h : proof.WellFormed) (hj : proof.Justifies reason prop) :
    proof.perform (reason.operation prop) =
      (proof.extend prop reason, .ok (some proof.nextIndex)) := by
  cases hj with
  | premise =>
    rw [Justification.operation,perform,premise,h.addLine]
    rfl
  | copy hl =>
    rw [Justification.operation,perform,h.copy hl]
    rfl
  | inference hc =>
    rw [Justification.operation,perform,h.infer hc]
    rfl

/-- An operation that succeeds may be performed after others. -/
theorem execute_concat {before middle after : Proof} {operations : List Operation}
    {operation : Operation} {result : Option Int} (h : before.execute operations = .ok middle)
    (hp : middle.perform operation = (after, .ok result)) :
    before.execute (operations ++ [operation]) = .ok after := by
  rw [execute_append h,execute,hp]
  rfl

/-- Performing the operations of a proof that grew gives the proof again. -/
theorem Grown.execute_operations (h : Grown history proof) :
    Proof.fresh.execute proof.operations = .ok proof := by
  induction h with
  | fresh => rfl
  | extend h hj ih =>
    rw [operations_extend hj.reason_ne]
    exact execute_concat ih (h.wellFormed.perform_operation hj)
  | @openBox _ proof prop _ hp ih =>
    have ha : proof.perform (.assume prop) = (proof.openBox prop, .ok (some proof.nextIndex)) := by
      rw [perform,assume_eq]
      rfl
    rw [operations_openBox hp]
    exact execute_concat ih ha
  | @close _ inner parent outer next steps h hs ih =>
    have hc : perform ⟨inner, parent :: outer, next⟩ .close =
        (⟨parent.append steps.boxLine, outer, next⟩, .ok none) := by
      rw [perform,h.wellFormed.close_box hs]
      rfl
    rw [operations_close hs]
    exact execute_concat ih hc

/-- The operations of the latest proof of the history come first. -/
theorem Grown.operations_earlier {before : Proof} (h : Grown (before :: history) proof) :
    before.operations <+: proof.operations := by
  generalize hh : before :: history = full at h
  induction h with
  | fresh => cases hh
  | extend _ hj _ =>
    cases hh
    rw [operations_extend hj.reason_ne]
    exact List.prefix_append _ _
  | openBox _ hp _ =>
    cases hh
    rw [operations_openBox hp]
    exact List.prefix_append _ _
  | close _ hs ih =>
    rw [operations_close hs]
    exact (ih hh).trans (List.prefix_append _ _)

/-- An operation adds itself or nothing to the operations of a proof, and undoing takes some
away. -/
theorem Grown.operations_perform (h : Grown history proof) {operation : Operation}
    (hb : operation.assumesBox = false) :
    (proof.perform operation).1.operations <+: proof.operations ++ [operation] := by
  have hw := h.wellFormed
  have hsame : proof.operations <+: proof.operations ++ [operation] := List.prefix_append _ _
  have hone : ∀ {after : Proof}, after.operations = proof.operations ++ [operation] →
      after.operations <+: proof.operations ++ [operation] := by
    intro after he
    exact he ▸ List.prefix_rfl
  have hextend : ∀ {reason : Justification} {prop : Proposition}, proof.Justifies reason prop →
      (proof.extend prop reason).operations = proof.operations ++ [reason.operation prop] :=
    fun hj => operations_extend hj.reason_ne
  cases operation with
  | premise prop =>
    rw [perform,premise,hw.addLine]
    exact hone (hextend .premise)
  | assume prop =>
    rw [perform,assume_eq]
    exact hone (operations_openBox hb)
  | copy source =>
    rw [perform]
    cases hl : proof.lookup source with
    | none =>
      rw [copy_of_lookup_eq_none hl]
      exact hsame
    | some prop =>
      rw [hw.copy hl]
      exact hone (hextend (.copy hl))
  | infer rule =>
    rw [perform]
    cases hc : rule.conclusion proof.lookup with
    | error cause =>
      rw [infer_of_error hc]
      exact hsame
    | ok prop =>
      rw [hw.infer hc]
      exact hone (hextend (.inference hc))
  | close =>
    obtain ⟨inner, enclosing, next⟩ := proof
    cases enclosing with
    | nil => exact hsame
    | cons parent outer =>
      obtain ⟨steps, hs⟩ := hw.exists_subProof
      rw [perform,hw.close_box hs]
      exact hone (operations_close hs)
  | undo =>
    rw [perform,h.undo]
    cases history with
    | nil => exact hsame
    | cons before earlier => exact h.operations_earlier.trans hsame

end Proof

end BoxedDeduction
