import BoxedDeduction.Proof.Undo
import BoxedDeduction.Proofs.Proof.Structure

/-!
# What operations do to well-formed proofs

On a well-formed proof an operation other than undoing makes the proof grow by one change, or
it is refused and changes nothing. No internal fault is possible, because the next index is not
in use and every open box has its assumption.
-/

namespace BoxedDeduction

/-! ## Scopes in which an index is not in use -/

namespace Scope

variable {scope : Scope} {line : Line} {index : Int}

/-- A line is inserted at the end when its index is not in use. -/
theorem insert_of_unused (h : ∀ old ∈ scope.lines, old.index ≠ line.index) :
    scope.insert line = .ok (scope.append line) := by
  have hc : scope.contains line.index = false := by
    rw [contains,List.any_eq_false]
    intro old ho
    simpa only [beq_iff_eq] using h old ho
  rw [insert,hc]
  rfl

/-- A scope that a line was inserted in holds it last. -/
theorem insert_eq_ok {next : Scope} (h : scope.insert line = .ok next) :
    next = scope.append line := by
  rw [insert] at h
  split at h
  · cases h
  · exact (Except.ok.inj h).symm

/-- No line is found under an index that is not in use. -/
theorem get?_of_unused (h : ∀ old ∈ scope.lines, old.index ≠ index) :
    scope.get? index = none := by
  rw [get?,List.find?_eq_none]
  intro old ho
  simpa only [beq_iff_eq] using h old ho

/-- A line that was found is a line of the scope under that index. -/
theorem mem_of_get?_eq_some (h : scope.get? index = some line) :
    line ∈ scope.lines ∧ line.index = index :=
  ⟨List.mem_of_find?_eq_some h, by simpa only [beq_iff_eq] using List.find?_some h⟩

/-- A look-up in a longer scope tries the old lines first. -/
theorem get?_append (scope : Scope) (line : Line) (index : Int) :
    (scope.append line).get? index =
      (scope.get? index).or (if line.index = index then some line else none) := by
  rw [get?,append,List.find?_append,get?]
  by_cases h : line.index = index
  · simp [h]
  · simp [h]

/-- The last line is found under its index, unless an earlier line uses it. -/
theorem get?_append_self (h : ∀ old ∈ scope.lines, old.index ≠ line.index) :
    (scope.append line).get? line.index = some line := by
  rw [get?_append,get?_of_unused h,if_pos rfl]
  rfl

/-- Taking the last line away leaves the others. -/
theorem erase_append (h : ∀ old ∈ scope.lines, old.index ≠ line.index) :
    (scope.append line).erase line.index = scope := by
  have hn : ∀ old ∈ scope.lines, ¬(old.index == line.index) = true := by
    intro old ho
    simpa only [beq_iff_eq] using h old ho
  rw [erase,append,List.eraseP_append_right _ hn,List.eraseP_cons_of_pos (by simp),
    List.append_nil]

/-- Lines with distinct indices that are not in use are all inserted. -/
theorem insertAll_of_nodup {lines : List Line}
    (h : ((scope.lines ++ lines).map Line.index).Nodup) :
    scope.insertAll lines = .ok ⟨scope.lines ++ lines⟩ := by
  induction lines generalizing scope with
  | nil => rw [insertAll,List.append_nil]
  | cons line later ih =>
    have hu : ∀ old ∈ scope.lines, old.index ≠ line.index := by
      rw [List.map_append,List.nodup_append] at h
      intro old ho
      exact h.2.2 _ (List.mem_map_of_mem ho) _ List.mem_cons_self
    have he : scope.lines ++ line :: later = (scope.append line).lines ++ later := by
      rw [append,List.append_assoc,List.singleton_append]
    rw [he] at h ⊢
    rw [insertAll,insert_of_unused hu]
    exact ih h

/-- A sub-proof with increasing indices is unfolded into the scope of its lines. -/
theorem ofSubProof_of_increasing {steps : SubProof}
    (h : (steps.toList.map Line.index).Pairwise (· < ·)) :
    ofSubProof steps = .ok ⟨steps.toList⟩ :=
  insertAll_of_nodup (h.imp Int.ne_of_lt)

end Scope

namespace Proof

variable {proof : Proof} {prop : Proposition} {reason : Justification}

/-- A visible line is found in one of the open scopes. -/
theorem exists_of_lookup {index : Int} (h : proof.lookup index = some prop) :
    ∃ scope ∈ proof.openScopes, ∃ line ∈ scope.lines, line.index = index ∧ line.prop = prop := by
  obtain ⟨line, hf, rfl⟩ := Option.map_eq_some_iff.mp h
  obtain ⟨scope, hs, hg⟩ := List.exists_of_findSome?_eq_some hf
  obtain ⟨hl, hi⟩ := Scope.mem_of_get?_eq_some hg
  exact ⟨scope, hs, line, hl, hi, rfl⟩

namespace WellFormed

/-- The next index is not in use in an open scope. -/
theorem unused (h : proof.WellFormed) {scope : Scope} (hs : scope ∈ proof.openScopes) :
    ∀ old ∈ scope.lines, old.index ≠ proof.nextIndex := by
  intro old ho
  have hl := h.index_lt (List.mem_reverse.mpr hs) ho
  omega

/-- A justified line is added under the next index. -/
theorem addLine (h : proof.WellFormed) (prop : Proposition) (reason : Justification) :
    proof.addLine prop reason = (proof.extend prop reason, .ok proof.nextIndex) := by
  have hi : proof.current.insert ⟨proof.nextIndex, prop, reason⟩ =
      .ok (proof.current.append ⟨proof.nextIndex, prop, reason⟩) :=
    Scope.insert_of_unused (h.unused List.mem_cons_self)
  rw [Proof.addLine]
  simp only [hi]
  rfl

end WellFormed

/-- An assumption opens a box under the next index. -/
theorem assume_eq (proof : Proof) (prop : Proposition) :
    proof.assume prop = (proof.openBox prop, .ok proof.nextIndex) := by
  rfl

/-- A visible line is repeated. -/
theorem WellFormed.copy (h : proof.WellFormed) {source : Int}
    (hl : proof.lookup source = some prop) :
    proof.copy source = (proof.extend prop (.copy source), .ok proof.nextIndex) := by
  obtain ⟨line, hf, rfl⟩ := Option.map_eq_some_iff.mp hl
  rw [Proof.copy,Proof.line,hf]
  exact h.addLine line.prop (.copy source)

/-- A line that is not visible is not repeated. -/
theorem copy_of_lookup_eq_none {source : Int} (hl : proof.lookup source = none) :
    proof.copy source = (proof, .error (.inference (.notVisible source))) := by
  rw [Proof.copy,Proof.line,Option.map_eq_none_iff.mp hl]

/-- What a rule concludes is added. -/
theorem WellFormed.infer (h : proof.WellFormed) {rule : Rule}
    (hc : rule.conclusion proof.lookup = .ok prop) :
    proof.infer rule = (proof.extend prop (.inference rule), .ok proof.nextIndex) := by
  rw [Proof.infer,hc]
  exact h.addLine prop (.inference rule)

/-- A rule that does not apply changes nothing. -/
theorem infer_of_error {rule : Rule} {cause : InferenceError}
    (hc : rule.conclusion proof.lookup = .error cause) :
    proof.infer rule = (proof, .error (.inference cause)) := by
  rw [Proof.infer,hc]

/-- Without an open box there is nothing to close. -/
theorem close_global {scope : Scope} {next : Int} :
    close ⟨scope, [], next⟩ = (⟨scope, [], next⟩, .error .noOpenAssumption) := by
  rfl

section Closing

variable {inner parent : Scope} {outer : List Scope} {next : Int}

/-- An open box holds its assumption, so its lines make a sub-proof. -/
theorem WellFormed.exists_subProof (h : WellFormed ⟨inner, parent :: outer, next⟩) :
    ∃ steps, inner.toSubProof? = some steps := by
  have ho := h.opened
  rw [scopes_eq] at ho
  rcases openedInOrder_concat.mp ho with ⟨hn, -⟩ | ⟨-, hi⟩
  · exact absurd hn (by simp)
  · rw [Scope.toSubProof?]
    cases hl : inner.lines with
    | nil =>
      rw [hl] at hi
      exact hi.elim
    | cons first later => exact ⟨_, rfl⟩

/-- The index of an open box has been given out. -/
theorem WellFormed.start_lt (h : WellFormed ⟨inner, parent :: outer, next⟩) {steps : SubProof}
    (hs : inner.toSubProof? = some steps) : 1 ≤ steps.start ∧ steps.start < next :=
  h.index_lt (List.mem_reverse.mpr List.mem_cons_self) (Scope.firstLine_mem hs)

/-- The index of a box that is being closed is not in use around it. -/
theorem WellFormed.unused_start (h : WellFormed ⟨inner, parent :: outer, next⟩)
    {steps : SubProof} (hs : inner.toSubProof? = some steps) :
    ∀ old ∈ parent.lines, old.index ≠ steps.boxLine.index := by
  intro old ho
  have hlt := h.index_lt_of_enclosing List.mem_cons_self ho (Scope.firstLine_mem hs)
  exact Int.ne_of_lt hlt

/-- The innermost box is closed. -/
theorem WellFormed.close_box (h : WellFormed ⟨inner, parent :: outer, next⟩) {steps : SubProof}
    (hs : inner.toSubProof? = some steps) :
    Proof.close ⟨inner, parent :: outer, next⟩ =
      (⟨parent.append steps.boxLine, outer, next⟩, .ok ()) := by
  have hi := Scope.insert_of_unused (h.unused_start hs)
  rw [SubProof.boxLine] at hi
  rw [Proof.close]
  simp only [hs, hi]
  rfl

end Closing

end Proof

/-! ## Performing one operation -/

/-- Whether an operation assumes a box. -/
def Operation.assumesBox : Operation → Bool
  | .assume prop => prop.isBox
  | _ => false

/-- Whether an operation gives out an index when it succeeds. -/
def Operation.allocates : Operation → Bool
  | .premise _ | .assume _ | .copy _ | .infer _ => true
  | .close | .undo => false

/-- What performing an operation other than undoing amounts to. -/
inductive Proof.Performs (proof : Proof) (operation : Operation) : Prop where
  /-- The operation gives out the next index. -/
  | allocation (after : Proof) (ha : operation.allocates = true)
    (hg : ∀ history, Grown history proof → Grown (proof :: history) after)
    (h : proof.perform operation = (after, .ok (some proof.nextIndex)))
  /-- The operation closes a box. -/
  | closing (after : Proof) (ho : operation = .close)
    (hg : ∀ history, Grown history proof → Grown history after)
    (h : proof.perform operation = (after, .ok none))
  /-- The operation is refused. -/
  | refusal (cause : ProofError) (hc : ∀ fault, cause ≠ .fault fault)
    (h : proof.perform operation = (proof, .error cause))

/-- On a well-formed proof every operation but undoing makes the proof grow or is refused. -/
theorem Proof.WellFormed.performs {proof : Proof} (h : proof.WellFormed) {operation : Operation}
    (hb : operation.assumesBox = false) (hu : operation ≠ .undo) : proof.Performs operation := by
  cases operation with
  | premise prop =>
    refine .allocation (proof.extend prop .premise) rfl (fun _ hg => hg.extend .premise) ?_
    rw [perform,premise,h.addLine]
    rfl
  | assume prop =>
    refine .allocation (proof.openBox prop) rfl (fun _ hg => hg.openBox hb) ?_
    rw [perform,assume_eq]
    rfl
  | copy source =>
    cases hl : proof.lookup source with
    | none =>
      refine .refusal (.inference (.notVisible source)) (fun _ => by simp) ?_
      rw [perform,copy_of_lookup_eq_none hl]
      rfl
    | some prop =>
      refine .allocation _ rfl (fun _ hg => hg.extend (.copy hl)) ?_
      rw [perform,h.copy hl]
      rfl
  | infer rule =>
    cases hc : rule.conclusion proof.lookup with
    | error cause =>
      refine .refusal (.inference cause) (fun _ => by simp) ?_
      rw [perform,infer_of_error hc]
      rfl
    | ok prop =>
      refine .allocation _ rfl (fun _ hg => hg.extend (.inference hc)) ?_
      rw [perform,h.infer hc]
      rfl
  | close =>
    obtain ⟨inner, enclosing, next⟩ := proof
    cases enclosing with
    | nil =>
      refine .refusal .noOpenAssumption (fun _ => by simp) ?_
      rw [perform,close_global]
      rfl
    | cons parent outer =>
      obtain ⟨steps, hs⟩ := h.exists_subProof
      refine .closing _ rfl (fun _ hg => hg.close hs) ?_
      rw [perform,h.close_box hs]
      rfl
  | undo => exact absurd rfl hu

end BoxedDeduction
