import BoxedDeduction.Proofs.Rule.Derivation
import BoxedDeduction.Proofs.Proof.Run

/-!
# Deducing in a proof

A proof is continued by adding lines to its innermost scope, with boxes that are opened and
closed on the way. What was visible stays visible under the same index, so lines that were
reached one after the other can be cited together. A goal is deducible from hypotheses when
every proof that shows the hypotheses has a continuation that shows the goal; each rule is a
closure property of this relation.
-/

namespace BoxedDeduction

namespace Lookup

/-- Whether a look-up finds a proposition. -/
def Shows (lookup : Lookup) (prop : Proposition) : Prop := ∃ index, lookup index = some prop

/-- Whether a look-up finds a closed box from an assumption to a last line. -/
def ShowsBox (lookup : Lookup) (assumption derived : Proposition) : Prop :=
  ∃ index steps, lookup index = some (.box steps) ∧ steps.assumption = assumption ∧
    steps.derived = derived

/-- Whether a look-up finds all that another one finds. -/
def Includes (larger smaller : Lookup) : Prop :=
  ∀ index prop, smaller index = some prop → larger index = some prop

/-- Whether a property of look-ups is kept when more is found. -/
def Lasting (wanted : Lookup → Prop) : Prop :=
  ∀ larger smaller : Lookup, larger.Includes smaller → wanted smaller → wanted larger

/-- What is shown stays shown. -/
theorem lasting_shows (prop : Proposition) : Lasting fun lookup => lookup.Shows prop := by
  rintro larger smaller hi ⟨index, h⟩
  exact ⟨index, hi index prop h⟩

/-- A box that is shown stays shown. -/
theorem lasting_showsBox (assumption derived : Proposition) :
    Lasting fun lookup => lookup.ShowsBox assumption derived := by
  rintro larger smaller hi ⟨index, steps, h, hs⟩
  exact ⟨index, steps, hi index _ h, hs⟩

end Lookup

/-- The last of the lines that make a sub-proof stays the last. -/
theorem SubProof.lastLine_ofLines_concat (first last : Line) (lines : List Line) :
    (ofLines first (lines ++ [last])).lastLine = last := by
  have h := getLast?_toList (ofLines first (lines ++ [last]))
  rw [toList_ofLines,← List.cons_append,List.getLast?_concat] at h
  exact (Option.some.inj h).symm

/-- Whether an operation opens or closes a box, copies a line or applies a rule. -/
def Operation.deduces : Operation → Bool
  | .assume _ | .copy _ | .close | .infer _ => true
  | .premise _ | .undo => false

namespace Proof

/-! ## Continuing a proof -/

/-- One proof continues another when lines were added to the innermost scope. -/
structure Continues (before after : Proof) : Prop where
  /-- The continued proof is well formed. -/
  wellFormed : after.WellFormed
  /-- The scopes around the innermost one are the same. -/
  enclosing : after.enclosing = before.enclosing
  /-- No index is given out again. -/
  nextIndex_le : before.nextIndex ≤ after.nextIndex
  /-- The added lines come last and have new indices. -/
  added : ∃ lines, after.current.lines = before.current.lines ++ lines ∧
    ∀ line ∈ lines, before.nextIndex ≤ line.index

variable {before middle after proof : Proof} {prop : Proposition} {reason : Justification}

/-- A proof continues itself. -/
theorem Continues.refl (h : proof.WellFormed) : Continues proof proof where
  wellFormed := h
  enclosing := rfl
  nextIndex_le := Int.le_refl _
  added := ⟨[], (List.append_nil _).symm, fun _ hl => by cases hl⟩

/-- A continuation may be continued. -/
theorem Continues.trans (h : Continues before middle) (h' : Continues middle after) :
    Continues before after where
  wellFormed := h'.wellFormed
  enclosing := h'.enclosing.trans h.enclosing
  nextIndex_le := Int.le_trans h.nextIndex_le h'.nextIndex_le
  added := by
    obtain ⟨lines, hl, hi⟩ := h.added
    obtain ⟨lines', hl', hi'⟩ := h'.added
    refine ⟨lines ++ lines', by rw [hl',hl,List.append_assoc], ?_⟩
    intro line hm
    rcases List.mem_append.mp hm with hm | hm
    · exact hi line hm
    · exact Int.le_trans h.nextIndex_le (hi' line hm)

/-- A line may be added that opens no box. -/
theorem WellFormed.continues_extend (h : proof.WellFormed) (hr : reason ≠ .assumption) :
    Continues proof (proof.extend prop reason) where
  wellFormed := h.extend hr
  enclosing := rfl
  nextIndex_le := Int.le_of_lt (Int.lt_succ _)
  added := by
    refine ⟨[⟨proof.nextIndex, prop, reason⟩], rfl, ?_⟩
    intro line hl
    have hi := congrArg Line.index (List.mem_singleton.mp hl)
    exact Int.le_of_eq hi.symm

/-- The innermost scope is searched first. -/
theorem find?_eq (proof : Proof) (index : Int) : proof.find? index =
    (proof.current.get? index).or (proof.enclosing.findSome? fun scope => scope.get? index) := by
  rw [find?,openScopes,List.findSome?_cons]
  cases proof.current.get? index <;> rfl

/-- What was visible stays visible in a continuation. -/
theorem Continues.includes (h : Continues before after) (hw : before.WellFormed) :
    after.lookup.Includes before.lookup := by
  intro index prop hl
  obtain ⟨scope, hs, line, hm, hi, -⟩ := exists_of_lookup hl
  have hlt := (hw.index_lt (List.mem_reverse.mpr hs) hm).2
  obtain ⟨lines, ha, hn⟩ := h.added
  -- The added lines have indices that had not been given out.
  have hf : lines.find? (·.index == index) = none := by
    rw [List.find?_eq_none]
    intro new hnew
    have hle := hn new hnew
    rw [beq_iff_eq]
    omega
  have hc : after.current.get? index = before.current.get? index := by
    rw [Scope.get?,ha,List.find?_append,hf,Option.or_none]
    rfl
  rw [lookup,find?_eq,hc,h.enclosing,← find?_eq]
  exact hl

/-- The last line of the innermost scope is found under its index. -/
theorem lookup_append {scope : Scope} {outer : List Scope} {next : Int} {line : Line}
    (hu : ∀ old ∈ scope.lines, old.index ≠ line.index) :
    lookup ⟨scope.append line, outer, next⟩ line.index = some line.prop := by
  rw [lookup,find?_eq,Scope.get?_append_self hu]
  rfl

/-- A line that is added is visible under its index. -/
theorem WellFormed.lookup_extend (h : proof.WellFormed) :
    (proof.extend prop reason).lookup proof.nextIndex = some prop :=
  lookup_append (h.unused List.mem_cons_self)

/-! ## Deducing by operations -/

/-- Operations that add to a list are performed after it. -/
theorem execute_append {first second : List Operation} (h : before.execute first = .ok middle) :
    before.execute (first ++ second) = middle.execute second := by
  induction first generalizing before with
  | nil =>
    cases h
    rfl
  | cons operation rest ih =>
    rw [List.cons_append,execute]
    rw [execute] at h
    split at h
    · exact ih h
    · cases h

/-- Whether a proof is continued by operations that deduce. -/
def Deduces (before after : Proof) : Prop :=
  Continues before after ∧ ∃ operations : List Operation,
    (∀ operation ∈ operations, operation.deduces = true) ∧
      before.execute operations = .ok after

namespace Deduces

/-- Nothing needs to be done to stay at a proof. -/
theorem refl (h : proof.WellFormed) : Deduces proof proof := by
  refine ⟨.refl h, [], ?_, rfl⟩
  intro operation ho
  cases ho

/-- Deductions follow each other. -/
theorem trans (h : Deduces before middle) (h' : Deduces middle after) : Deduces before after := by
  obtain ⟨hc, first, hf, he⟩ := h
  obtain ⟨hc', second, hs, he'⟩ := h'
  refine ⟨hc.trans hc', first ++ second, ?_, ?_⟩
  · intro operation ho
    rcases List.mem_append.mp ho with ho | ho
    · exact hf operation ho
    · exact hs operation ho
  · rw [execute_append he]
    exact he'

/-- A visible line may be repeated. -/
theorem copy (h : proof.WellFormed) {index : Int} (hl : proof.lookup index = some prop) :
    Deduces proof (proof.extend prop (.copy index)) := by
  refine ⟨h.continues_extend nofun, [.copy index], by simp [Operation.deduces], ?_⟩
  rw [execute,perform,h.copy hl]
  rfl

/-- A rule may be applied. -/
theorem infer (h : proof.WellFormed) {rule : Rule} (hr : rule.Derives proof.lookup prop) :
    Deduces proof (proof.extend prop (.inference rule)) := by
  refine ⟨h.continues_extend nofun, [.infer rule], by simp [Operation.deduces], ?_⟩
  rw [execute,perform,h.infer hr.conclusion]
  rfl

end Deduces

/-! ## Deducing in a box -/

/-- What is visible stays visible in a new box. -/
theorem WellFormed.includes_openBox (h : before.WellFormed) :
    (before.openBox prop).lookup.Includes before.lookup := by
  intro index shown hl
  obtain ⟨scope, hs, line, hm, hi, -⟩ := exists_of_lookup hl
  have hlt := (h.index_lt (List.mem_reverse.mpr hs) hm).2
  have hc : (before.openBox prop).current.get? index = none := by
    refine Scope.get?_of_unused ?_
    intro old ho
    rw [List.mem_singleton.mp ho]
    exact (Int.ne_of_lt (hi ▸ hlt)).symm
  rw [lookup,find?_eq,hc,Option.none_or]
  exact hl

/-- The assumption of a new box is visible in it. -/
theorem shows_openBox (proof : Proof) (prop : Proposition) :
    (proof.openBox prop).lookup.Shows prop := by
  have hu : ∀ old ∈ Scope.empty.lines,
      old.index ≠ (Line.mk proof.nextIndex prop .assumption).index := by
    intro old ho
    cases ho
  exact ⟨proof.nextIndex, lookup_append hu⟩

section Closing

variable {steps : SubProof}

/-- A continuation of a new box is inside that box. -/
theorem Continues.eq_inside (h : Continues (before.openBox prop) after) :
    after = ⟨after.current, before.current :: before.enclosing, after.nextIndex⟩ := by
  obtain ⟨current, enclosing, next⟩ := after
  obtain rfl : enclosing = before.openScopes := h.enclosing
  rfl

/-- The first line of a new box has an index that was given out inside. -/
theorem Continues.le_start (h : Continues (before.openBox prop) after)
    (hs : after.current.toSubProof? = some steps) : before.nextIndex ≤ steps.start := by
  obtain ⟨lines, ha, hn⟩ := h.added
  have hf := Scope.firstLine_mem hs
  rw [ha] at hf
  rcases List.mem_append.mp hf with hf | hf
  · have hi := congrArg Line.index (List.mem_singleton.mp hf)
    exact Int.le_of_eq hi.symm
  · have hle : before.nextIndex + 1 ≤ steps.firstLine.index := hn steps.firstLine hf
    exact Int.le_of_lt hle

/-- A new box may be closed. -/
theorem Continues.close_openBox (h : Continues (before.openBox prop) after)
    (hs : after.current.toSubProof? = some steps) :
    after.close = (⟨before.current.append steps.boxLine, before.enclosing, after.nextIndex⟩,
      .ok ()) := by
  have hw := h.wellFormed
  rw [h.eq_inside] at hw ⊢
  exact hw.close_box hs

/-- Closing a new box continues the proof that it was opened in. -/
theorem Continues.append_boxLine (h : Continues (before.openBox prop) after)
    (hs : after.current.toSubProof? = some steps) :
    Continues before ⟨before.current.append steps.boxLine, before.enclosing, after.nextIndex⟩ where
  wellFormed := by
    have hw := h.wellFormed
    rw [h.eq_inside] at hw
    exact hw.close hs
  enclosing := rfl
  nextIndex_le := by
    have hle : before.nextIndex + 1 ≤ after.nextIndex := h.nextIndex_le
    exact Int.le_of_lt hle
  added := by
    refine ⟨[steps.boxLine], rfl, ?_⟩
    intro line hl
    rw [List.mem_singleton.mp hl]
    exact h.le_start hs

/-- A box that deductions fill may be closed, and is visible afterwards. -/
theorem Deduces.close (h : Deduces (before.openBox prop) after)
    (hs : after.current.toSubProof? = some steps) :
    ∃ closed, Deduces before closed ∧ closed.lookup.Shows (.box steps) := by
  obtain ⟨hc, operations, ho, he⟩ := h
  refine ⟨⟨before.current.append steps.boxLine, before.enclosing, after.nextIndex⟩,
    ⟨hc.append_boxLine hs, .assume prop :: (operations ++ [.close]), ?_, ?_⟩, ?_⟩
  · intro operation hm
    rcases List.mem_cons.mp hm with rfl | hm
    · rfl
    · rcases List.mem_append.mp hm with hm | hm
      · exact ho operation hm
      · rw [List.mem_singleton.mp hm]
        rfl
  · rw [execute,perform,assume_eq]
    have hx : after.execute [.close] =
        .ok ⟨before.current.append steps.boxLine, before.enclosing, after.nextIndex⟩ := by
      rw [execute,perform,hc.close_openBox hs]
      rfl
    rw [← hx]
    exact execute_append he
  · have hw := hc.wellFormed
    rw [hc.eq_inside] at hw
    exact ⟨steps.boxLine.index, lookup_append (hw.unused_start hs)⟩

end Closing

/-- What deductions show in a new box is what the closed box reaches. -/
theorem Deduces.box (h : Deduces (before.openBox prop) after) {goal : Proposition}
    (hg : after.lookup.Shows goal) :
    ∃ closed, Deduces before closed ∧ closed.lookup.ShowsBox prop goal := by
  obtain ⟨index, hl⟩ := hg
  -- The goal is copied, so that it is the last line of the box.
  have hd := h.trans (copy h.1.wellFormed hl)
  obtain ⟨lines, ha, -⟩ := h.1.added
  have hs : (after.extend goal (.copy index)).current.toSubProof? =
      some (.ofLines ⟨before.nextIndex, prop, .assumption⟩
        (lines ++ [⟨after.nextIndex, goal, .copy index⟩])) := by
    rw [Scope.toSubProof?_eq_some,SubProof.toList_ofLines,extend,Scope.append,ha]
    rfl
  obtain ⟨closed, hc, box, hb⟩ := hd.close hs
  refine ⟨closed, hc, box, _, hb, ?_, ?_⟩
  · rw [SubProof.assumption,SubProof.firstLine_ofLines]
  · rw [SubProof.derived,SubProof.lastLine_ofLines_concat]

end Proof

end BoxedDeduction
