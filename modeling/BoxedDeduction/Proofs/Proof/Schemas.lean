import BoxedDeduction.Proofs.Proof.Visibility
import BoxedDeduction.Proofs.Rule.Instance

/-!
# Rules follow their schemas

A proof accepts a rule when the lines that the rule cites are visible and are the left side of its
schema for some choice of the schematic letters. Then the right side is added to the innermost
scope. A rule that is refused leaves the proof as it is.
-/

namespace BoxedDeduction

namespace Proof

variable {proof : Proof} {rule : Rule} {index : Int}

/-- An index is visible when it denotes a proposition. -/
theorem isVisible_iff_lookup : proof.IsVisible index ↔ ∃ prop, proof.lookup index = some prop := by
  simp only [IsVisible, line_eq_ok, lookup, Option.map_eq_some_iff]
  constructor
  · rintro ⟨line, hf⟩
    exact ⟨line.prop, line, hf, rfl⟩
  · rintro ⟨_, line, hf, -⟩
    exact ⟨line, hf⟩

/-- How a proof answers a rule, in terms of the schema of the rule. -/
structure FollowsSchema (proof : Proof) (rule : Rule) : Prop where
  /-- The rule applies when every line that it cites is visible and they are the left side of its
  schema for some choice of the letters. -/
  applies : (∃ after index, proof.infer rule = (after, .ok index)) ↔
    (∀ index ∈ rule.cited, proof.IsVisible index) ∧
      ∃ choice, rule.IsInstance proof.lookup choice
  /-- For every such choice the right side is added to the innermost scope, under the next index. -/
  added : ∀ choice, rule.IsInstance proof.lookup choice →
    proof.infer rule = (⟨proof.current.append ⟨proof.nextIndex,
      rule.kind.schema.conclusion.instantiate choice, .inference rule⟩, proof.enclosing,
        proof.nextIndex + 1⟩, .ok proof.nextIndex)
  /-- A rule that does not apply changes nothing. A cited line is not visible, a proposition has
  another shape or two propositions differ, and an index that is reported as not visible is one
  that is cited and not visible. -/
  refused : ∀ after cause, proof.infer rule = (after, .error cause) → after = proof ∧
    ∃ fault : InferenceError, cause = .inference fault ∧
      ∀ index, fault = .notVisible index → index ∈ rule.cited ∧ ¬proof.IsVisible index

/-- Well-formed proofs follow the schema of every rule. -/
theorem WellFormed.followsSchema (h : proof.WellFormed) (rule : Rule) :
    proof.FollowsSchema rule where
  applies := by
    constructor
    · rintro ⟨after, index, hr⟩
      cases hc : rule.conclusion proof.lookup with
      | error cause =>
        rw [infer_of_error hc] at hr
        cases hr
      | ok prop =>
        obtain ⟨choice, hi, -⟩ := Rule.conclusion_eq_ok_iff_isInstance.mp hc
        refine ⟨fun index hm => ?_, choice, hi⟩
        exact isVisible_iff_lookup.mpr (hi.derives.exists_lookup index hm)
    · rintro ⟨-, choice, hi⟩
      exact ⟨_, _, h.infer hi.derives.conclusion⟩
  added := fun _ hi => h.infer hi.derives.conclusion
  refused := by
    intro after cause hr
    cases hc : rule.conclusion proof.lookup with
    | ok prop =>
      rw [h.infer hc] at hr
      cases hr
    | error fault =>
      rw [infer_of_error hc] at hr
      cases hr
      refine ⟨rfl, fault, rfl, ?_⟩
      rintro index rfl
      obtain ⟨hm, hn⟩ := Rule.cited_of_notVisible hc
      refine ⟨hm, fun hv => ?_⟩
      obtain ⟨prop, hp⟩ := isVisible_iff_lookup.mp hv
      rw [hn] at hp
      cases hp

/-- After every run each rule follows its schema. -/
theorem followsSchema_run {operations : List Operation}
    (hb : ∀ operation ∈ operations, operation.assumesBox = false) (rule : Rule) :
    (fresh.run operations).FollowsSchema rule := by
  obtain ⟨_, hg⟩ := Grown.fresh.exists_run hb
  exact hg.wellFormed.followsSchema rule

/-- A negation is an implication to falsity, so with its proposition it gives falsity as the one and
as the other. Against it as an implication only the negation of falsity counts. -/
theorem followsSchema_run_of_negation :
    let p : Proposition := .symbol "p"
    let operations := [.premise p, .premise p.negated]
    let proof := fresh.run operations
    (∀ operation ∈ operations, operation.assumesBox = false) ∧
      (∀ rule, proof.FollowsSchema rule) ∧
      (∀ rule ∈ [Rule.negE 1 2, .implyE 2 1], proof.infer rule =
        (proof.extend .bottom (.inference rule), .ok 3)) ∧
      (Rule.modusTollens 2 1).conclusion proof.lookup =
        .error (.mismatch (.negated .bottom) p) := by
  intro p operations proof
  have hb : ∀ operation ∈ operations, operation.assumesBox = false := by decide
  have hf := fun rule => followsSchema_run hb rule
  have hn : (Rule.negE 1 2).IsInstance proof.lookup (chosen p .bottom .bottom) :=
    ⟨.cons ⟨_, rfl, rfl⟩ (.cons ⟨_, rfl, rfl⟩ .nil), rfl⟩
  have hi : (Rule.implyE 2 1).IsInstance proof.lookup (chosen p .bottom .bottom) :=
    ⟨.cons ⟨_, rfl, rfl⟩ (.cons ⟨_, rfl, rfl⟩ .nil), rfl⟩
  refine ⟨hb, hf, ?_, by decide +kernel⟩
  simp only [List.forall_mem_cons]
  exact ⟨(hf _).added _ hn, (hf _).added _ hi, nofun⟩

end Proof

end BoxedDeduction
