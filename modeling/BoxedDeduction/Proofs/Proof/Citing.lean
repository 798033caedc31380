import BoxedDeduction.Proofs.Proof.Run
import BoxedDeduction.Proofs.Rule.Derivation

/-!
# Rules depend on nothing but the lines that they cite

The sorts that a kind of rule asks for tell which arguments of a rule are indices, and those are
the indices that the rule cites. Nothing else in a proof bears on the rule. In two proofs that
answer every cited index alike, with the same proposition or both with a refusal, the rule comes to
the same outcome: the same proposition, or the same failure with the same contents.
-/

namespace BoxedDeduction

/-! ## Cited indices -/

/-- The indices among arguments, as the sorts that a kind of rule asks for single them out. -/
def RuleKind.indicesAmong (kind : RuleKind) (arguments : List Argument) : List Int :=
  (kind.parameters.zip arguments).filterMap fun entry =>
    if entry.1 = .index then entry.2.cited? else none

/-- A rule cites the arguments that its kind asks to be indices. -/
theorem Rule.cited_eq_indicesAmong (rule : Rule) :
    rule.cited = rule.kind.indicesAmong rule.arguments := by
  rw [cited,RuleKind.indicesAmong,← rule.arguments_kinds]
  induction rule.arguments with
  | nil => rfl
  | cons argument rest ih =>
    cases argument with
    | index i => exact congrArg (List.cons i) ih
    | prop p => exact ih

/-! ## Proofs that answer alike -/

namespace Proof

variable {first second : Proof} {rule : Rule} {index : Int}

/-- The proposition of a visible line, or the failure to find it. -/
def propAt (proof : Proof) (index : Int) : Except ProofError Proposition :=
  (proof.line index).map Line.prop

/-- How two proofs answer an index alike. -/
inductive AnswersAlike (first second : Proof) (index : Int) : Prop where
  /-- Both have the same proposition under the index. -/
  | visible {prop : Proposition} (hf : first.propAt index = .ok prop)
    (hs : second.propAt index = .ok prop)
  /-- In neither is there a visible line under the index. -/
  | hidden {cause other : ProofError} (hf : first.propAt index = .error cause)
    (hs : second.propAt index = .error other)

/-- What a rule may cite under an index is what is found there. -/
theorem lookup_eq_toOption (proof : Proof) (index : Int) :
    proof.lookup index = (proof.propAt index).toOption := by
  rw [lookup,propAt,line]
  cases proof.find? index <;> rfl

/-- Where two proofs answer alike, a rule may cite the same in both. -/
theorem AnswersAlike.lookup_eq (h : first.AnswersAlike second index) :
    first.lookup index = second.lookup index := by
  rw [lookup_eq_toOption,lookup_eq_toOption]
  cases h with
  | visible hf hs => rw [hf,hs]
  | hidden hf hs =>
    rw [hf,hs]
    rfl

/-- How two proofs take a rule alike. -/
inductive TakesAlike (first second : Proof) (rule : Rule) : Prop where
  /-- Both refuse the rule for the same cause and stay as they are. -/
  | refused {cause : InferenceError} (hf : first.infer rule = (first, .error (.inference cause)))
    (hs : second.infer rule = (second, .error (.inference cause)))
  /-- Both go on to add the same proposition. -/
  | added {prop : Proposition} (hf : first.infer rule = first.addLine prop (.inference rule))
    (hs : second.infer rule = second.addLine prop (.inference rule))

/-- Two proofs take a rule alike when it comes to the same outcome in both. -/
theorem TakesAlike.of_conclusion_eq
    (h : rule.conclusion first.lookup = rule.conclusion second.lookup) :
    first.TakesAlike second rule := by
  cases hc : rule.conclusion second.lookup with
  | error cause => exact .refused (infer_of_error (h.trans hc)) (infer_of_error hc)
  | ok prop => exact .added (by rw [infer,h,hc]) (by rw [infer,hc])

/-- A rule cites exactly the arguments that its kind asks to be indices. In proofs that answer each
of them alike it comes to the same outcome, so they take the rule alike. -/
theorem conclusion_of_answersAlike (h : ∀ index ∈ rule.cited, first.AnswersAlike second index) :
    rule.cited = rule.kind.indicesAmong rule.arguments ∧
      rule.conclusion first.lookup = rule.conclusion second.lookup ∧
      first.TakesAlike second rule := by
  have hc : rule.conclusion first.lookup = rule.conclusion second.lookup :=
    Rule.conclusion_congr fun index hi => (h index hi).lookup_eq
  exact ⟨rule.cited_eq_indicesAmong, hc, .of_conclusion_eq hc⟩

/-- A proof in which a cited line is hidden in a closed box and one that has no such line answer the
rule alike, though they differ where it does not look. -/
theorem conclusion_of_answersAlike_hidden_line :
    let p : Proposition := .symbol "p"
    let first := fresh.run [.premise p, .assume (.symbol "q"), .copy 1, .close]
    let second := fresh.run [.assume p, .infer (.negNegI 1)]
    let rule : Rule := .andI 1 3
    (∀ index ∈ rule.cited, first.AnswersAlike second index) ∧
      rule.conclusion first.lookup = rule.conclusion second.lookup ∧
      rule.conclusion second.lookup = .error (.notVisible 3) ∧
      first.lookup 2 ≠ second.lookup 2 := by
  intro p first second rule
  have ha : ∀ index ∈ rule.cited, first.AnswersAlike second index := by
    have h1 : first.propAt 1 = .ok p ∧ second.propAt 1 = .ok p := ⟨rfl, rfl⟩
    have h3 : first.propAt 3 = .error (.inference (.notVisible 3)) ∧
        second.propAt 3 = .error (.inference (.notVisible 3)) := ⟨rfl, rfl⟩
    intro index hi
    rcases List.mem_cons.mp hi with rfl | hi
    · exact .visible h1.1 h1.2
    · rw [List.mem_singleton.mp hi]
      exact .hidden h3.1 h3.2
  obtain ⟨-, hc, -⟩ := conclusion_of_answersAlike ha
  exact ⟨ha, hc, rfl, by decide⟩

end Proof

end BoxedDeduction
