import BoxedDeduction.Proofs.Proof.Deducible
import BoxedDeduction.Proofs.Proposition.Truth

/-!
# Completeness of the rules

Whatever formulas entail can be deduced from them. Under a fixed valuation the truth or
falsity of every formula is deducible from that of its symbols. The symbols are then removed
one at a time, because each is true or false, and premises that are false under the valuation
contradict themselves. The deduction that results is performed on the proof that has the
premises only, and the goal is copied to the end of the global scope.
-/

namespace BoxedDeduction

/-- A valuation with another value for one name. -/
def Valuation.set (valuation : Valuation) (name : String) (value : Bool) : Valuation :=
  fun other => if other = name then value else valuation other

namespace Proposition

/-- A proposition or its negation, whichever is true under a valuation. -/
def valued (valuation : Valuation) (prop : Proposition) : Proposition :=
  if prop.holds valuation then prop else prop.negated

variable {valuation : Valuation} {prop : Proposition}

/-- What is true stands for itself. -/
theorem valued_of_holds (h : prop.holds valuation = true) : prop.valued valuation = prop := by
  rw [valued,if_pos h]

/-- What is false is negated. -/
theorem valued_of_not_holds (h : ¬prop.holds valuation = true) :
    prop.valued valuation = prop.negated := by
  rw [valued,if_neg h]

/-- A formula is not a box. -/
theorem isBox_of_isFormula (h : prop.isFormula = true) : prop.isBox = false := by
  cases prop with
  | box steps =>
    rw [isFormula] at h
    cases h
  | bottom | symbol | and | or | imply => rfl

end Proposition

/-- The symbols of given names, negated where they are false. -/
def Valuation.literals (valuation : Valuation) (names : List String) : List Proposition :=
  names.map fun name => (Proposition.symbol name).valued valuation

/-- Another value for one name changes the literal of that name only. -/
theorem Valuation.literals_set (valuation : Valuation) {name : String} {names : List String}
    (h : name ∉ names) (value : Bool) :
    (valuation.set name value).literals (name :: names) =
      (if value = true then .symbol name else (Proposition.symbol name).negated) ::
        valuation.literals names := by
  rw [literals,List.map_cons,Proposition.valued,Proposition.holds_symbol,Valuation.set,if_pos rfl]
  congr 1
  refine List.map_congr_left ?_
  intro other ho
  have hne : other ≠ name := by
    rintro rfl
    exact h ho
  rw [Proposition.valued,Proposition.valued,Proposition.holds_symbol,Proposition.holds_symbol,
    Valuation.set,if_neg hne]

variable {hypotheses premises : List Proposition} {goal φ ψ : Proposition} {valuation : Valuation}

namespace Deducible

/-! ## Truth under one valuation -/

/-- A conjunction is decided by its sides. -/
theorem valued_and (hφ : Deducible hypotheses (φ.valued valuation))
    (hψ : Deducible hypotheses (ψ.valued valuation)) :
    Deducible hypotheses ((φ.and ψ).valued valuation) := by
  by_cases hl : φ.holds valuation = true
  · by_cases hr : ψ.holds valuation = true
    · rw [Proposition.valued_of_holds hl] at hφ
      rw [Proposition.valued_of_holds hr] at hψ
      rw [Proposition.valued_of_holds (Proposition.holds_and.mpr ⟨hl, hr⟩)]
      exact andI hφ hψ
    · rw [Proposition.valued_of_not_holds hr] at hψ
      rw [Proposition.valued_of_not_holds fun h => hr (Proposition.holds_and.mp h).2]
      exact negI rfl (negE (andERhs head) hψ.cons)
  · rw [Proposition.valued_of_not_holds hl] at hφ
    rw [Proposition.valued_of_not_holds fun h => hl (Proposition.holds_and.mp h).1]
    exact negI rfl (negE (andELhs head) hφ.cons)

/-- A disjunction is decided by its sides. -/
theorem valued_or (hbφ : φ.isBox = false) (hbψ : ψ.isBox = false)
    (hφ : Deducible hypotheses (φ.valued valuation))
    (hψ : Deducible hypotheses (ψ.valued valuation)) :
    Deducible hypotheses ((φ.or ψ).valued valuation) := by
  by_cases hl : φ.holds valuation = true
  · rw [Proposition.valued_of_holds hl] at hφ
    rw [Proposition.valued_of_holds (Proposition.holds_or.mpr (Or.inl hl))]
    exact orILhs hφ
  · by_cases hr : ψ.holds valuation = true
    · rw [Proposition.valued_of_holds hr] at hψ
      rw [Proposition.valued_of_holds (Proposition.holds_or.mpr (Or.inr hr))]
      exact orIRhs hψ
    · rw [Proposition.valued_of_not_holds hl] at hφ
      rw [Proposition.valued_of_not_holds hr] at hψ
      rw [Proposition.valued_of_not_holds fun h => (Proposition.holds_or.mp h).elim hl hr]
      exact negI rfl (orE hbφ hbψ head (negE head hφ.cons.cons) (negE head hψ.cons.cons))

/-- An implication is decided by its sides. -/
theorem valued_imply (hbφ : φ.isBox = false) (hφ : Deducible hypotheses (φ.valued valuation))
    (hψ : Deducible hypotheses (ψ.valued valuation)) :
    Deducible hypotheses ((φ.imply ψ).valued valuation) := by
  by_cases hr : ψ.holds valuation = true
  · rw [Proposition.valued_of_holds hr] at hψ
    rw [Proposition.valued_of_holds (Proposition.holds_imply.mpr fun _ => hr)]
    exact implyI hbφ hψ.cons
  · by_cases hl : φ.holds valuation = true
    · rw [Proposition.valued_of_holds hl] at hφ
      rw [Proposition.valued_of_not_holds hr] at hψ
      rw [Proposition.valued_of_not_holds fun h => hr (Proposition.holds_imply.mp h hl)]
      exact negI rfl (negE (implyE head hφ.cons) hψ.cons)
    · rw [Proposition.valued_of_not_holds hl] at hφ
      rw [Proposition.valued_of_holds (Proposition.holds_imply.mpr fun h => (hl h).elim)]
      exact implyI hbφ (absurd head hφ.cons)

/-- Every formula is decided by its symbols. -/
theorem valued : ∀ {prop : Proposition}, prop.isFormula = true →
    (∀ name ∈ prop.names, (Proposition.symbol name).valued valuation ∈ hypotheses) →
      Deducible hypotheses (prop.valued valuation)
  | .bottom, _, _ => implyI rfl head
  | .symbol name, _, h => of_mem (h name List.mem_cons_self)
  | .and lhs rhs, hf, h => by
    rw [Proposition.isFormula,Bool.and_eq_true] at hf
    exact valued_and (valued hf.1 fun name hn => h name (List.mem_append_left _ hn))
      (valued hf.2 fun name hn => h name (List.mem_append_right _ hn))
  | .or lhs rhs, hf, h => by
    rw [Proposition.isFormula,Bool.and_eq_true] at hf
    exact valued_or (Proposition.isBox_of_isFormula hf.1) (Proposition.isBox_of_isFormula hf.2)
      (valued hf.1 fun name hn => h name (List.mem_append_left _ hn))
      (valued hf.2 fun name hn => h name (List.mem_append_right _ hn))
  | .imply lhs rhs, hf, h => by
    rw [Proposition.isFormula,Bool.and_eq_true] at hf
    exact valued_imply (Proposition.isBox_of_isFormula hf.1)
      (valued hf.1 fun name hn => h name (List.mem_append_left _ hn))
      (valued hf.2 fun name hn => h name (List.mem_append_right _ hn))
  | .box steps, hf, _ => by
    rw [Proposition.isFormula] at hf
    cases hf

/-- Every formula in a list is decided by the symbols of the list. -/
theorem valued_of_mem {props : List Proposition} {prop : Proposition} (hm : prop ∈ props)
    (hf : prop.isFormula = true) :
    Deducible (valuation.literals (props.flatMap Proposition.names) ++ hypotheses)
      (prop.valued valuation) := by
  refine valued hf ?_
  intro name hn
  have hname : name ∈ props.flatMap Proposition.names := List.mem_flatMap.mpr ⟨prop, hm, hn⟩
  exact List.mem_append_left _ (List.mem_map.mpr ⟨name, hname, rfl⟩)

/-! ## Every valuation -/

/-- A goal that is deducible whichever symbols are true is deducible. -/
theorem of_forall_valuation (names : List String)
    (h : ∀ valuation : Valuation, Deducible (valuation.literals names ++ hypotheses) goal) :
    Deducible hypotheses goal := by
  induction names with
  | nil => exact h fun _ => false
  | cons name rest ih =>
    refine ih ?_
    intro valuation
    by_cases hn : name ∈ rest
    · -- The symbol is among the others, so its own literal says nothing more.
      refine (h valuation).weaken ?_
      intro prop hp
      rcases List.mem_cons.mp hp with rfl | hp
      · exact List.mem_append_left _ (List.mem_map.mpr ⟨name, hn, rfl⟩)
      · exact hp
    · have ht := h (valuation.set name true)
      have hf := h (valuation.set name false)
      rw [valuation.literals_set hn,List.cons_append] at ht hf
      exact cases rfl ht hf

/-- What formulas entail is deducible from them. -/
theorem of_entails (hp : ∀ premise ∈ premises, premise.isFormula = true)
    (hg : goal.isFormula = true) (h : Entails premises goal) : Deducible premises goal := by
  refine of_forall_valuation ((goal :: premises).flatMap Proposition.names) ?_
  intro valuation
  by_cases ha : ∀ premise ∈ premises, premise.holds valuation = true
  · have hd := @valued_of_mem premises valuation (goal :: premises) goal List.mem_cons_self hg
    rw [Proposition.valued_of_holds (h valuation ha)] at hd
    exact hd
  · simp only [Classical.not_forall] at ha
    obtain ⟨premise, hm, hn⟩ := ha
    have hd := @valued_of_mem premises valuation (goal :: premises) premise
      (List.mem_cons_of_mem goal hm) (hp premise hm)
    rw [Proposition.valued_of_not_holds hn] at hd
    exact absurd (of_mem (List.mem_append_right _ hm)) hd

end Deducible

namespace Proof

/-! ## Performing the deduction -/

/-- Premises are added and are visible afterwards. -/
theorem exists_execute_premises (premises : List Proposition) {proof : Proof}
    (h : proof.WellFormed) : ∃ after, proof.execute (premises.map .premise) = .ok after ∧
      Continues proof after ∧ ∀ premise ∈ premises, after.lookup.Shows premise := by
  induction premises generalizing proof with
  | nil => exact ⟨proof, rfl, .refl h, fun _ hm => by cases hm⟩
  | cons first rest ih =>
    have hc : Continues proof (proof.extend first .premise) := h.continues_extend nofun
    obtain ⟨after, he, ha, hs⟩ := ih hc.wellFormed
    refine ⟨after, ?_, hc.trans ha, ?_⟩
    · rw [List.map_cons,execute,perform,premise,h.addLine]
      exact he
    · intro premise hm
      rcases List.mem_cons.mp hm with rfl | hm
      · exact ⟨proof.nextIndex, ha.includes hc.wellFormed _ _ h.lookup_extend⟩
      · exact hs premise hm

/-- Whatever formulas entail has a proof: after the premises, operations that deduce succeed and
leave no box open, and the last line of the global scope is the goal. -/
theorem exists_proof_of_entails (hp : ∀ premise ∈ premises, premise.isFormula = true)
    (hg : goal.isFormula = true) (h : Entails premises goal) :
    ∃ operations : List Operation, (∀ operation ∈ operations, operation.deduces = true) ∧
      ∃ final, fresh.execute (premises.map .premise ++ operations) = .ok final ∧
        final.depth = 1 ∧ ∃ line, final.globalScope.last? = some line ∧ line.prop = goal := by
  obtain ⟨start, hs, hc, hshown⟩ := exists_execute_premises premises WellFormed.fresh
  obtain ⟨after, ha, index, hl⟩ := Deducible.of_entails hp hg h start hc.wellFormed hshown
  obtain ⟨hf, operations, ho, he⟩ := ha.trans (.copy ha.1.wellFormed hl)
  have hn : after.enclosing = [] := ha.1.enclosing.trans hc.enclosing
  refine ⟨operations, ho, after.extend goal (.copy index), ?_, ?_, ?_⟩
  · rw [execute_append hs]
    exact he
  · rw [depth,extend,hn]
    rfl
  · refine ⟨⟨after.nextIndex, goal, .copy index⟩, ?_, rfl⟩
    rw [globalScope,extend,hn]
    exact List.getLast?_concat

/-- The premises that one of two symbols is true and that it is not the first have a proof of
the second. -/
theorem exists_proof_of_entails_disjunction :
    let premises := [.or (.symbol "p") (.symbol "q"), (Proposition.symbol "p").negated]
    (∀ premise ∈ premises, premise.isFormula = true) ∧ Entails premises (.symbol "q") ∧
      ∃ operations : List Operation, (∀ operation ∈ operations, operation.deduces = true) ∧
        ∃ final, fresh.execute (premises.map .premise ++ operations) = .ok final ∧
          final.depth = 1 ∧
            ∃ line, final.globalScope.last? = some line ∧ line.prop = .symbol "q" := by
  intro premises
  have hp : ∀ premise ∈ premises, premise.isFormula = true := by decide
  have he : Entails premises (.symbol "q") := by
    intro valuation hv
    have ho := hv _ List.mem_cons_self
    have hn := hv _ (List.mem_cons_of_mem _ List.mem_cons_self)
    rw [Proposition.holds_or] at ho
    rw [Proposition.holds_negated] at hn
    exact ho.resolve_left hn
  exact ⟨hp, he, exists_proof_of_entails hp rfl he⟩

end Proof

end BoxedDeduction
