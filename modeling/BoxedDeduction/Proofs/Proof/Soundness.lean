import BoxedDeduction.Proofs.Proposition.Truth
import BoxedDeduction.Proofs.Rule.Derivation
import BoxedDeduction.Proofs.Proof.Run

/-!
# Soundness

Every line of an open scope follows from the premises recorded anywhere in the proof and from
the assumptions that opened this scope and those around it. The rules keep truth, a copied
line was visible, and a closed box states what was found under its assumption.
-/

namespace BoxedDeduction

/-- What a rule derives from true propositions is true. -/
theorem Rule.Derives.holds {lookup : Lookup} {rule : Rule} {prop : Proposition}
    {valuation : Valuation} (h : rule.Derives lookup prop)
    (hl : ∀ index cited, lookup index = some cited → cited.holds valuation = true) :
    prop.holds valuation = true := by
  cases h with
  | andI hφ hψ => exact Proposition.holds_and.mpr ⟨hl _ _ hφ, hl _ _ hψ⟩
  | andELhs h => exact (Proposition.holds_and.mp (hl _ _ h)).1
  | andERhs h => exact (Proposition.holds_and.mp (hl _ _ h)).2
  | orILhs h => exact Proposition.holds_or.mpr (Or.inl (hl _ _ h))
  | orIRhs h => exact Proposition.holds_or.mpr (Or.inr (hl _ _ h))
  | orE h hleft hright hd =>
    rcases Proposition.holds_or.mp (hl _ _ h) with ha | ha
    · exact Proposition.holds_box.mp (hl _ _ hleft) ha
    · rw [hd]
      exact Proposition.holds_box.mp (hl _ _ hright) ha
  | negI h hd =>
    have hb := Proposition.holds_box.mp (hl _ _ h)
    rw [hd] at hb
    exact Proposition.holds_imply.mpr hb
  | negE hφ hn => exact Proposition.holds_imply.mp (hl _ _ hn) (hl _ _ hφ)
  | implyI h => exact Proposition.holds_imply.mpr (Proposition.holds_box.mp (hl _ _ h))
  | implyE h hφ => exact Proposition.holds_imply.mp (hl _ _ h) (hl _ _ hφ)
  | bottomE h => exact absurd (hl _ _ h) (by simp)
  | negNegE h =>
    have hn := Proposition.holds_negated.mp (hl _ _ h)
    rw [Proposition.holds_negated] at hn
    exact Decidable.not_not.mp hn
  | modusTollens h hn =>
    rw [Proposition.holds_negated]
    intro hφ
    exact Proposition.holds_negated.mp (hl _ _ hn) (Proposition.holds_imply.mp (hl _ _ h) hφ)
  | negNegI h =>
    rw [Proposition.holds_negated,Proposition.holds_negated,Decidable.not_not]
    exact hl _ _ h
  | contradiction h ha hd =>
    have hb := Proposition.holds_box.mp (hl _ _ h)
    rw [ha,hd,Proposition.holds_negated] at hb
    exact Decidable.byContradiction fun hn => absurd (hb hn) (by simp)
  | excludedMiddle =>
    rw [Proposition.holds_or,Proposition.holds_negated]
    exact Decidable.em _

/-! ## What holds in open scopes -/

/-- The assumptions that opened given scopes, which are listed from the innermost to the
global one. -/
def openingAssumptions (scopes : List Scope) : List Proposition :=
  scopes.dropLast.filterMap fun scope => scope.first?.map Line.prop

/-- Whether the lines of each scope are true as far as its assumption and those around it are. -/
def HoldInScopes (valuation : Valuation) : List Scope → Prop
  | [] => True
  | scope :: outer => HoldInScopes valuation outer ∧
    ((∀ assumption ∈ openingAssumptions (scope :: outer), assumption.holds valuation = true) →
      ∀ line ∈ scope.lines, line.prop.holds valuation = true)

variable {valuation : Valuation} {scope : Scope} {outer : List Scope} {line : Line}

/-- The assumptions up to a nested scope are its own and those of the scopes around it. -/
theorem mem_openingAssumptions_cons {parent : Scope} {prop : Proposition} :
    prop ∈ openingAssumptions (scope :: parent :: outer) ↔
      scope.first?.map Line.prop = some prop ∨ prop ∈ openingAssumptions (parent :: outer) := by
  rw [openingAssumptions,openingAssumptions,List.dropLast_cons_cons,List.mem_filterMap,
    List.mem_filterMap]
  simp only [List.mem_cons, or_and_right, exists_or, exists_eq_left]

/-- The assumptions of the scopes around one are among those up to it. -/
theorem openingAssumptions_subset {prop : Proposition} (h : prop ∈ openingAssumptions outer) :
    prop ∈ openingAssumptions (scope :: outer) := by
  cases outer with
  | nil => cases h
  | cons parent rest => exact mem_openingAssumptions_cons.mpr (Or.inr h)

/-- While all assumptions hold, the lines of all scopes do. -/
theorem HoldInScopes.all (h : HoldInScopes valuation outer)
    (ha : ∀ assumption ∈ openingAssumptions outer, assumption.holds valuation = true)
    (hs : scope ∈ outer) (hl : line ∈ scope.lines) : line.prop.holds valuation = true := by
  induction outer with
  | nil => cases hs
  | cons inner rest ih =>
    rcases List.mem_cons.mp hs with rfl | hs
    · exact h.2 ha line hl
    · exact ih h.1 (fun assumption hm => ha assumption (openingAssumptions_subset hm)) hs

/-- What holds in all scopes holds in the outer ones. -/
theorem HoldInScopes.of_append {inner : List Scope} (h : HoldInScopes valuation (inner ++ outer)) :
    HoldInScopes valuation outer := by
  induction inner with
  | nil => exact h
  | cons first rest ih => exact ih h.1

/-- An assumption stays where it is when a line is added to its scope. -/
theorem openingAssumptions_append {prop : Proposition}
    (h : prop ∈ openingAssumptions (scope :: outer)) :
    prop ∈ openingAssumptions (scope.append line :: outer) := by
  cases outer with
  | nil => cases h
  | cons parent rest =>
    rcases mem_openingAssumptions_cons.mp h with hf | ho
    · obtain ⟨first, hh, hp⟩ := Option.map_eq_some_iff.mp hf
      have ha : (scope.append line).first? = some first := by
        rw [Scope.first?] at hh
        rw [Scope.first?,Scope.append,List.head?_append,hh,Option.some_or]
      exact mem_openingAssumptions_cons.mpr (Or.inl (by rw [ha,Option.map_some,hp]))
    · exact mem_openingAssumptions_cons.mpr (Or.inr ho)

/-- A line may be added to the innermost scope when the assumptions make it true. -/
theorem HoldInScopes.append (h : HoldInScopes valuation (scope :: outer))
    (hl : (∀ assumption ∈ openingAssumptions (scope :: outer),
      assumption.holds valuation = true) → line.prop.holds valuation = true) :
    HoldInScopes valuation (scope.append line :: outer) := by
  refine ⟨h.1, ?_⟩
  intro ha other ho
  have hb : ∀ assumption ∈ openingAssumptions (scope :: outer),
      assumption.holds valuation = true :=
    fun assumption hm => ha assumption (openingAssumptions_append hm)
  rcases List.mem_append.mp ho with ho | ho
  · exact h.2 hb other ho
  · rw [List.mem_singleton.mp ho]
    exact hl hb

/-! ## Growing proofs -/

namespace Proof

variable {history : List Proof} {proof : Proof} {prop : Proposition} {reason : Justification}

/-- A premise is what a plain line with that reason states. -/
theorem mem_premises : prop ∈ proof.premises ↔
    ∃ line ∈ proof.expanded, line.reason = .premise ∧ line.prop = prop := by
  simp only [premises, List.mem_map, List.mem_filter, decide_eq_true_eq, and_assoc]

/-- Premises are kept when lines are added at the end. -/
theorem premises_subset {larger : Proof} {lines : List Line} {premise : Proposition}
    (he : larger.expanded = proof.expanded ++ lines) (h : premise ∈ proof.premises) :
    premise ∈ larger.premises := by
  obtain ⟨line, hl, hp⟩ := mem_premises.mp h
  refine mem_premises.mpr ⟨line, ?_, hp⟩
  rw [he]
  exact List.mem_append_left _ hl

/-- A premise that is added is a premise of the proof. -/
theorem mem_premises_extend : prop ∈ (proof.extend prop .premise).premises := by
  refine mem_premises.mpr ⟨⟨proof.nextIndex, prop, .premise⟩, ?_, rfl, rfl⟩
  have hr : Justification.premise ≠ .assumption := Justification.noConfusion
  rw [expanded_extend hr]
  exact List.mem_append_right _ (List.mem_singleton.mpr rfl)

/-- A justified line is true when the premises and what it may cite are. -/
theorem Justifies.holds (h : proof.Justifies reason prop)
    (hp : reason = .premise → prop.holds valuation = true)
    (hl : ∀ index cited, proof.lookup index = some cited → cited.holds valuation = true) :
    prop.holds valuation = true := by
  cases h with
  | premise => exact hp rfl
  | copy h => exact hl _ _ h
  | inference h => exact (Rule.Derives.of_conclusion h).holds hl

/-- What may be cited is true while all assumptions are. -/
theorem holds_of_lookup (h : HoldInScopes valuation proof.openScopes)
    (ha : ∀ assumption ∈ openingAssumptions proof.openScopes, assumption.holds valuation = true)
    (index : Int) (cited : Proposition) (hl : proof.lookup index = some cited) :
    cited.holds valuation = true := by
  obtain ⟨scope, hs, line, hm, -, rfl⟩ := exists_of_lookup hl
  exact h.all ha hs hm

/-- In a proof that grew the lines hold as far as the premises and the open assumptions do. -/
theorem Grown.holdInScopes (h : Grown history proof)
    (hp : ∀ premise ∈ proof.premises, premise.holds valuation = true) :
    HoldInScopes valuation proof.openScopes := by
  induction h with
  | fresh => exact ⟨trivial, fun _ line hl => by cases hl⟩
  | extend _ hj ih =>
    have hi := ih fun premise hm => hp premise (premises_subset (expanded_extend hj.reason_ne) hm)
    refine hi.append fun ha => ?_
    refine hj.holds ?_ (holds_of_lookup hi ha)
    rintro rfl
    exact hp _ mem_premises_extend
  | openBox _ hb ih =>
    have hi := ih fun premise hm => hp premise (premises_subset (expanded_openBox hb) hm)
    refine ⟨hi, fun ha line hl => ?_⟩
    -- The only line of the new scope is its assumption.
    rw [List.mem_singleton.mp hl]
    exact ha _ List.mem_cons_self
  | @close _ inner parent outer next steps _ hs ih =>
    have hi := ih (by rwa [premises,← expanded_close hs])
    refine hi.1.append fun ha => Proposition.holds_box.mpr fun hf => ?_
    have hl := Scope.toSubProof?_eq_some.mp hs
    refine hi.2 (fun assumption hm => ?_) steps.lastLine ?_
    · rcases mem_openingAssumptions_cons.mp hm with hm | hm
      · rw [Scope.first?,← hl] at hm
        cases hm
        exact hf
      · exact ha assumption hm
    · rw [← hl]
      exact List.mem_of_getLast? steps.getLast?_toList

/-- The assumptions that opened the scopes from the first nested one up to a number. -/
def assumptionsUpTo (proof : Proof) (number : Nat) : List Proposition :=
  (proof.scopes.take (number + 1)).tail.filterMap fun scope => scope.first?.map Line.prop

/-- A line of the scope with a number is true while the assumptions up to that number are. -/
theorem holds_of_mem_scope (h : HoldInScopes valuation proof.openScopes) {number : Nat}
    {scope : Scope} (hs : proof.scopes[number]? = some scope)
    (ha : ∀ assumption ∈ proof.assumptionsUpTo number, assumption.holds valuation = true)
    {line : Line} (hl : line ∈ scope.lines) : line.prop.holds valuation = true := by
  have ho : proof.openScopes =
      (proof.scopes.drop (number + 1)).reverse ++ (proof.scopes.take (number + 1)).reverse := by
    rw [← List.reverse_append,List.take_append_drop,scopes,List.reverse_reverse]
  have ht : (proof.scopes.take (number + 1)).reverse =
      scope :: (proof.scopes.take number).reverse := by
    rw [List.take_add_one,hs,Option.toList_some,List.reverse_append,List.reverse_singleton,
      List.singleton_append]
  rw [ho] at h
  have hn := h.of_append
  rw [ht] at hn
  refine hn.2 (fun assumption hm => ha assumption ?_) line hl
  rw [← ht,openingAssumptions,List.dropLast_reverse] at hm
  obtain ⟨opened, hr, hf⟩ := List.mem_filterMap.mp hm
  exact List.mem_filterMap.mpr ⟨opened, List.mem_reverse.mp hr, hf⟩

/-- Every line of an open scope follows from all premises recorded in the proof and the assumptions
that opened this scope and those around it. -/
theorem entails_of_mem_scope {operations : List Operation}
    (hb : ∀ operation ∈ operations, operation.assumesBox = false) {number : Nat} {scope : Scope}
    (hs : (fresh.run operations).scopes[number]? = some scope) {line : Line}
    (hl : line ∈ scope.lines) :
    Entails ((fresh.run operations).premises ++ (fresh.run operations).assumptionsUpTo number)
      line.prop := by
  obtain ⟨history, h⟩ := Grown.fresh.exists_run hb
  intro valuation hv
  have hh := h.holdInScopes fun premise hm => hv premise (List.mem_append_left _ hm)
  exact holds_of_mem_scope hh hs (fun assumption hm => hv assumption (List.mem_append_right _ hm)) hl

/-- Inside an open box the last line follows from a premise in a closed box and the assumption. -/
theorem entails_of_mem_scope_of_open_box :
    let implication : Proposition := .imply (.symbol "p") (.symbol "q")
    let operations : List Operation := [.assume (.symbol "r"), .premise implication, .close,
      .infer (.implyI 1), .assume (.symbol "r"), .infer (.implyE 3 4)]
    let scope : Scope := ⟨[⟨4, .symbol "r", .assumption⟩,
      ⟨5, implication, .inference (.implyE 3 4)⟩]⟩
    (∀ operation ∈ operations, operation.assumesBox = false) ∧
      (fresh.run operations).scopes[1]? = some scope ∧
      Entails [implication, .symbol "r"] implication := by
  intro implication operations scope
  have hb : ∀ operation ∈ operations, operation.assumesBox = false := by decide
  have hs : (fresh.run operations).scopes[1]? = some scope := by decide +kernel
  have hp : (fresh.run operations).premises ++ (fresh.run operations).assumptionsUpTo 1 =
      [implication, .symbol "r"] := by decide +kernel
  have he := entails_of_mem_scope hb hs (List.mem_cons_of_mem _ List.mem_cons_self)
  rw [hp] at he
  exact ⟨hb, hs, he⟩

end Proof

end BoxedDeduction
