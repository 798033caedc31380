import BoxedDeduction.Proofs.Computation
import BoxedDeduction.Rule.Conclusion

/-!
# What the rules derive, as a relation

Each rule is stated once more as a relation between what its indices denote and what
follows. The conclusion that is computed for a rule is exactly what the relation
allows, so later arguments go through the sixteen rules without opening the checks.
-/

namespace BoxedDeduction

/-- What a rule derives from the propositions that its indices denote. -/
inductive Rule.Derives (lookup : Lookup) : Rule → Proposition → Prop where
  /-- Two lines give their conjunction. -/
  | andI {i j : Int} {φ ψ : Proposition} (hφ : lookup i = some φ) (hψ : lookup j = some ψ) :
    Derives lookup (.andI i j) (.and φ ψ)
  /-- A conjunction gives its left side. -/
  | andELhs {i : Int} {φ ψ : Proposition} (h : lookup i = some (.and φ ψ)) :
    Derives lookup (.andELhs i) φ
  /-- A conjunction gives its right side. -/
  | andERhs {i : Int} {φ ψ : Proposition} (h : lookup i = some (.and φ ψ)) :
    Derives lookup (.andERhs i) ψ
  /-- A line gives a disjunction with itself on the left. -/
  | orILhs {i : Int} {φ ψ : Proposition} (h : lookup i = some φ) :
    Derives lookup (.orILhs i ψ) (.or φ ψ)
  /-- A line gives a disjunction with itself on the right. -/
  | orIRhs {i : Int} {φ ψ : Proposition} (h : lookup i = some ψ) :
    Derives lookup (.orIRhs φ i) (.or φ ψ)
  /-- What both sides of a disjunction lead to follows from it. -/
  | orE {i j k : Int} {left right : SubProof}
    (h : lookup i = some (.or left.assumption right.assumption))
    (hl : lookup j = some (.box left)) (hr : lookup k = some (.box right))
    (hd : left.derived = right.derived) : Derives lookup (.orE i j k) left.derived
  /-- A box that reaches falsity refutes its assumption. -/
  | negI {i : Int} {steps : SubProof} (h : lookup i = some (.box steps))
    (hd : steps.derived = .bottom) : Derives lookup (.negI i) steps.assumption.negated
  /-- A line and its negation give falsity. -/
  | negE {i j : Int} {φ : Proposition} (hφ : lookup i = some φ)
    (hn : lookup j = some φ.negated) : Derives lookup (.negE i j) .bottom
  /-- A box gives the implication from its assumption to its last line. -/
  | implyI {i : Int} {steps : SubProof} (h : lookup i = some (.box steps)) :
    Derives lookup (.implyI i) (.imply steps.assumption steps.derived)
  /-- An implication and its left side give its right side. -/
  | implyE {i j : Int} {φ ψ : Proposition} (h : lookup i = some (.imply φ ψ))
    (hφ : lookup j = some φ) : Derives lookup (.implyE i j) ψ
  /-- Falsity gives any proposition. -/
  | bottomE {i : Int} {goal : Proposition} (h : lookup i = some .bottom) :
    Derives lookup (.bottomE i goal) goal
  /-- A double negation gives the proposition. -/
  | negNegE {i : Int} {φ : Proposition} (h : lookup i = some φ.negated.negated) :
    Derives lookup (.negNegE i) φ
  /-- An implication and the negation of its right side give the negation of its left side. -/
  | modusTollens {i j : Int} {φ ψ : Proposition} (h : lookup i = some (.imply φ ψ))
    (hn : lookup j = some ψ.negated) : Derives lookup (.modusTollens i j) φ.negated
  /-- A line gives its double negation. -/
  | negNegI {i : Int} {φ : Proposition} (h : lookup i = some φ) :
    Derives lookup (.negNegI i) φ.negated.negated
  /-- A box from a negation to falsity gives the negated proposition. -/
  | contradiction {i : Int} {steps : SubProof} {φ : Proposition}
    (h : lookup i = some (.box steps)) (ha : steps.assumption = φ.negated)
    (hd : steps.derived = .bottom) : Derives lookup (.contradiction i) φ
  /-- A proposition or its negation. -/
  | excludedMiddle {φ : Proposition} : Derives lookup (.excludedMiddle φ) (.or φ φ.negated)

/-- A citation succeeds with the proposition that the index denotes. -/
@[simp] theorem Lookup.cite_eq_ok {lookup : Lookup} {index : Int} {prop : Proposition} :
    lookup.cite index = .ok prop ↔ lookup index = some prop := by
  unfold cite
  cases lookup index <;> simp

namespace Proposition

variable {prop lhs rhs : Proposition} {sides : Proposition × Proposition}

/-- A proposition has the sides of a conjunction when it is that conjunction. -/
@[simp] theorem asAnd_eq_ok : prop.asAnd = .ok sides ↔ prop = .and sides.1 sides.2 := by
  cases prop <;> simp [asAnd, Prod.ext_iff]

/-- A proposition has the sides of a disjunction when it is that disjunction. -/
@[simp] theorem asOr_eq_ok : prop.asOr = .ok sides ↔ prop = .or sides.1 sides.2 := by
  cases prop <;> simp [asOr, Prod.ext_iff]

/-- A proposition has the sides of an implication when it is that implication. -/
@[simp] theorem asImply_eq_ok : prop.asImply = .ok sides ↔ prop = .imply sides.1 sides.2 := by
  cases prop <;> simp [asImply, Prod.ext_iff]

/-- A proposition has the lines of a box when it is that box. -/
@[simp] theorem asBox_eq_ok {steps : SubProof} : prop.asBox = .ok steps ↔ prop = .box steps := by
  cases prop <;> simp [asBox]

/-- A demand is met by the expected proposition only. -/
@[simp] theorem demand_eq_ok {done : Unit} : demand lhs rhs = .ok done ↔ lhs = rhs := by
  unfold demand
  split <;> simp_all

end Proposition

namespace Rule

variable {lookup : Lookup} {rule : Rule} {prop : Proposition}

/-- What is computed for a rule is derived by it. -/
theorem Derives.of_conclusion (h : rule.conclusion lookup = .ok prop) :
    rule.Derives lookup prop := by
  cases rule <;> simp only [conclusion, bind_eq_ok_iff, Lookup.cite_eq_ok,
    Proposition.asAnd_eq_ok, Proposition.asOr_eq_ok, Proposition.asImply_eq_ok,
    Proposition.asBox_eq_ok, Proposition.demand_eq_ok] at h
  case andI =>
    obtain ⟨φ, hφ, ψ, hψ, h⟩ := h
    cases h
    exact .andI hφ hψ
  case andELhs =>
    obtain ⟨_, hp, sides, rfl, h⟩ := h
    cases h
    exact .andELhs hp
  case andERhs =>
    obtain ⟨_, hp, sides, rfl, h⟩ := h
    cases h
    exact .andERhs hp
  case orILhs =>
    obtain ⟨φ, hφ, h⟩ := h
    cases h
    exact .orILhs hφ
  case orIRhs =>
    obtain ⟨ψ, hψ, h⟩ := h
    cases h
    exact .orIRhs hψ
  case orE =>
    obtain ⟨_, hp, sides, rfl, _, hl, left, rfl, _, hr, right, rfl, -, ha, -, hb, -, hd, h⟩ := h
    cases h
    rw [ha,hb] at hp
    exact .orE hp hl hr hd
  case negI =>
    obtain ⟨_, hp, steps, rfl, -, hd, h⟩ := h
    cases h
    exact .negI hp hd.symm
  case negE =>
    obtain ⟨_, hp, _, hn, sides, rfl, -, rfl, -, hb, h⟩ := h
    cases h
    rw [← hb] at hn
    exact .negE hp hn
  case implyI =>
    obtain ⟨_, hp, steps, rfl, h⟩ := h
    cases h
    exact .implyI hp
  case implyE =>
    obtain ⟨_, hp, sides, rfl, _, hl, -, rfl, h⟩ := h
    cases h
    exact .implyE hp hl
  case bottomE =>
    obtain ⟨_, hp, -, rfl, h⟩ := h
    cases h
    exact .bottomE hp
  case negNegE =>
    obtain ⟨_, hp, outer, rfl, -, ho, inner, hi, -, hb, h⟩ := h
    cases h
    rw [hi,← ho,← hb] at hp
    exact .negNegE hp
  case modusTollens =>
    obtain ⟨_, hp, sides, rfl, _, hn, -, rfl, h⟩ := h
    cases h
    exact .modusTollens hp hn
  case negNegI =>
    obtain ⟨φ, hφ, h⟩ := h
    cases h
    exact .negNegI hφ
  case contradiction =>
    obtain ⟨_, hp, steps, rfl, sides, ha, -, hb, -, hd, h⟩ := h
    cases h
    rw [← hb] at ha
    exact .contradiction hp ha hd.symm
  case excludedMiddle =>
    cases h
    exact .excludedMiddle

/-- What a rule derives is computed for it. -/
theorem Derives.conclusion (h : rule.Derives lookup prop) :
    rule.conclusion lookup = .ok prop := by
  cases h <;> simp_all [Rule.conclusion, Lookup.cite, Proposition.asAnd, Proposition.asOr,
    Proposition.asImply, Proposition.asBox, Proposition.demand, Proposition.negated, bind,
    Except.bind, pure, Except.pure]

/-- The conclusion of a rule is what the rule derives. -/
theorem conclusion_eq_ok_iff : rule.conclusion lookup = .ok prop ↔ rule.Derives lookup prop :=
  ⟨Derives.of_conclusion, Derives.conclusion⟩

end Rule

/-! ## What a rule reads -/

/-- A look-up that finds only what stands under given indices. -/
def Lookup.within (lookup : Lookup) (indices : List Int) : Lookup := fun index =>
  if index ∈ indices then lookup index else none

namespace Rule

variable {lookup other : Lookup} {rule : Rule} {prop : Proposition}

/-- A rule reads only the lines that it cites. -/
theorem conclusion_congr (h : ∀ index ∈ rule.cited, lookup index = other index) :
    rule.conclusion lookup = rule.conclusion other := by
  have hc : ∀ index ∈ rule.cited, lookup.cite index = other.cite index := by
    intro index hi
    rw [Lookup.cite,Lookup.cite,h index hi]
  cases rule with
  | excludedMiddle prop => rfl
  | _ =>
    simp only [cited, arguments, Argument.cited?, List.filterMap_cons, List.filterMap_nil,
      List.forall_mem_cons] at hc
    simp only [conclusion, hc]

/-- What is computed for a rule is derived from the lines that it cites. -/
theorem Derives.of_conclusion_within (h : rule.conclusion lookup = .ok prop) :
    rule.Derives (lookup.within rule.cited) prop := by
  have hc : rule.conclusion (lookup.within rule.cited) = rule.conclusion lookup :=
    conclusion_congr fun _ hi => if_pos hi
  exact Derives.of_conclusion (hc.trans h)

end Rule

end BoxedDeduction
