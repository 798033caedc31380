import BoxedDeduction.Rule.Schema
import BoxedDeduction.Proofs.Rule.Derivation
import Mathlib.Data.List.Forall2

/-!
# Instances of the schemas

A rule is an instance of its schema when propositions can be chosen for the schematic letters such
that the cited lines are the left side in the order of citation. The letters that do not occur on
the left side stand for the propositions that the rule is given. What a rule derives is the right
side for such a choice, and nothing else. A rule that finds a line not visible blames an index that
it cites.
-/

namespace BoxedDeduction

/-! ## Schematic letters -/

/-- The letters of a pattern from left to right. -/
def Pattern.letters : Pattern → List SchematicLetter
  | .letter sign => [sign]
  | .bottom => []
  | .and lhs rhs | .or lhs rhs | .imply lhs rhs => lhs.letters ++ rhs.letters

/-- The letters of a premise. -/
def SchemaPremise.letters : SchemaPremise → List SchematicLetter
  | .line pattern => pattern.letters
  | .box assumption derived => assumption.letters ++ derived.letters

/-- The letters of the right side that do not occur on the left side, each of them once. -/
def Schema.givenLetters (schema : Schema) : List SchematicLetter :=
  schema.conclusion.letters.eraseDups.filter fun letter =>
    !(schema.premises.flatMap SchemaPremise.letters).contains letter

/-- The proposition that an argument is. -/
def Argument.prop? : Argument → Option Proposition
  | .index _ => none
  | .prop p => some p

/-- The choice of a proposition for each letter. -/
def chosen (φ ψ χ : Proposition) : SchematicLetter → Proposition
  | .phi => φ
  | .psi => ψ
  | .chi => χ

namespace Rule

/-- The propositions that a rule is given. -/
def given (rule : Rule) : List Proposition := rule.arguments.filterMap Argument.prop?

/-- Whether a rule is the instance of its schema for a choice of propositions for the letters. -/
structure IsInstance (rule : Rule) (lookup : Lookup) (choice : SchematicLetter → Proposition) :
    Prop where
  /-- The cited lines are the left side, in the order of citation. -/
  left : List.Forall₂ (fun premise index =>
    ∃ prop, lookup index = some prop ∧ premise.Fits choice prop)
    rule.kind.schema.premises rule.cited
  /-- The other letters stand for the propositions that the rule is given. -/
  others : rule.kind.schema.givenLetters.map choice = rule.given

variable {lookup : Lookup} {rule : Rule} {prop : Proposition}
  {choice : SchematicLetter → Proposition}

/-- What a rule derives is the right side of its schema for some choice. -/
theorem Derives.exists_isInstance (h : rule.Derives lookup prop) : ∃ choice,
    rule.IsInstance lookup choice ∧ prop = rule.kind.schema.conclusion.instantiate choice := by
  cases h with
  | @andI i j φ ψ hφ hψ =>
    exact ⟨chosen φ ψ .bottom, ⟨.cons ⟨φ, hφ, rfl⟩ (.cons ⟨ψ, hψ, rfl⟩ .nil), rfl⟩, rfl⟩
  | @andELhs i φ ψ h => exact ⟨chosen prop ψ .bottom, ⟨.cons ⟨_, h, rfl⟩ .nil, rfl⟩, rfl⟩
  | @andERhs i φ ψ h => exact ⟨chosen φ prop .bottom, ⟨.cons ⟨_, h, rfl⟩ .nil, rfl⟩, rfl⟩
  | @orILhs i φ ψ h => exact ⟨chosen φ ψ .bottom, ⟨.cons ⟨φ, h, rfl⟩ .nil, rfl⟩, rfl⟩
  | @orIRhs i φ ψ h => exact ⟨chosen φ ψ .bottom, ⟨.cons ⟨ψ, h, rfl⟩ .nil, rfl⟩, rfl⟩
  | @orE i j k left right h hl hr hd =>
    exact ⟨chosen left.assumption right.assumption left.derived,
      ⟨.cons ⟨_, h, rfl⟩ (.cons ⟨_, hl, left, rfl, rfl, rfl⟩
        (.cons ⟨_, hr, right, rfl, rfl, hd.symm⟩ .nil)), rfl⟩, rfl⟩
  | @negI i steps h hd =>
    exact ⟨chosen steps.assumption .bottom .bottom,
      ⟨.cons ⟨_, h, steps, rfl, rfl, hd⟩ .nil, rfl⟩, rfl⟩
  | @negE i j φ hφ hn =>
    exact ⟨chosen φ .bottom .bottom, ⟨.cons ⟨φ, hφ, rfl⟩ (.cons ⟨_, hn, rfl⟩ .nil), rfl⟩, rfl⟩
  | @implyI i steps h =>
    exact ⟨chosen steps.assumption steps.derived .bottom,
      ⟨.cons ⟨_, h, steps, rfl, rfl, rfl⟩ .nil, rfl⟩, rfl⟩
  | @implyE i j φ ψ h hφ =>
    exact ⟨chosen φ prop .bottom, ⟨.cons ⟨_, h, rfl⟩ (.cons ⟨φ, hφ, rfl⟩ .nil), rfl⟩, rfl⟩
  | @bottomE i goal h =>
    exact ⟨chosen prop .bottom .bottom, ⟨.cons ⟨_, h, rfl⟩ .nil, rfl⟩, rfl⟩
  | @negNegE i φ h => exact ⟨chosen prop .bottom .bottom, ⟨.cons ⟨_, h, rfl⟩ .nil, rfl⟩, rfl⟩
  | @modusTollens i j φ ψ h hn =>
    exact ⟨chosen φ ψ .bottom, ⟨.cons ⟨_, h, rfl⟩ (.cons ⟨_, hn, rfl⟩ .nil), rfl⟩, rfl⟩
  | @negNegI i φ h => exact ⟨chosen φ .bottom .bottom, ⟨.cons ⟨φ, h, rfl⟩ .nil, rfl⟩, rfl⟩
  | @contradiction i steps φ h ha hd =>
    exact ⟨chosen prop .bottom .bottom, ⟨.cons ⟨_, h, steps, rfl, ha, hd⟩ .nil, rfl⟩, rfl⟩
  | @excludedMiddle φ => exact ⟨chosen φ .bottom .bottom, ⟨.nil, rfl⟩, rfl⟩

/-- An instance of a schema derives the right side. -/
theorem IsInstance.derives (h : rule.IsInstance lookup choice) :
    rule.Derives lookup (rule.kind.schema.conclusion.instantiate choice) := by
  obtain ⟨hl, ho⟩ := h
  cases rule with
  | andI i j =>
    obtain _ | ⟨⟨_, hφ, rfl⟩, _ | ⟨⟨_, hψ, rfl⟩, _⟩⟩ := hl
    exact .andI hφ hψ
  | andELhs i =>
    obtain _ | ⟨⟨_, hp, rfl⟩, _⟩ := hl
    exact .andELhs hp
  | andERhs i =>
    obtain _ | ⟨⟨_, hp, rfl⟩, _⟩ := hl
    exact .andERhs hp
  | orILhs i other =>
    obtain _ | ⟨⟨_, hp, rfl⟩, _⟩ := hl
    obtain ⟨rfl, -⟩ := List.cons.inj ho
    exact .orILhs hp
  | orIRhs other i =>
    obtain _ | ⟨⟨_, hp, rfl⟩, _⟩ := hl
    obtain ⟨rfl, -⟩ := List.cons.inj ho
    exact .orIRhs hp
  | orE i j k =>
    obtain _ | ⟨⟨_, hp, rfl⟩, _ | ⟨⟨_, hj, left, rfl, hla, hld⟩,
      _ | ⟨⟨_, hk, right, rfl, hra, hrd⟩, _⟩⟩⟩ := hl
    have hcases : lookup i = some (.or left.assumption right.assumption) := by
      rw [hla,hra]
      exact hp
    have hd := Derives.orE hcases hj hk (hld.trans hrd.symm)
    rw [hld] at hd
    exact hd
  | negI i =>
    obtain _ | ⟨⟨_, hp, steps, rfl, ha, hb⟩, _⟩ := hl
    have hd := Derives.negI hp hb
    rw [ha] at hd
    exact hd
  | negE i j =>
    obtain _ | ⟨⟨_, hφ, rfl⟩, _ | ⟨⟨_, hn, rfl⟩, _⟩⟩ := hl
    exact .negE hφ hn
  | implyI i =>
    obtain _ | ⟨⟨_, hp, steps, rfl, ha, hb⟩, _⟩ := hl
    have hd := Derives.implyI hp
    rw [ha,hb] at hd
    exact hd
  | implyE i j =>
    obtain _ | ⟨⟨_, hp, rfl⟩, _ | ⟨⟨_, hφ, rfl⟩, _⟩⟩ := hl
    exact .implyE hp hφ
  | bottomE i goal =>
    obtain _ | ⟨⟨_, hp, rfl⟩, _⟩ := hl
    obtain ⟨rfl, -⟩ := List.cons.inj ho
    exact .bottomE hp
  | negNegE i =>
    obtain _ | ⟨⟨_, hp, rfl⟩, _⟩ := hl
    exact .negNegE hp
  | modusTollens i j =>
    obtain _ | ⟨⟨_, hp, rfl⟩, _ | ⟨⟨_, hn, rfl⟩, _⟩⟩ := hl
    exact .modusTollens hp hn
  | negNegI i =>
    obtain _ | ⟨⟨_, hp, rfl⟩, _⟩ := hl
    exact .negNegI hp
  | contradiction i =>
    obtain _ | ⟨⟨_, hp, steps, rfl, ha, hd⟩, _⟩ := hl
    exact .contradiction hp ha hd
  | excludedMiddle prop =>
    obtain ⟨rfl, -⟩ := List.cons.inj ho
    exact .excludedMiddle

/-- The conclusion that is computed for a rule is the right side of its schema for some choice. -/
theorem conclusion_eq_ok_iff_isInstance : rule.conclusion lookup = .ok prop ↔ ∃ choice,
    rule.IsInstance lookup choice ∧ prop = rule.kind.schema.conclusion.instantiate choice := by
  rw [conclusion_eq_ok_iff]
  constructor
  · exact Derives.exists_isInstance
  · rintro ⟨choice, hi, rfl⟩
    exact hi.derives

end Rule

/-! ## Lines that are not visible -/

section Blame

variable {lookup : Lookup} {index blamed : Int} {prop lhs rhs : Proposition}

/-- A citation fails only when the index denotes nothing. -/
theorem Lookup.cite_eq_error {cause : InferenceError} :
    lookup.cite index = .error cause ↔ lookup index = none ∧ cause = .notVisible index := by
  unfold cite
  cases lookup index <;> simp [eq_comm]

/-- No check of a form finds a line not visible. -/
theorem Proposition.forms_ne_notVisible (blamed : Int) (prop : Proposition) :
    prop.asAnd ≠ .error (.notVisible blamed) ∧ prop.asOr ≠ .error (.notVisible blamed) ∧
      prop.asImply ≠ .error (.notVisible blamed) ∧ prop.asBox ≠ .error (.notVisible blamed) := by
  cases prop <;> simp [asAnd, asOr, asImply, asBox]

/-- No comparison finds a line not visible. -/
theorem Proposition.demand_ne_notVisible : demand lhs rhs ≠ .error (.notVisible blamed) := by
  unfold demand
  split <;> simp

/-- A rule that finds a line not visible cites an index that denotes nothing. -/
theorem Rule.cited_of_notVisible {rule : Rule}
    (h : rule.conclusion lookup = .error (.notVisible blamed)) :
    blamed ∈ rule.cited ∧ lookup blamed = none := by
  have hforms := Proposition.forms_ne_notVisible blamed
  cases rule <;> simp only [conclusion, bind_eq_error_iff, Lookup.cite_eq_error,
    InferenceError.notVisible.injEq, hforms, Proposition.demand_ne_notVisible, pure, Except.pure,
    reduceCtorEq, and_false, exists_false, false_or, or_false] at h
  case andI | negE =>
    rcases h with ⟨hn, rfl⟩ | ⟨_, -, hn, rfl⟩
    · exact ⟨List.mem_cons_self, hn⟩
    · exact ⟨List.mem_cons_of_mem _ List.mem_cons_self, hn⟩
  case implyE | modusTollens =>
    rcases h with ⟨hn, rfl⟩ | ⟨_, -, _, -, hn, rfl⟩
    · exact ⟨List.mem_cons_self, hn⟩
    · exact ⟨List.mem_cons_of_mem _ List.mem_cons_self, hn⟩
  case orE =>
    rcases h with ⟨hn, rfl⟩ | ⟨_, -, _, -, ⟨hn, rfl⟩ | ⟨_, -, _, -, hn, rfl⟩⟩
    · exact ⟨List.mem_cons_self, hn⟩
    · exact ⟨List.mem_cons_of_mem _ List.mem_cons_self, hn⟩
    · exact ⟨List.mem_cons_of_mem _ (List.mem_cons_of_mem _ List.mem_cons_self), hn⟩
  all_goals
    obtain ⟨hn, rfl⟩ := h
    exact ⟨List.mem_cons_self, hn⟩

end Blame

end BoxedDeduction
