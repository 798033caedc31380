import BoxedDeduction.Proofs.Proof.Deduction

/-!
# Deducibility and its closure under the rules

A goal is deducible from hypotheses when every well-formed proof that shows the hypotheses, in
whatever scopes, can be continued until it shows the goal. Nothing depends on the indices then,
and each rule becomes a closure property. The rules that discharge assumptions turn a deduction
from one hypothesis more into a closed box.
-/

namespace BoxedDeduction

/-- Whether every proof that shows the hypotheses can be continued to have a property. -/
def Attainable (hypotheses : List Proposition) (wanted : Lookup → Prop) : Prop :=
  ∀ before : Proof, before.WellFormed →
    (∀ hypothesis ∈ hypotheses, before.lookup.Shows hypothesis) →
      ∃ after, before.Deduces after ∧ wanted after.lookup

/-- Whether every proof that shows the hypotheses can be continued to show the goal. -/
def Deducible (hypotheses : List Proposition) (goal : Proposition) : Prop :=
  Attainable hypotheses fun lookup => lookup.Shows goal

variable {hypotheses more : List Proposition} {goal φ ψ : Proposition}
  {wanted other : Lookup → Prop}

namespace Attainable

/-- Two properties are attained one after the other when the first one lasts. -/
theorem and (h : Attainable hypotheses wanted) (hl : Lookup.Lasting wanted)
    (h' : Attainable hypotheses other) :
    Attainable hypotheses fun lookup => wanted lookup ∧ other lookup := by
  intro before hw hs
  obtain ⟨middle, hm, hmw⟩ := h before hw hs
  have hwm := hm.1.wellFormed
  have hsm : ∀ hypothesis ∈ hypotheses, middle.lookup.Shows hypothesis := by
    intro hypothesis hh
    exact Lookup.lasting_shows hypothesis _ _ (hm.1.includes hw) (hs hypothesis hh)
  obtain ⟨after, ha, hao⟩ := h' middle hwm hsm
  exact ⟨after, hm.trans ha, hl _ _ (ha.1.includes hwm) hmw, hao⟩

/-- What a rule derives from what is attained is deducible. -/
theorem infer (h : Attainable hypotheses wanted)
    (hr : ∀ lookup, wanted lookup → ∃ rule : Rule, rule.Derives lookup goal) :
    Deducible hypotheses goal := by
  intro before hw hs
  obtain ⟨after, ha, haw⟩ := h before hw hs
  obtain ⟨rule, hd⟩ := hr after.lookup haw
  have hwa := ha.1.wellFormed
  exact ⟨_, ha.trans (.infer hwa hd), after.nextIndex, hwa.lookup_extend⟩

end Attainable

namespace Deducible

/-- A hypothesis is deducible. -/
theorem of_mem (h : goal ∈ hypotheses) : Deducible hypotheses goal := by
  intro before hw hs
  exact ⟨before, .refl hw, hs goal h⟩

/-- More hypotheses do not make less deducible. -/
theorem weaken (h : Deducible hypotheses goal) (hm : ∀ prop ∈ hypotheses, prop ∈ more) :
    Deducible more goal := by
  intro before hw hs
  exact h before hw fun hypothesis hh => hs hypothesis (hm hypothesis hh)

/-- One more hypothesis does not make less deducible. -/
theorem cons (h : Deducible hypotheses goal) : Deducible (φ :: hypotheses) goal :=
  h.weaken fun _ hp => List.mem_cons_of_mem φ hp

/-- The first hypothesis is deducible. -/
theorem head : Deducible (φ :: hypotheses) φ := of_mem List.mem_cons_self

/-- A deduction from an assumption makes a box. -/
theorem box (hφ : φ.isBox = false) (h : Deducible (φ :: hypotheses) ψ) :
    Attainable hypotheses fun lookup => lookup.ShowsBox φ ψ := by
  intro before hw hs
  have hso : ∀ hypothesis ∈ φ :: hypotheses,
      (before.openBox φ).lookup.Shows hypothesis := by
    intro hypothesis hh
    rcases List.mem_cons.mp hh with rfl | hh
    · exact before.shows_openBox hypothesis
    · exact Lookup.lasting_shows hypothesis _ _ hw.includes_openBox (hs hypothesis hh)
  obtain ⟨inner, hi, hg⟩ := h (before.openBox φ) (hw.openBox hφ) hso
  exact hi.box hg

/-! ## The rules without boxes -/

/-- Both sides give a conjunction. -/
theorem andI (h : Deducible hypotheses φ) (h' : Deducible hypotheses ψ) :
    Deducible hypotheses (.and φ ψ) := by
  refine (Attainable.and h (Lookup.lasting_shows φ) h').infer ?_
  rintro lookup ⟨⟨i, hi⟩, j, hj⟩
  exact ⟨_, .andI hi hj⟩

/-- A conjunction gives its left side. -/
theorem andELhs (h : Deducible hypotheses (.and φ ψ)) : Deducible hypotheses φ := by
  refine Attainable.infer h ?_
  rintro lookup ⟨i, hi⟩
  exact ⟨_, .andELhs hi⟩

/-- A conjunction gives its right side. -/
theorem andERhs (h : Deducible hypotheses (.and φ ψ)) : Deducible hypotheses ψ := by
  refine Attainable.infer h ?_
  rintro lookup ⟨i, hi⟩
  exact ⟨_, .andERhs hi⟩

/-- The left side gives a disjunction. -/
theorem orILhs (h : Deducible hypotheses φ) : Deducible hypotheses (.or φ ψ) := by
  refine Attainable.infer h ?_
  rintro lookup ⟨i, hi⟩
  exact ⟨_, .orILhs hi⟩

/-- The right side gives a disjunction. -/
theorem orIRhs (h : Deducible hypotheses ψ) : Deducible hypotheses (.or φ ψ) := by
  refine Attainable.infer h ?_
  rintro lookup ⟨i, hi⟩
  exact ⟨_, .orIRhs hi⟩

/-- An implication and its left side give its right side. -/
theorem implyE (h : Deducible hypotheses (.imply φ ψ)) (h' : Deducible hypotheses φ) :
    Deducible hypotheses ψ := by
  refine (Attainable.and h (Lookup.lasting_shows _) h').infer ?_
  rintro lookup ⟨⟨i, hi⟩, j, hj⟩
  exact ⟨_, .implyE hi hj⟩

/-- A proposition and its negation give falsity. -/
theorem negE (h : Deducible hypotheses φ) (h' : Deducible hypotheses φ.negated) :
    Deducible hypotheses .bottom := by
  refine (Attainable.and h (Lookup.lasting_shows φ) h').infer ?_
  rintro lookup ⟨⟨i, hi⟩, j, hj⟩
  exact ⟨_, .negE hi hj⟩

/-- Falsity gives everything. -/
theorem bottomE (h : Deducible hypotheses .bottom) : Deducible hypotheses goal := by
  refine Attainable.infer h ?_
  rintro lookup ⟨i, hi⟩
  exact ⟨_, .bottomE hi⟩

/-- A proposition or its negation is always deducible. -/
theorem excludedMiddle : Deducible hypotheses (.or φ φ.negated) := by
  intro before hw _
  exact ⟨_, .infer hw .excludedMiddle, before.nextIndex, hw.lookup_extend⟩

/-! ## The rules with boxes -/

/-- A deduction from an assumption gives an implication. -/
theorem implyI (hφ : φ.isBox = false) (h : Deducible (φ :: hypotheses) ψ) :
    Deducible hypotheses (.imply φ ψ) := by
  refine (h.box hφ).infer ?_
  rintro lookup ⟨i, steps, hi, rfl, rfl⟩
  exact ⟨_, .implyI hi⟩

/-- A deduction of falsity from an assumption refutes it. -/
theorem negI (hφ : φ.isBox = false) (h : Deducible (φ :: hypotheses) .bottom) :
    Deducible hypotheses φ.negated := by
  refine (h.box hφ).infer ?_
  rintro lookup ⟨i, steps, hi, rfl, hd⟩
  exact ⟨_, .negI hi hd⟩

/-- What both sides of a disjunction lead to is deducible. -/
theorem orE (hφ : φ.isBox = false) (hψ : ψ.isBox = false)
    (h : Deducible hypotheses (.or φ ψ)) (hl : Deducible (φ :: hypotheses) goal)
    (hr : Deducible (ψ :: hypotheses) goal) : Deducible hypotheses goal := by
  have hb := Attainable.and (hl.box hφ) (Lookup.lasting_showsBox φ goal) (hr.box hψ)
  refine (Attainable.and h (Lookup.lasting_shows _) hb).infer ?_
  rintro lookup ⟨⟨i, hi⟩, ⟨j, left, hj, rfl, rfl⟩, k, right, hk, rfl, hd⟩
  exact ⟨_, .orE hi hj hk hd.symm⟩

/-- What a proposition and its negation both lead to is deducible. -/
theorem cases (hφ : φ.isBox = false) (h : Deducible (φ :: hypotheses) goal)
    (h' : Deducible (φ.negated :: hypotheses) goal) : Deducible hypotheses goal :=
  orE hφ rfl excludedMiddle h h'

/-- A proposition and its negation lead to everything. -/
theorem absurd (h : Deducible hypotheses φ) (h' : Deducible hypotheses φ.negated) :
    Deducible hypotheses goal := bottomE (h.negE h')

end Deducible

end BoxedDeduction
