import BoxedDeduction.Rendering.Typeset

/-!
# Environments one inside the other

Some lines of a typeset proof begin an inner environment and some end one. All others are rows, and
the environment around them numbers the rows in their order. Lines are properly nested when no
inner environment ends before it begins and each one ends. Their depth is the greatest number of
inner environments that are open at once.
-/

namespace BoxedDeduction

/-- The last line of a typeset proof. -/
def endProof : String := "\\end\x7blogicproof\x7d"

/-- Whether a line of a typeset proof is a row, which is numbered. -/
def isRow (text : String) : Bool := text != beginSubproof && text != endSubproof

/-- The rows among the lines of a typeset proof. -/
def rowsAmong (lines : List String) : List String := lines.filter isRow

/-- How many inner environments are open after given lines. -/
def openSubproofs (lines : List String) : Int :=
  (lines.count beginSubproof : Int) - lines.count endSubproof

/-- Whether each inner environment begins before it ends. -/
structure ProperlyNested (lines : List String) : Prop where
  /-- No environment is open after the last line. -/
  closed : openSubproofs lines = 0
  /-- No more environments end than have begun. -/
  begun : ∀ before, before <+: lines → 0 ≤ openSubproofs before

/-- Whether a number is the greatest number of inner environments that are open at once. -/
structure HasDepth (lines : List String) (depth : Nat) : Prop where
  /-- No more environments are open at once. -/
  bounded : ∀ before, before <+: lines → openSubproofs before ≤ depth
  /-- So many environments are open at once. -/
  reached : ∃ before, before <+: lines ∧ openSubproofs before = depth

/-! ## Counting lines -/

section Counting

variable {front back inside rest : List String} {text : String}

/-- A row is numbered before the later ones. -/
theorem rowsAmong_cons_row (h : isRow text = true) : rowsAmong (text :: rest) = text :: rowsAmong rest :=
  List.filter_cons_of_pos h

/-- The lines that begin and end an inner environment are not numbered. -/
theorem rowsAmong_subproof : rowsAmong (beginSubproof :: inside ++ endSubproof :: rest) =
    rowsAmong inside ++ rowsAmong rest := by
  rw [List.cons_append,rowsAmong,List.filter_cons_of_neg (by decide),List.filter_append,
    List.filter_cons_of_neg (by decide)]
  rfl

/-- No environment is open before the first line. -/
theorem openSubproofs_nil : openSubproofs [] = 0 := rfl

/-- Lines after others change the number of open environments by their own. -/
theorem openSubproofs_append :
    openSubproofs (front ++ back) = openSubproofs front + openSubproofs back := by
  rw [openSubproofs,openSubproofs,openSubproofs,List.count_append,List.count_append]
  omega

/-- A row opens and closes no environment. -/
theorem openSubproofs_cons_row (h : isRow text = true) :
    openSubproofs (text :: rest) = openSubproofs rest := by
  have hn : text ≠ beginSubproof ∧ text ≠ endSubproof := by simpa [isRow] using h
  rw [openSubproofs,openSubproofs,List.count_cons_of_ne hn.1,List.count_cons_of_ne hn.2]

/-- A begin line opens one environment. -/
theorem openSubproofs_cons_begin :
    openSubproofs (beginSubproof :: rest) = openSubproofs rest + 1 := by
  have hn : beginSubproof ≠ endSubproof := by decide
  rw [openSubproofs,openSubproofs,List.count_cons_self,List.count_cons_of_ne hn]
  omega

/-- An end line closes one environment. -/
theorem openSubproofs_cons_end : openSubproofs (endSubproof :: rest) = openSubproofs rest - 1 := by
  have hn : endSubproof ≠ beginSubproof := by decide
  rw [openSubproofs,openSubproofs,List.count_cons_self,List.count_cons_of_ne hn]
  omega

/-- An inner environment with nested lines leaves nothing open. -/
theorem ProperlyNested.openSubproofs_subproof (h : ProperlyNested inside) :
    openSubproofs (beginSubproof :: inside ++ endSubproof :: rest) = openSubproofs rest := by
  have hc := h.closed
  rw [List.cons_append,openSubproofs_cons_begin,openSubproofs_append,openSubproofs_cons_end]
  omega

end Counting

/-! ## Stopping early -/

section Stopping

variable {before inside rest : List String}

/-- The first of some lines end in the front part or go on after it. -/
theorem prefix_of_prefix_append {front back : List String} (h : before <+: front ++ back) :
    before <+: front ∨ ∃ later, later <+: back ∧ before = front ++ later := by
  obtain ⟨after, ha⟩ := h
  rcases List.append_eq_append_iff.mp ha with ⟨missing, hf, -⟩ | ⟨later, hb, hl⟩
  · exact Or.inl ⟨missing, hf.symm⟩
  · exact Or.inr ⟨later, ⟨after, hl.symm⟩, hb⟩

/-- The first of some lines that begin with an inner environment are none of them, they end inside
the environment, or they go on after it. -/
theorem prefix_of_prefix_subproof (h : before <+: beginSubproof :: inside ++ endSubproof :: rest) :
    before = [] ∨ (∃ early, early <+: inside ∧ before = beginSubproof :: early) ∨
      ∃ later, later <+: rest ∧ before = beginSubproof :: inside ++ endSubproof :: later := by
  rw [List.cons_append] at h
  rcases List.prefix_cons_iff.mp h with rfl | ⟨first, rfl, hf⟩
  · exact Or.inl rfl
  rcases prefix_of_prefix_append hf with he | ⟨second, hs, rfl⟩
  · exact Or.inr (Or.inl ⟨first, he, rfl⟩)
  rcases List.prefix_cons_iff.mp hs with rfl | ⟨later, rfl, hl⟩
  · exact Or.inr (Or.inl ⟨inside, List.prefix_rfl, by rw [List.append_nil]⟩)
  · exact Or.inr (Or.inr ⟨later, hl, rfl⟩)

end Stopping

/-! ## Nested lines -/

section Nesting

variable {inside rest : List String} {text : String} {depth inner outer : Nat}

/-- No lines are properly nested. -/
theorem ProperlyNested.nil : ProperlyNested [] where
  closed := rfl
  begun := by
    intro before hb
    rw [List.prefix_nil.mp hb]
    exact Int.le_refl 0

/-- A row in front keeps lines properly nested. -/
theorem ProperlyNested.row (h : ProperlyNested rest) (ht : isRow text = true) :
    ProperlyNested (text :: rest) where
  closed := by
    rw [openSubproofs_cons_row ht]
    exact h.closed
  begun := by
    intro before hb
    rcases List.prefix_cons_iff.mp hb with rfl | ⟨later, rfl, hl⟩
    · exact Int.le_refl 0
    · rw [openSubproofs_cons_row ht]
      exact h.begun later hl

/-- An inner environment in front keeps lines properly nested. -/
theorem ProperlyNested.subproof (hi : ProperlyNested inside) (hr : ProperlyNested rest) :
    ProperlyNested (beginSubproof :: inside ++ endSubproof :: rest) where
  closed := by
    rw [hi.openSubproofs_subproof]
    exact hr.closed
  begun := by
    intro before hb
    rcases prefix_of_prefix_subproof hb with rfl | ⟨early, he, rfl⟩ | ⟨later, hl, rfl⟩
    · exact Int.le_refl 0
    · have hn := hi.begun early he
      rw [openSubproofs_cons_begin]
      omega
    · rw [hi.openSubproofs_subproof]
      exact hr.begun later hl

/-- No lines have no depth. -/
theorem HasDepth.nil : HasDepth [] 0 where
  bounded := by
    intro before hb
    rw [List.prefix_nil.mp hb]
    exact Int.le_refl 0
  reached := ⟨[], List.prefix_rfl, rfl⟩

/-- A row in front does not change the depth. -/
theorem HasDepth.row (h : HasDepth rest depth) (ht : isRow text = true) :
    HasDepth (text :: rest) depth where
  bounded := by
    intro before hb
    rcases List.prefix_cons_iff.mp hb with rfl | ⟨later, rfl, hl⟩
    · rw [openSubproofs_nil]
      omega
    · rw [openSubproofs_cons_row ht]
      exact h.bounded later hl
  reached := by
    obtain ⟨before, hb, he⟩ := h.reached
    refine ⟨text :: before, List.cons_prefix_cons.mpr ⟨rfl, hb⟩, ?_⟩
    rw [openSubproofs_cons_row ht,he]

/-- An inner environment in front is one deeper than its lines. -/
theorem HasDepth.subproof (hn : ProperlyNested inside) (hi : HasDepth inside inner)
    (hr : HasDepth rest outer) :
    HasDepth (beginSubproof :: inside ++ endSubproof :: rest) (max (inner + 1) outer) where
  bounded := by
    intro before hb
    rcases prefix_of_prefix_subproof hb with rfl | ⟨early, he, rfl⟩ | ⟨later, hl, rfl⟩
    · rw [openSubproofs_nil]
      omega
    · have hd := hi.bounded early he
      rw [openSubproofs_cons_begin]
      omega
    · have hd := hr.bounded later hl
      rw [hn.openSubproofs_subproof]
      omega
  reached := by
    -- The greatest depth is reached inside the environment or behind it.
    by_cases hm : outer ≤ inner + 1
    · obtain ⟨early, he, hd⟩ := hi.reached
      have hp : early <+: inside ++ endSubproof :: rest := he.trans (List.prefix_append _ _)
      refine ⟨beginSubproof :: early, List.cons_prefix_cons.mpr ⟨rfl, hp⟩, ?_⟩
      rw [openSubproofs_cons_begin]
      omega
    · obtain ⟨later, hl, hd⟩ := hr.reached
      have hp : endSubproof :: later <+: endSubproof :: rest :=
        List.cons_prefix_cons.mpr ⟨rfl, hl⟩
      refine ⟨beginSubproof :: inside ++ endSubproof :: later,
        (List.prefix_append_right_inj _).mpr hp, ?_⟩
      rw [hn.openSubproofs_subproof]
      omega

end Nesting

end BoxedDeduction
