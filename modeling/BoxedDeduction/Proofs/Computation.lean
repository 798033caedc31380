/-!
# Computations that may fail

Two steps one behind the other succeed when both do, and fail with the error of the first that
does. So it is with the members of a list that is worked through.
-/

namespace BoxedDeduction

section Computation

variable {ε α β : Type} {first : Except ε α} {next : α → Except ε β} {cause : ε}

/-! ## One step behind the other -/

/-- Two steps succeed when the second does with the result of the first. -/
theorem bind_eq_ok_iff {result : β} :
    (first >>= next) = .ok result ↔ ∃ value, first = .ok value ∧ next value = .ok result := by
  cases first <;> simp [bind, Except.bind]

/-- Two steps fail when one of them does. -/
theorem bind_eq_error_iff : (first >>= next) = .error cause ↔
    first = .error cause ∨ ∃ value, first = .ok value ∧ next value = .error cause := by
  cases first <;> simp [bind, Except.bind]

/-- What follows a step that succeeds goes on with its result. -/
theorem bind_of_eq_ok {value : α} (h : first = .ok value) (next : α → Except ε β) :
    (first >>= next) = next value := by
  rw [h]
  rfl

/-- Two steps do not fail with what neither of them fails with. -/
theorem bind_ne_error (h : first ≠ .error cause) (hn : ∀ value, next value ≠ .error cause) :
    (first >>= next) ≠ .error cause := by
  intro he
  rcases bind_eq_error_iff.mp he with hf | ⟨value, -, hv⟩
  · exact h hf
  · exact hn value hv

/-! ## Lists that are worked through -/

variable {work : α → Except ε β} {items : List α}

/-- A list is worked through when each of its members is. -/
theorem exists_mapM_eq_ok (h : ∀ item ∈ items, ∃ result, work item = .ok result) :
    ∃ results, items.mapM work = .ok results := by
  induction items with
  | nil => exact ⟨[], rfl⟩
  | cons item rest ih =>
    obtain ⟨result, hi⟩ := h item List.mem_cons_self
    obtain ⟨results, hr⟩ := ih fun other hm => h other (List.mem_cons_of_mem _ hm)
    rw [List.mapM_cons,bind_of_eq_ok hi,bind_of_eq_ok hr]
    exact ⟨result :: results, rfl⟩

/-- A list is worked through with the results of its members, if each of them can be. -/
theorem mapM_eq_ok_iff {result : α → β} {can : α → Prop}
    (h : ∀ {item value}, work item = .ok value ↔ value = result item ∧ can item)
    {results : List β} :
    items.mapM work = .ok results ↔ results = items.map result ∧ ∀ item ∈ items, can item := by
  induction items generalizing results with
  | nil => exact ⟨fun hw => ⟨(Except.ok.inj hw).symm, nofun⟩, fun hw => by rw [hw.1]; rfl⟩
  | cons item rest ih =>
    rw [List.mapM_cons,List.forall_mem_cons]
    constructor
    · intro hw
      obtain ⟨value, hi, hw⟩ := bind_eq_ok_iff.mp hw
      obtain ⟨others, hr, hw⟩ := bind_eq_ok_iff.mp hw
      obtain ⟨rfl, hitem⟩ := h.mp hi
      obtain ⟨rfl, hrest⟩ := ih.mp hr
      exact ⟨(Except.ok.inj hw).symm, hitem, hrest⟩
    · rintro ⟨rfl, hitem, hrest⟩
      rw [bind_of_eq_ok (h.mpr ⟨rfl, hitem⟩),bind_of_eq_ok (ih.mpr ⟨rfl, hrest⟩)]
      rfl

/-- A list does not fail with what none of its members fails with. -/
theorem mapM_ne_error (h : ∀ item ∈ items, work item ≠ .error cause) :
    items.mapM work ≠ .error cause := by
  induction items with
  | nil => exact nofun
  | cons item rest ih =>
    obtain ⟨hi, hr⟩ := List.forall_mem_cons.mp h
    rw [List.mapM_cons]
    exact bind_ne_error hi fun _ => bind_ne_error (ih hr) fun _ => nofun

end Computation

end BoxedDeduction
