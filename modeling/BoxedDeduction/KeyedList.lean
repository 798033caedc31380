/-!
# Keyed lists

A keyed list holds values under keys in the order of first insertion. A new
value under a known key takes the place of the old one.
-/

namespace BoxedDeduction

/-- Pairs of keys and values in the order of first insertion. -/
abbrev KeyedList (κ α : Type) := List (κ × α)

namespace KeyedList

variable {κ α : Type} [DecidableEq κ]

/-- The value under a key. -/
def find? (key : κ) : KeyedList κ α → Option α
  | [] => none
  | (other, value) :: rest => if other = key then some value else find? key rest

/-- Put a value under a key. A known key keeps its place. -/
def insert (key : κ) (value : α) : KeyedList κ α → KeyedList κ α
  | [] => [(key, value)]
  | (other, old) :: rest =>
    if other = key then (key, value) :: rest else (other, old) :: insert key value rest

/-- The value that was put under a key is found there, and other keys are as before. -/
theorem find?_insert (key other : κ) (value : α) (list : KeyedList κ α) :
    find? other (insert key value list) = if key = other then some value else find? other list := by
  induction list with
  | nil => simp only [insert, find?]
  | cons entry rest ih =>
    obtain ⟨first, old⟩ := entry
    by_cases hf : first = key
    · subst hf
      simp only [insert, if_true, find?]
      split <;> rfl
    · simp only [insert, hf, if_false, find?, ih]
      by_cases ho : first = other
      · subst ho
        simp only [if_true, Ne.symm hf, if_false]
      · simp only [ho, if_false]

/-- Putting a value where it is already changes nothing. -/
theorem insert_of_find? {key : κ} {value : α} {list : KeyedList κ α}
    (h : find? key list = some value) : insert key value list = list := by
  induction list with
  | nil => cases h
  | cons entry rest ih =>
    obtain ⟨first, old⟩ := entry
    rw [find?] at h
    rw [insert]
    by_cases hf : first = key
    · subst hf
      rw [if_pos rfl] at h ⊢
      cases h
      rfl
    · rw [if_neg hf] at h ⊢
      rw [ih h]

/-- A new key is put behind the others, and a known one keeps all keys as they are. -/
theorem map_fst_insert (key : κ) (value : α) (list : KeyedList κ α) :
    (insert key value list).map Prod.fst =
      if key ∈ list.map Prod.fst then list.map Prod.fst else list.map Prod.fst ++ [key] := by
  induction list with
  | nil => rfl
  | cons entry rest ih =>
    obtain ⟨first, old⟩ := entry
    rw [insert]
    by_cases hf : first = key
    · subst hf
      rw [if_pos rfl,List.map_cons,List.map_cons,if_pos List.mem_cons_self]
    · have hk : key ∈ first :: rest.map Prod.fst ↔ key ∈ rest.map Prod.fst := by
        rw [List.mem_cons,or_iff_right (Ne.symm hf)]
      rw [if_neg hf,List.map_cons,ih,List.map_cons]
      simp only [hk]
      split <;> rfl

end KeyedList

end BoxedDeduction
