import BoxedDeduction.Proofs.Proof.Charting
import BoxedDeduction.Proofs.Rendering.Letters
import BoxedDeduction.Proofs.Rendering.Subproofs
import Mathlib.Data.List.Chain

/-!
# Rows of a typeset proof

A typeset proof numbers its rows by itself, while its annotations cite the indices of the proof.
The two agree: the rows are the plain lines in the order of their indices, and every closed box is
an inner environment around exactly the rows of its lines.
-/

namespace BoxedDeduction

section Rows

variable {prop : Proposition} {reason : Justification} {isLast : Bool}

/-- The sign between a proposition and its justification stands in every row. -/
theorem mem_typesetRow : '&' ∈ (typesetRow prop reason isLast).toList := by
  simp only [typesetRow, String.toList_append, List.mem_append]
  exact Or.inl (Or.inl (Or.inr (by decide)))

/-- A row is no line of an environment that holds no such sign. -/
theorem typesetRow_ne {text : String} (h : '&' ∉ text.toList) :
    typesetRow prop reason isLast ≠ text := by
  intro he
  exact h (he ▸ mem_typesetRow)

/-- A row neither begins nor ends an inner environment. -/
theorem isRow_typesetRow : isRow (typesetRow prop reason isLast) = true := by
  have hb : typesetRow prop reason isLast ≠ beginSubproof := typesetRow_ne (by decide)
  have he : typesetRow prop reason isLast ≠ endSubproof := typesetRow_ne (by decide)
  simp only [isRow, bne_iff_ne.mpr hb, bne_iff_ne.mpr he, Bool.and_self]

/-- A row whose names hold no line feed is one line. -/
theorem lineFeed_notMem_typesetRow {line : Line} (h : ∀ name ∈ line.allNames, '\n' ∉ name.toList) :
    '\n' ∉ (typesetRow line.prop line.reason isLast).toList := by
  have hp := Proposition.lineFeed_notMem_typeset fun name hn => h name (List.mem_append_left _ hn)
  have hr := Justification.lineFeed_notMem_typeset fun name hn => h name (List.mem_append_right _ hn)
  simp only [typesetRow, String.toList_append, List.mem_append, hp, hr, false_or, or_false]
  cases isLast <;> decide

end Rows

/-! ## The lines of one environment -/

section Environment

variable {line : Line} {steps : SubProof} {lines later : List Line}

/-- A sub-proof is typeset line by line. -/
theorem SubProof.typesetRows_eq (steps : SubProof) :
    steps.typesetRows = typesetLines steps.toList := by
  induction steps using chainInduction with
  | last index prop reason =>
    rw [typesetRows,toList,firstLine,laterLines,typesetLines,typesetLines,List.append_nil]
    rfl
  | more index prop reason rest ih =>
    rw [typesetRows,ih]
    rfl

/-- A plain line is one row, which ends with a separator when lines follow. -/
theorem typesetLines_plain (h : line.closedBox? = none) : typesetLines (line :: later) =
    typesetRow line.prop line.reason later.isEmpty :: typesetLines later := by
  obtain ⟨index, prop, reason⟩ := line
  have hp := Line.closedBox?_eq_none.mp h
  cases prop <;> simp_all [typesetLines, Proposition.typesetRows, Proposition.isBox]

/-- A closed box is an inner environment with its lines. -/
theorem typesetLines_box (h : line.closedBox? = some steps) : typesetLines (line :: later) =
    beginSubproof :: typesetLines steps.toList ++ endSubproof :: typesetLines later := by
  obtain ⟨index, prop, reason⟩ := line
  obtain ⟨rfl, rfl⟩ := Line.closedBox?_eq_some.mp h
  simp only [typesetLines, Proposition.typesetRows, if_true, steps.typesetRows_eq,
    List.cons_append, List.append_assoc, List.nil_append]

/-- The rows of an environment show the plain lines in their order. -/
theorem forall₂_rowsAmong (lines : List Line) :
    List.Forall₂ (fun line row => ∃ isLast, row = typesetRow line.prop line.reason isLast)
      (lines.flatMap Line.expanded) (rowsAmong (typesetLines lines)) := by
  induction lines using Line.listInduction with
  | nil => exact .nil
  | plain line later hp ih =>
    rw [typesetLines_plain hp,rowsAmong_cons_row isRow_typesetRow,List.flatMap_cons,
      Line.expanded_of_plain hp]
    exact .cons ⟨_, rfl⟩ ih
  | box line steps later hb hs ih =>
    rw [typesetLines_box hb,rowsAmong_subproof,List.flatMap_cons,Line.expanded_of_closedBox hb]
    exact List.rel_append hs ih

/-- An environment is typeset in one line for each row, begin line and end line when no name holds a
line feed. -/
theorem lineFeed_notMem_typesetLines (h : ∀ line ∈ lines.flatMap Line.expanded,
      ∀ name ∈ line.allNames, '\n' ∉ name.toList) :
    ∀ text ∈ typesetLines lines, '\n' ∉ text.toList := by
  induction lines using Line.listInduction with
  | nil => exact fun _ ht => absurd ht List.not_mem_nil
  | plain line later hp ih =>
    rw [List.flatMap_cons,Line.expanded_of_plain hp] at h
    have hl := h line List.mem_cons_self
    intro text ht
    rw [typesetLines_plain hp] at ht
    rcases List.mem_cons.mp ht with rfl | ht
    · exact lineFeed_notMem_typesetRow hl
    · exact ih (fun other ho => h other (List.mem_cons_of_mem _ ho)) text ht
  | box line steps later hb hs ih =>
    rw [List.flatMap_cons,Line.expanded_of_closedBox hb] at h
    intro text ht
    rw [typesetLines_box hb,List.mem_append,List.mem_cons,List.mem_cons] at ht
    rcases ht with (rfl | ht) | rfl | ht
    · decide
    · exact hs (fun other ho => h other (List.mem_append_left _ ho)) text ht
    · decide
    · exact ih (fun other ho => h other (List.mem_append_right _ ho)) text ht

end Environment

/-! ## The text -/

/-- The first line of a typeset proof. -/
def typesetHeader (depth : Nat) : String :=
  "\\begin\x7blogicproof\x7d\x7b" ++ toString depth ++ "\x7d"

/-- The first line of a typeset proof is one line. -/
theorem lineFeed_notMem_typesetHeader (depth : Nat) : '\n' ∉ (typesetHeader depth).toList := by
  have he : toString depth = toString (depth : Int) := rfl
  have hd := lineFeed_notMem_toString (depth : Int)
  delta typesetHeader
  rw [he]
  simp only [String.toList_append, List.mem_append, hd, or_false]
  decide

/-- The environment with its first and its last line is typeset line by line. -/
theorem lineFeed_notMem_environment {lines : List Line} {depth : Nat}
    (h : ∀ line ∈ lines.flatMap Line.expanded, ∀ name ∈ line.allNames, '\n' ∉ name.toList) :
    ∀ text ∈ typesetHeader depth :: typesetLines lines ++ [endProof], '\n' ∉ text.toList := by
  intro text ht
  rw [List.mem_append,List.mem_cons,List.mem_singleton] at ht
  rcases ht with (rfl | ht) | rfl
  · exact lineFeed_notMem_typesetHeader depth
  · exact lineFeed_notMem_typesetLines h text ht
  · decide

/-- Lines that hold no line feed are found again between the line feeds after them. -/
theorem splitOn_join {lines : List String} (h : ∀ line ∈ lines, '\n' ∉ line.toList) :
    (String.join (lines.map (· ++ "\n"))).toList.splitOn '\n' =
      (lines ++ [""]).map String.toList := by
  have hj : (String.join (lines.map (· ++ "\n"))).toList =
      ['\n'].intercalate ((lines ++ [""]).map String.toList) := by
    clear h
    induction lines with
    | nil => rfl
    | cons first later ih =>
      have hn : (later ++ [""]).map String.toList ≠ [] := by simp
      rw [List.map_cons,String.join_cons,String.toList_append,ih,List.cons_append,List.map_cons,
        List.intercalate_cons_of_ne_nil hn,String.toList_append]
      rfl
  rw [hj]
  refine List.splitOn_intercalate '\n' ?_ (by simp)
  intro letters hl
  obtain ⟨line, hm, rfl⟩ := List.mem_map.mp hl
  rcases List.mem_append.mp hm with hm | hm
  · exact h line hm
  · rw [List.mem_singleton.mp hm]
    exact List.not_mem_nil

/-! ## The whole proof -/

namespace Proof

variable {history : List Proof} {proof : Proof} {line : Line} {steps : SubProof}

/-- A proof without open boxes is typeset as one environment. -/
theorem WellFormed.typesetRows_eq {scope : Scope} {next : Int} (h : WellFormed ⟨scope, [], next⟩) :
    typesetRows ⟨scope, [], next⟩ =
      typesetHeader (linesBoxDepth scope.lines) :: typesetLines scope.lines ++ [endProof] := by
  delta typesetRows
  dsimp only [globalScope, List.getLast?_nil, Option.getD_none]
  rw [h.sorted_eq List.mem_cons_self]
  rfl

/-- The names of all symbols in a proof. -/
def allNames (proof : Proof) : List String := proof.expanded.flatMap Line.allNames

end Proof

end BoxedDeduction
