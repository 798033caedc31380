import BoxedDeduction.Proofs.Proof.Placement
import BoxedDeduction.Proofs.Proof.Rebuilding
import BoxedDeduction.Proofs.Proposition.Truth
import BoxedDeduction.Proofs.Rendering.Letters

/-!
# Names in proofs

Rules make no names: every symbol in what a rule derives stands in a line that it cites or in a
proposition that it is given. So what holds of the names in the operations that lead to a proof
holds of all names in its lines.
-/

namespace BoxedDeduction

/-- The names of all symbols in what an operation states. -/
def Operation.allNames : Operation → List String
  | .premise prop | .assume prop => prop.allNames
  | .infer rule => rule.allNames
  | .copy _ | .close | .undo => []

/-- Whether all names in a proposition have a property. -/
def Proposition.AllNamed (property : String → Prop) (prop : Proposition) : Prop :=
  ∀ name ∈ prop.allNames, property name

/-- Whether all names in a line have a property. -/
def Line.AllNamed (property : String → Prop) (line : Line) : Prop :=
  ∀ name ∈ line.allNames, property name

variable {property : String → Prop}

/-! ## Parts of propositions -/

namespace Proposition

variable {lhs rhs : Proposition} {steps : SubProof}

/-- The names in a conjunction are those in its sides. -/
theorem allNamed_and :
    (and lhs rhs).AllNamed property ↔ lhs.AllNamed property ∧ rhs.AllNamed property := by
  rw [AllNamed,allNames,List.forall_mem_append]
  rfl

/-- The names in a disjunction are those in its sides. -/
theorem allNamed_or :
    (or lhs rhs).AllNamed property ↔ lhs.AllNamed property ∧ rhs.AllNamed property := by
  rw [AllNamed,allNames,List.forall_mem_append]
  rfl

/-- The names in an implication are those in its sides. -/
theorem allNamed_imply :
    (imply lhs rhs).AllNamed property ↔ lhs.AllNamed property ∧ rhs.AllNamed property := by
  rw [AllNamed,allNames,List.forall_mem_append]
  rfl

/-- There are no names in falsity. -/
theorem allNamed_bottom : bottom.AllNamed property := by
  rw [AllNamed,allNames]
  exact nofun

/-- The names in a negation are those in what it negates. -/
theorem allNamed_negated : lhs.negated.AllNamed property ↔ lhs.AllNamed property :=
  allNamed_imply.trans (and_iff_left allNamed_bottom)

/-- A formula has names of symbols only. -/
theorem allNames_of_isFormula : ∀ {prop : Proposition}, prop.isFormula = true →
    prop.allNames = prop.names
  | .bottom, _ => by rw [allNames,names]
  | .symbol _, _ => by rw [allNames,names]
  | .and lhs rhs, h | .or lhs rhs, h | .imply lhs rhs, h => by
    rw [isFormula,Bool.and_eq_true] at h
    rw [allNames,names,allNames_of_isFormula h.1,allNames_of_isFormula h.2]
  | .box steps, h => by
    rw [isFormula] at h
    cases h

end Proposition

/-- The names in a sub-proof are those in its lines. -/
theorem SubProof.allNames_eq (steps : SubProof) :
    steps.allNames = steps.toList.flatMap Line.allNames := by
  induction steps using chainInduction with
  | last index prop reason =>
    simp only [allNames, toList, firstLine, laterLines, List.flatMap_cons, List.flatMap_nil,
      List.append_nil, Line.allNames]
  | more index prop reason rest ih =>
    rw [allNames,ih]
    simp only [toList, firstLine, laterLines, List.flatMap_cons, Line.allNames]

/-- The names in a box are those in its lines. -/
theorem Proposition.allNamed_box {steps : SubProof} :
    (box steps).AllNamed property ↔ ∀ line ∈ steps.toList, line.AllNamed property := by
  rw [AllNamed,allNames,steps.allNames_eq]
  exact List.forall_mem_flatMap

/-- The assumption of a box and what it reaches have names of the box only. -/
theorem Proposition.AllNamed.ends {steps : SubProof} (h : (box steps).AllNamed property) :
    steps.assumption.AllNamed property ∧ steps.derived.AllNamed property := by
  have hall := Proposition.allNamed_box.mp h
  have hlast : steps.lastLine ∈ steps.toList := List.mem_of_getLast? steps.getLast?_toList
  exact ⟨fun name hn => hall _ List.mem_cons_self name (List.mem_append_left _ hn),
    fun name hn => hall _ hlast name (List.mem_append_left _ hn)⟩

/-! ## Rules -/

/-- What a rule derives has names of the lines that the rule cites and of what it is given. -/
theorem Rule.Derives.allNamed {lookup : Lookup} {rule : Rule} {prop : Proposition}
    (h : rule.Derives lookup prop)
    (hl : ∀ index cited, lookup index = some cited → cited.AllNamed property)
    (hr : ∀ name ∈ rule.allNames, property name) : prop.AllNamed property := by
  cases h with
  | andI hφ hψ => exact Proposition.allNamed_and.mpr ⟨hl _ _ hφ, hl _ _ hψ⟩
  | andELhs h => exact (Proposition.allNamed_and.mp (hl _ _ h)).1
  | andERhs h => exact (Proposition.allNamed_and.mp (hl _ _ h)).2
  | orILhs h =>
    rw [allNames] at hr
    exact Proposition.allNamed_or.mpr ⟨hl _ _ h, hr⟩
  | orIRhs h =>
    rw [allNames] at hr
    exact Proposition.allNamed_or.mpr ⟨hr, hl _ _ h⟩
  | orE h hleft hright hd => exact (hl _ _ hleft).ends.2
  | negI h hd => exact Proposition.allNamed_negated.mpr (hl _ _ h).ends.1
  | negE hφ hn => exact Proposition.allNamed_bottom
  | implyI h => exact Proposition.allNamed_imply.mpr (hl _ _ h).ends
  | implyE h hφ => exact (Proposition.allNamed_imply.mp (hl _ _ h)).2
  | bottomE h =>
    rw [allNames] at hr
    exact hr
  | negNegE h => exact Proposition.allNamed_negated.mp (Proposition.allNamed_negated.mp (hl _ _ h))
  | modusTollens h hn =>
    exact Proposition.allNamed_negated.mpr (Proposition.allNamed_imply.mp (hl _ _ h)).1
  | negNegI h =>
    exact Proposition.allNamed_negated.mpr (Proposition.allNamed_negated.mpr (hl _ _ h))
  | contradiction h ha hd =>
    have hs := (hl _ _ h).ends.1
    rw [ha] at hs
    exact Proposition.allNamed_negated.mp hs
  | excludedMiddle =>
    rw [allNames] at hr
    exact Proposition.allNamed_or.mpr ⟨hr, Proposition.allNamed_negated.mpr hr⟩

/-! ## Proofs that grew -/

/-- A line has the names in what becomes of it when its boxes are expanded. -/
theorem Line.flatMap_allNames_expanded (lines : List Line) :
    (lines.flatMap expanded).flatMap allNames = lines.flatMap allNames := by
  induction lines using listInduction with
  | nil => rfl
  | plain line later hp ih =>
    rw [List.flatMap_cons,expanded_of_plain hp,List.flatMap_append,ih,List.flatMap_singleton,
      List.flatMap_cons]
  | box line steps later hb hs ih =>
    obtain ⟨index, prop, reason⟩ := line
    obtain ⟨rfl, rfl⟩ := closedBox?_eq_some.mp hb
    have hn : allNames ⟨index, .box steps, .assumption⟩ = steps.toList.flatMap allNames := by
      rw [allNames,Proposition.allNames,Justification.allNames,List.append_nil,steps.allNames_eq]
    rw [List.flatMap_cons,expanded_of_closedBox hb,List.flatMap_append,hs,ih,List.flatMap_cons,hn]

namespace Proof

variable {history : List Proof} {proof : Proof} {prop : Proposition} {reason : Justification}

/-- What is visible has names of the expanded lines only. -/
theorem allNamed_of_lookup (hl : ∀ line ∈ proof.expanded, line.AllNamed property) {index : Int}
    (h : proof.lookup index = some prop) : prop.AllNamed property := by
  obtain ⟨scope, hs, line, hm, -, rfl⟩ := exists_of_lookup h
  intro name hn
  have hname : name ∈ scope.lines.flatMap Line.allNames :=
    List.mem_flatMap.mpr ⟨line, hm, List.mem_append_left _ hn⟩
  rw [← Line.flatMap_allNames_expanded] at hname
  obtain ⟨inner, hi, hin⟩ := List.mem_flatMap.mp hname
  refine hl inner ?_ name hin
  exact List.mem_flatMap.mpr ⟨scope, List.mem_reverse.mpr hs, hi⟩

/-- What may be stated under a justification has names of the expanded lines and of the operation
that the justification names. -/
theorem Justifies.allNamed (h : proof.Justifies reason prop)
    (hl : ∀ line ∈ proof.expanded, line.AllNamed property)
    (ho : ∀ name ∈ (reason.operation prop).allNames, property name) :
    Line.AllNamed property ⟨proof.nextIndex, prop, reason⟩ := by
  cases h with
  | premise =>
    rw [Line.AllNamed,Line.allNames,Justification.allNames,List.append_nil]
    exact ho
  | copy hc =>
    rw [Line.AllNamed,Line.allNames,Justification.allNames,List.append_nil]
    exact allNamed_of_lookup hl hc
  | @inference rule _ hc =>
    rw [Line.AllNamed,Line.allNames,Justification.allNames]
    have hr : ∀ name ∈ rule.allNames, property name := ho
    refine List.forall_mem_append.mpr ⟨?_, hr⟩
    exact (Rule.Derives.of_conclusion hc).allNamed (fun _ _ => allNamed_of_lookup hl) hr

/-- What holds of the names in the operations that lead to a proof that grew holds of the names in
its lines. -/
theorem Grown.allNamed (h : Grown history proof)
    (ho : ∀ operation ∈ proof.operations, ∀ name ∈ operation.allNames, property name) :
    ∀ line ∈ proof.expanded, line.AllNamed property := by
  induction h with
  | fresh => exact nofun
  | extend h hj ih =>
    rw [operations_extend hj.reason_ne] at ho
    rw [expanded_extend hj.reason_ne]
    obtain ⟨hbefore, hlast⟩ := List.forall_mem_append.mp ho
    have hl := ih hbefore
    refine List.forall_mem_append.mpr ⟨hl, List.forall_mem_singleton.mpr ?_⟩
    exact hj.allNamed hl (hlast _ (List.mem_singleton.mpr rfl))
  | openBox h hp ih =>
    rw [operations_openBox hp] at ho
    rw [expanded_openBox hp]
    obtain ⟨hbefore, hlast⟩ := List.forall_mem_append.mp ho
    refine List.forall_mem_append.mpr ⟨ih hbefore, List.forall_mem_singleton.mpr ?_⟩
    rw [Line.AllNamed,Line.allNames,Justification.allNames,List.append_nil]
    exact hlast _ (List.mem_singleton.mpr rfl)
  | close h hs ih =>
    rw [operations_close hs] at ho
    rw [expanded_close hs]
    exact ih (List.forall_mem_append.mp ho).1

end Proof

end BoxedDeduction
