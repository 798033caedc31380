import BoxedDeduction.Proofs.Proof.Recording
import BoxedDeduction.Proofs.Proof.Soundness

/-!
# What the last line depends on

A rule reads only the lines that it cites, and the graph has an edge from each of them. So among
nodes that hold what they cite, every line is true as far as the premises among them and the
assumptions around it are. The nodes from which a path leads to the last line of the global scope
are such nodes, and the premises that are reported as unused are not among them: the last line
follows from the other premises.
-/

namespace BoxedDeduction

/-! ## What a line depends on -/

namespace Proof

variable {proof : Proof} {prop : Proposition} {reason : Justification} {valuation : Valuation}

/-- A justified line is true when what it cites is, unless it is a premise that is not true. -/
theorem Justifies.holds_of_cited (h : proof.Justifies reason prop)
    (hp : reason = .premise → prop.holds valuation = true)
    (hl : ∀ index ∈ reason.cited, ∀ line, proof.find? index = some line →
      line.prop.holds valuation = true) : prop.holds valuation = true := by
  cases h with
  | premise => exact hp rfl
  | @copy source _ h =>
    obtain ⟨line, hf, rfl⟩ := Option.map_eq_some_iff.mp h
    exact hl source (List.mem_singleton.mpr rfl) line hf
  | @inference rule _ h =>
    refine (Rule.Derives.of_conclusion_within h).holds ?_
    intro index cited hc
    obtain ⟨hi, hc⟩ := Option.ite_none_right_eq_some.mp hc
    obtain ⟨line, hf, rfl⟩ := Option.map_eq_some_iff.mp hc
    exact hl index hi line hf

end Proof

/-! ## What holds among chosen nodes -/

/-- Whether the assumptions of given scopes are true, and the premises in them that are chosen. -/
structure Granted (valuation : Valuation) (chosen : List CitedNode) (scopes : List Scope) :
    Prop where
  /-- The assumptions that opened the scopes are true. -/
  assumed : ∀ assumption ∈ openingAssumptions scopes, assumption.holds valuation = true
  /-- The chosen premises are true, those inside closed boxes included. -/
  given : ∀ line ∈ scopes.flatMap Scope.expanded, line.reason = .premise → line.node ∈ chosen →
    line.prop.holds valuation = true

/-- Whether the chosen lines of each scope are true as far as the assumptions and the chosen
premises of this scope and those around it are. -/
def HoldWhereChosen (valuation : Valuation) (chosen : List CitedNode) : List Scope → Prop
  | [] => True
  | scope :: outer => HoldWhereChosen valuation chosen outer ∧
    (Granted valuation chosen (scope :: outer) →
      ∀ line ∈ scope.lines, line.node ∈ chosen → line.prop.holds valuation = true)

section Chosen

variable {valuation : Valuation} {chosen : List CitedNode} {scope : Scope} {outer : List Scope}
  {line : Line}

/-- What is granted up to a scope is granted around it. -/
theorem Granted.of_cons (h : Granted valuation chosen (scope :: outer)) :
    Granted valuation chosen outer where
  assumed := fun assumption hm => h.assumed assumption (openingAssumptions_subset hm)
  given := by
    intro line hl
    refine h.given line ?_
    rw [List.flatMap_cons]
    exact List.mem_append_right _ hl

/-- What is granted after a line was added was granted before. -/
theorem Granted.of_append (h : Granted valuation chosen (scope.append line :: outer)) :
    Granted valuation chosen (scope :: outer) where
  assumed := fun assumption hm => h.assumed assumption (openingAssumptions_append hm)
  given := by
    intro other ho
    refine h.given other ?_
    rw [List.flatMap_cons,List.mem_append] at ho
    rw [List.flatMap_cons,Scope.expanded_append,List.mem_append,List.mem_append]
    exact ho.imp_left Or.inl

/-- The chosen lines of all scopes are true when all assumptions and chosen premises are. -/
theorem HoldWhereChosen.all (h : HoldWhereChosen valuation chosen outer)
    (hg : Granted valuation chosen outer) (hs : scope ∈ outer) (hl : line ∈ scope.lines)
    (hn : line.node ∈ chosen) : line.prop.holds valuation = true := by
  induction outer with
  | nil => cases hs
  | cons inner rest ih =>
    rcases List.mem_cons.mp hs with rfl | hs
    · exact h.2 hg line hl hn
    · exact ih h.1 hg.of_cons hs

/-- What holds in all scopes holds in the outer ones. -/
theorem HoldWhereChosen.of_append {inner : List Scope}
    (h : HoldWhereChosen valuation chosen (inner ++ outer)) :
    HoldWhereChosen valuation chosen outer := by
  induction inner with
  | nil => exact h
  | cons first rest ih => exact ih h.1

/-- What is granted around a box and its assumption are granted inside it. -/
theorem Granted.inside {inner parent : Scope} {steps : SubProof}
    (h : Granted valuation chosen (parent.append steps.boxLine :: outer))
    (hs : inner.toSubProof? = some steps) (ha : steps.assumption.holds valuation = true) :
    Granted valuation chosen (inner :: parent :: outer) where
  assumed := by
    intro assumption hm
    rcases mem_openingAssumptions_cons.mp hm with hm | hm
    · rw [Scope.first?,← Scope.toSubProof?_eq_some.mp hs] at hm
      cases hm
      exact ha
    · exact h.assumed assumption (openingAssumptions_append hm)
  given := by
    intro line hl
    refine h.given line ?_
    rw [List.flatMap_cons,List.flatMap_cons,List.mem_append,List.mem_append] at hl
    rw [List.flatMap_cons,Scope.expanded_append,steps.expanded_boxLine,
      Scope.toSubProof?_eq_some.mp hs,List.mem_append,List.mem_append,
      @or_comm (line ∈ parent.expanded),or_assoc]
    exact hl

end Chosen

/-! ## Growing proofs -/

namespace Proof

variable {history : List Proof} {proof : Proof} {chosen : List CitedNode}

/-- In a proof that grew the chosen lines hold as far as the chosen premises and the open assumptions
do, if what they cite is chosen too. -/
theorem Grown.holdWhereChosen (h : Grown history proof) (valuation : Valuation)
    (hc : proof.citations.IsClosed chosen) : HoldWhereChosen valuation chosen proof.openScopes := by
  induction h with
  | fresh => exact ⟨trivial, fun _ line hl => by cases hl⟩
  | @extend _ proof prop reason h hj ih =>
    have hi := ih fun source target he =>
      hc source target ((h.wellFormed.cites_extend hj.reason_ne).mpr (Or.inl he))
    refine ⟨hi.1, fun hg line hl hn => ?_⟩
    rcases List.mem_append.mp hl with hl | hl
    · exact hi.2 hg.of_append line hl hn
    · have hp : (Line.mk proof.nextIndex prop reason).closedBox? = none :=
        Line.closedBox?_eq_none.mpr (Or.inl hj.reason_ne)
      rw [List.mem_singleton.mp hl] at hn ⊢
      refine hj.holds_of_cited ?_ ?_
      · rintro rfl
        refine hg.given ⟨proof.nextIndex, prop, .premise⟩ ?_ rfl hn
        refine List.mem_flatMap.mpr ⟨_, List.mem_cons_self, ?_⟩
        rw [Proof.extend,Scope.expanded_append,Line.expanded_of_plain hp]
        exact List.mem_append_right _ (List.mem_singleton.mpr rfl)
      · intro index hr cited hf
        obtain ⟨scope, hs, hm⟩ := exists_of_find? hf
        -- The new line cites this one, so it is chosen too.
        have he : (proof.extend prop reason).citations.Cites cited.node (.line proof.nextIndex) :=
          (h.wellFormed.cites_extend hj.reason_ne).mpr
            (Or.inr ⟨⟨index, hr, congrArg (Option.map Line.node) hf⟩, rfl⟩)
        rw [Line.node_of_plain hp] at hn
        exact hi.all hg.of_append hs hm (hc _ _ he hn)
  | openBox h hp ih =>
    have hi := ih fun source target he =>
      hc source target ((h.wellFormed.cites_openBox hp).mpr he)
    refine ⟨hi, fun hg line hl _ => ?_⟩
    rw [List.mem_singleton.mp hl]
    exact hg.assumed _ List.mem_cons_self
  | @close _ inner parent outer next steps h hs ih =>
    have hi := ih fun source target he =>
      hc source target ((h.wellFormed.cites_close hs).mpr (Or.inl he))
    refine ⟨hi.1.1, fun hg line hl hn => ?_⟩
    rcases List.mem_append.mp hl with hl | hl
    · exact hi.1.2 hg.of_append line hl hn
    · rw [List.mem_singleton.mp hl] at hn ⊢
      refine Proposition.holds_box.mpr fun ha => ?_
      have he := (h.wellFormed.cites_close hs).mpr (Or.inr ⟨Or.inr rfl, rfl⟩)
      exact hi.2 (hg.inside hs ha) _ (Scope.lastLine_mem hs) (hc _ _ he hn)

/-! ## Unused premises -/

/-- The premises inside closed boxes. -/
def boxedPremises (proof : Proof) : List Proposition :=
  ((((proof.scopes.flatMap Scope.lines).filter Line.isClosedBox).flatMap Line.expanded).filter
    fun line => line.reason = .premise).map Line.prop

/-- The premises of the global scope that are not reported as unused. -/
def usedPremises (proof : Proof) : List Proposition :=
  (proof.globalScope.lines.filter fun line =>
    line.reason = .premise ∧ line.index ∉ proof.unusedPremises).map Line.prop

/-- The global scope is the outermost one. -/
theorem exists_openScopes_eq (proof : Proof) :
    ∃ inner, proof.openScopes = inner ++ [proof.globalScope] := by
  rw [openScopes,globalScope]
  rcases List.eq_nil_or_concat proof.enclosing with he | ⟨inner, outermost, he⟩
  · rw [he]
    exact ⟨[], rfl⟩
  · rw [he,List.concat_eq_append,List.getLast?_concat]
    exact ⟨proof.current :: inner, rfl⟩

/-- The global scope is open. -/
theorem globalScope_mem (proof : Proof) : proof.globalScope ∈ proof.openScopes := by
  obtain ⟨inner, he⟩ := proof.exists_openScopes_eq
  rw [he]
  exact List.mem_append_right _ (List.mem_singleton.mpr rfl)

/-- A premise of the global scope that the last line needs is not reported as unused. -/
theorem not_mem_unusedPremises {last : Line} (hl : proof.globalScope.last? = some last) {index : Int}
    (hn : .line index ∈ proof.citations.needed last.node) : index ∉ proof.unusedPremises := by
  intro hm
  rw [unusedPremises,hl] at hm
  obtain ⟨line, hf, rfl⟩ := List.mem_map.mp hm
  have hd := of_decide_eq_true (List.mem_filter.mp hf).2
  exact hd.2 hn

/-- A premise in the global scope that the last line needs is in a closed box or is not reported as
unused. -/
theorem mem_premises_of_needed {last line : Line} (hl : proof.globalScope.last? = some last)
    (hm : line ∈ proof.globalScope.expanded) (hr : line.reason = .premise)
    (hn : line.node ∈ proof.citations.needed last.node) :
    line.prop ∈ proof.boxedPremises ++ proof.usedPremises := by
  obtain ⟨outer, ho, he⟩ := List.mem_flatMap.mp hm
  cases hb : outer.isClosedBox with
  | true =>
    refine List.mem_append_left _ (List.mem_map_of_mem (List.mem_filter.mpr ⟨?_, decide_eq_true hr⟩))
    refine List.mem_flatMap.mpr ⟨outer, List.mem_filter.mpr ⟨?_, hb⟩, he⟩
    exact List.mem_flatMap.mpr ⟨_, List.mem_reverse.mpr proof.globalScope_mem, ho⟩
  | false =>
    have hp := Line.isClosedBox_eq_false.mp hb
    rw [Line.expanded_of_plain hp,List.mem_singleton] at he
    rw [he] at hr hn ⊢
    rw [Line.node_of_plain hp] at hn
    refine List.mem_append_right _ (List.mem_map_of_mem (List.mem_filter.mpr ⟨ho, ?_⟩))
    exact decide_eq_true ⟨hr, not_mem_unusedPremises hl hn⟩

/-- The last line of the global scope follows from the premises inside closed boxes and those
premises of the global scope that are not reported as unused. -/
theorem entails_last_of_usedPremises {operations : List Operation}
    (hb : ∀ operation ∈ operations, operation.assumesBox = false) {last : Line}
    (hl : (fresh.run operations).globalScope.last? = some last) :
    Entails ((fresh.run operations).boxedPremises ++ (fresh.run operations).usedPremises)
      last.prop := by
  obtain ⟨history, h⟩ := Grown.fresh.exists_run hb
  generalize fresh.run operations = proof at h hl ⊢
  intro valuation hv
  have hm : last ∈ proof.globalScope.lines := List.mem_of_getLast? hl
  have hn := h.node_mem proof.globalScope_mem hm
  have hh := h.holdWhereChosen valuation (CitationGraph.isClosed_needed h.sourcesRecorded hn)
  obtain ⟨inner, he⟩ := proof.exists_openScopes_eq
  rw [he] at hh
  refine hh.of_append.2 ⟨nofun, ?_⟩ last hm (CitationGraph.self_mem_needed _ _)
  intro line hg hr hc
  rw [List.flatMap_singleton] at hg
  exact hv _ (mem_premises_of_needed hl hg hr hc)

/-- The unused premises of a well-formed proof, line by line. -/
theorem WellFormed.unusedPremises_eq {proof : Proof} (h : proof.WellFormed) {last : Line}
    (hl : proof.globalScope.last? = some last) : proof.unusedPremises =
      (proof.globalScope.lines.filter fun line => line.reason = .premise ∧ CitedNode.line line.index ∉
        (CitationWalk.ofScopes proof.openScopes).graph.needed last.node).map Line.index := by
  rw [unusedPremises,hl]
  simp only [h.sorted_eq proof.globalScope_mem, h.citations_eq]

/-- A premise inside a box and one around it are used, and one that nothing cites is not. -/
theorem entails_last_of_usedPremises_of_uncited_premise :
    let p : Proposition := .symbol "p"
    let q : Proposition := .symbol "q"
    let s : Proposition := .symbol "s"
    let operations : List Operation := [.premise q, .premise (.symbol "r"), .assume p, .premise s,
      .infer (.andI 1 4), .close, .infer (.implyI 3)]
    let last : Line := ⟨6, .imply p (.and q s), .inference (.implyI 3)⟩
    (∀ operation ∈ operations, operation.assumesBox = false) ∧
      (fresh.run operations).globalScope.last? = some last ∧
      (fresh.run operations).unusedPremises = [2] ∧ Entails [s, q] last.prop := by
  intro p q s operations last
  have hb : ∀ operation ∈ operations, operation.assumesBox = false := by decide
  have hl : (fresh.run operations).globalScope.last? = some last := by decide +kernel
  obtain ⟨_, hg⟩ := Grown.fresh.exists_run hb
  have hu : (fresh.run operations).unusedPremises = [2] := by
    rw [hg.wellFormed.unusedPremises_eq hl]
    decide +kernel
  have hp : (fresh.run operations).boxedPremises ++ (fresh.run operations).usedPremises = [s, q] := by
    rw [usedPremises,hu]
    decide +kernel
  have he := entails_last_of_usedPremises hb hl
  rw [hp] at he
  exact ⟨hb, hl, hu, he⟩

end Proof

end BoxedDeduction
