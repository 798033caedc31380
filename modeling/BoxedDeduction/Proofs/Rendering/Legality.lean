import BoxedDeduction.Proofs.Proof.Naming
import BoxedDeduction.Proofs.Rendering.Markup
import BoxedDeduction.Proofs.Rendering.Typesetting
import BoxedDeduction.Proofs.Session.Run

/-!
# Legal rows

Whatever lines a session is given, the rows of its typeset proof have one ampersand each, their
braces are closed, and dollar signs come in pairs. In text mode stand exactly the names that the row
shows. A name that was read holds none of the characters that are not allowed there, except for the
underscore, which is allowed in names and written without a backslash. So a row is legal throughout
exactly when none of its names holds an underscore.
-/

namespace BoxedDeduction

/-! ## Names that are shown -/

mutual

/-- The names in the text of a proposition from left to right. -/
def Proposition.shownNames : Proposition → List String
  | .bottom => []
  | .symbol name => [name]
  | .and lhs rhs | .or lhs rhs | .imply lhs rhs => lhs.shownNames ++ rhs.shownNames
  | .box steps => steps.assumptionNames ++ steps.derivedNames

/-- The names in the text of the assumption of a sub-proof. -/
def SubProof.assumptionNames : SubProof → List String
  | .last _ prop _ | .more _ prop _ _ => prop.shownNames

/-- The names in the text of what a sub-proof reaches. -/
def SubProof.derivedNames : SubProof → List String
  | .last _ prop _ => prop.shownNames
  | .more _ _ _ rest => rest.derivedNames

end

/-- The names in the text of an argument. -/
def Argument.shownNames : Argument → List String
  | .index _ => []
  | .prop p => p.shownNames

/-- The names in the text of a justification. -/
def Justification.shownNames : Justification → List String
  | .inference rule => rule.arguments.flatMap Argument.shownNames
  | .premise | .assumption | .copy _ => []

/-- The names in the row of a line. -/
def Line.shownNames (line : Line) : List String := line.prop.shownNames ++ line.reason.shownNames

mutual

/-- The names that are shown are names in the proposition. -/
theorem Proposition.shownNames_subset : ∀ prop : Proposition, prop.shownNames ⊆ prop.allNames
  | .bottom | .symbol _ => by
    rw [Proposition.shownNames,Proposition.allNames]
    exact List.Subset.refl _
  | .and lhs rhs | .or lhs rhs | .imply lhs rhs => by
    rw [Proposition.shownNames,Proposition.allNames]
    exact List.append_subset.mpr
      ⟨List.Subset.trans lhs.shownNames_subset (List.subset_append_left _ _),
        List.Subset.trans rhs.shownNames_subset (List.subset_append_right _ _)⟩
  | .box steps => by
    rw [Proposition.shownNames,Proposition.allNames]
    exact List.append_subset.mpr ⟨steps.assumptionNames_subset, steps.derivedNames_subset⟩

/-- The names in the assumption are names in the sub-proof. -/
theorem SubProof.assumptionNames_subset : ∀ steps : SubProof,
    steps.assumptionNames ⊆ steps.allNames
  | .last _ prop _ => by
    rw [SubProof.assumptionNames,SubProof.allNames]
    exact List.Subset.trans prop.shownNames_subset (List.subset_append_left _ _)
  | .more _ prop _ _ => by
    rw [SubProof.assumptionNames,SubProof.allNames,List.append_assoc]
    exact List.Subset.trans prop.shownNames_subset (List.subset_append_left _ _)

/-- The names in what a sub-proof reaches are names in the sub-proof. -/
theorem SubProof.derivedNames_subset : ∀ steps : SubProof, steps.derivedNames ⊆ steps.allNames
  | .last _ prop _ => by
    rw [SubProof.derivedNames,SubProof.allNames]
    exact List.Subset.trans prop.shownNames_subset (List.subset_append_left _ _)
  | .more _ _ _ rest => by
    rw [SubProof.derivedNames,SubProof.allNames]
    exact List.Subset.trans rest.derivedNames_subset (List.subset_append_right _ _)

end

/-- The names in the row of a line are names in the line. -/
theorem Line.shownNames_subset (line : Line) : line.shownNames ⊆ line.allNames := by
  refine List.append_subset.mpr ⟨?_, ?_⟩
  · exact List.Subset.trans line.prop.shownNames_subset (List.subset_append_left _ _)
  · refine List.Subset.trans ?_ (List.subset_append_right _ _)
    cases line.reason with
    | premise | assumption | copy => exact List.nil_subset _
    | inference rule =>
      rw [Justification.shownNames,Justification.allNames,rule.allNames_eq]
      intro name hn
      obtain ⟨argument, ha, hm⟩ := List.mem_flatMap.mp hn
      refine List.mem_flatMap.mpr ⟨argument, ha, ?_⟩
      cases argument with
      | index i => exact hm
      | prop p => exact p.shownNames_subset hm

/-! ## What the parts of a row add -/

/-- The letters of names have no meaning of their own. -/
theorem isUnmarked_of_isNameLetter {c : Char} (h : isNameLetter c = true) :
    isUnmarked c = true := by
  have hb : c ≠ '\\' := ne_of_isNameLetter h (by decide)
  have hs : c ∉ rowSigns := by
    intro hm
    have hall : (rowSigns.all fun sign => !isNameLetter sign) = true := by decide
    have hc := List.all_eq_true.mp hall c hm
    rw [h] at hc
    cases hc
  rw [isUnmarked,Bool.and_eq_true,bne_iff_ne,Bool.not_eq_true',List.contains_eq_mem,
    decide_eq_false_iff_not]
  exact ⟨hb, hs⟩

/-- The letters of a name that was read have no meaning of their own. -/
theorem isUnmarked_of_isName {name : String} (h : isName name = true) :
    ∀ c ∈ name.toList, isUnmarked c = true :=
  fun c hc => isUnmarked_of_isNameLetter (isNameLetter_of_isName h c hc)

namespace Adds

variable {text lhs rhs sign : String} {m n : Nat} {groups left right : List String}

/-- A number adds nothing. -/
theorem number (index : Int) : Adds (toString index) 0 0 [] := by
  refine of_unmarked (List.all_eq_true.mpr fun c hc => ?_)
  rcases mem_toList_toString hc with rfl | hd
  · decide
  · exact isUnmarked_of_isNameLetter (isNameLetter_of_isDigit hd)

/-- A text in parentheses adds what it adds without them. -/
theorem parenthesized (h : Adds text m n groups) (needed : Bool) :
    Adds (parenthesized needed text) m n groups := by
  cases needed with
  | false => exact h
  | true =>
    have ho : Adds "(" 0 0 [] := of_unmarked (by decide)
    have hc : Adds ")" 0 0 [] := of_unmarked (by decide)
    have hp := (ho.append h).append hc
    rwa [Nat.zero_add,Nat.zero_add,Nat.add_zero,Nat.add_zero,List.nil_append,
      List.append_nil] at hp

/-- Operands with a sign between them add their groups. -/
theorem operands (hl : Adds lhs 0 0 left) (hs : Adds sign 0 0 []) (hr : Adds rhs 0 0 right)
    (leftNeeded rightNeeded : Bool) :
    Adds (BoxedDeduction.parenthesized leftNeeded lhs ++ sign ++
      BoxedDeduction.parenthesized rightNeeded rhs) 0 0 (left ++ right) := by
  have h := ((hl.parenthesized leftNeeded).append hs).append (hr.parenthesized rightNeeded)
  rwa [List.append_nil] at h

/-- The commands for falsity and for the connectives add nothing. -/
theorem command (h : text ∈ ["\\bot", "\\lnot ", " \\land ", " \\lor ", " \\to "]) :
    Adds text 0 0 [] := by
  simp only [List.mem_cons, List.not_mem_nil, or_false] at h
  rcases h with rfl | rfl | rfl | rfl | rfl <;>
    exact of_counts (fun _ => rfl) (fun _ => rfl) (fun _ _ => rfl) rfl rfl rfl

/-- Parts with even numbers of dollar signs, written with commas between them, add their groups. -/
theorem intercalate {α : Type} {parts : List α} {write : α → String} {names : α → List String}
    (h : ∀ part ∈ parts, ∃ n, Adds (write part) 0 (2 * n) (names part)) :
    ∃ n, Adds (", ".intercalate (parts.map write)) 0 (2 * n) (parts.flatMap names) := by
  induction parts with
  | nil => exact ⟨0, empty⟩
  | cons first later ih =>
    obtain ⟨n, hf⟩ := h first List.mem_cons_self
    obtain ⟨k, hl⟩ := ih fun part hm => h part (List.mem_cons_of_mem _ hm)
    cases later with
    | nil =>
      rw [List.map_singleton,String.intercalate_singleton,List.flatMap_singleton]
      exact ⟨n, hf⟩
    | cons next rest =>
      have hc : Adds ", " 0 0 [] := of_unmarked (by decide)
      have hall := (hf.append hc).append hl
      have he : 2 * n + 0 + 2 * k = 2 * (n + k) := by omega
      rw [List.append_nil,he] at hall
      rw [List.map_cons,List.map_cons,String.intercalate_cons_cons,List.flatMap_cons]
      exact ⟨n + k, hall⟩

end Adds

mutual

/-- A typeset proposition adds the names that it shows, when they were read. -/
theorem Proposition.adds_print : ∀ prop : Proposition,
    (∀ name ∈ prop.shownNames, isName name = true) →
      Adds (prop.print .typeset) 0 0 prop.shownNames
  | .bottom, _ => by
    rw [Proposition.print,Proposition.shownNames]
    exact .command (by decide)
  | .symbol name, h => by
    rw [Proposition.shownNames] at h
    rw [Proposition.print,Proposition.shownNames]
    exact Adds.setName (isUnmarked_of_isName (h name (List.mem_singleton.mpr rfl)))
  | .and lhs rhs, h | .or lhs rhs, h => by
    rw [Proposition.shownNames] at h
    obtain ⟨hl, hr⟩ := List.forall_mem_append.mp h
    rw [Proposition.print,Proposition.shownNames]
    exact (lhs.adds_print hl).operands (.command (by decide)) (rhs.adds_print hr) _ _
  | .imply lhs rhs, h => by
    rw [Proposition.shownNames] at h
    obtain ⟨hl, hr⟩ := List.forall_mem_append.mp h
    rw [Proposition.shownNames]
    by_cases hb : rhs = .bottom
    · subst hb
      have hs : Adds "\\lnot " 0 0 [] := .command (by decide)
      have hn := hs.append ((lhs.adds_print hl).parenthesized (lhs.strength < 4))
      rw [Proposition.print,Proposition.shownNames,List.append_nil]
      exact hn
    · rw [Proposition.print]
      · exact (lhs.adds_print hl).operands (.command (by decide)) (rhs.adds_print hr) _ _
      · exact hb
  | .box steps, h => by
    rw [Proposition.shownNames] at h
    obtain ⟨ha, hd⟩ := List.forall_mem_append.mp h
    have hopen : Adds "[" 0 0 [] := .of_unmarked (by decide)
    have hmid : Adds " … " 0 0 [] := .of_unmarked (by decide)
    have hclose : Adds "]" 0 0 [] := .of_unmarked (by decide)
    have hall := (((hopen.append (steps.adds_printAssumption ha)).append hmid).append
      (steps.adds_printDerived hd)).append hclose
    rw [List.nil_append,List.append_nil,List.append_nil] at hall
    rw [Proposition.print,Proposition.shownNames]
    exact hall

/-- The typeset assumption of a sub-proof adds the names that it shows. -/
theorem SubProof.adds_printAssumption : ∀ steps : SubProof,
    (∀ name ∈ steps.assumptionNames, isName name = true) →
      Adds (steps.printAssumption .typeset) 0 0 steps.assumptionNames
  | .last _ prop _, h | .more _ prop _ _, h => by
    rw [SubProof.assumptionNames] at h
    rw [SubProof.printAssumption,SubProof.assumptionNames]
    exact prop.adds_print h

/-- What a sub-proof reaches adds the names that it shows when it is typeset. -/
theorem SubProof.adds_printDerived : ∀ steps : SubProof,
    (∀ name ∈ steps.derivedNames, isName name = true) →
      Adds (steps.printDerived .typeset) 0 0 steps.derivedNames
  | .last _ prop _, h => by
    rw [SubProof.derivedNames] at h
    rw [SubProof.printDerived,SubProof.derivedNames]
    exact prop.adds_print h
  | .more _ _ _ rest, h => by
    rw [SubProof.derivedNames] at h
    rw [SubProof.printDerived,SubProof.derivedNames]
    exact rest.adds_printDerived h

end

/-- The label of a rule has no dollar signs or two. -/
theorem RuleKind.exists_adds_typesetLabel (kind : RuleKind) :
    ∃ n, Adds kind.typesetLabel 0 (2 * n) [] := by
  cases kind with
  | modusTollens | contradiction | excludedMiddle => exact ⟨0, .of_unmarked (by decide)⟩
  | _ => exact ⟨1, .of_counts (fun _ => rfl) (fun _ => rfl) (fun _ _ => rfl) rfl rfl rfl⟩

/-- A typeset argument is a number or a formula between two dollar signs. -/
theorem Argument.exists_adds_typeset {argument : Argument}
    (h : ∀ name ∈ argument.shownNames, isName name = true) :
    ∃ n, Adds argument.typeset 0 (2 * n) argument.shownNames := by
  cases argument with
  | index i => exact ⟨0, .number i⟩
  | prop p =>
    have hd : Adds "$" 0 1 [] :=
      .of_counts (fun _ => rfl) (fun _ => rfl) (fun _ _ => rfl) rfl rfl rfl
    have hall := (hd.append (p.adds_print h)).append hd
    rw [List.nil_append,List.append_nil] at hall
    exact ⟨1, hall⟩

/-- A typeset justification has an even number of dollar signs and no ampersand. -/
theorem Justification.exists_adds_typeset {reason : Justification}
    (h : ∀ name ∈ reason.shownNames, isName name = true) :
    ∃ n, Adds reason.typeset 0 (2 * n) reason.shownNames := by
  cases reason with
  | premise | assumption => exact ⟨0, .of_unmarked (by decide)⟩
  | copy source =>
    have hc : Adds "copy " 0 0 [] := .of_unmarked (by decide)
    exact ⟨0, hc.append (.number source)⟩
  | inference rule =>
    obtain ⟨n, hl⟩ := rule.kind.exists_adds_typesetLabel
    have harguments : ∀ argument ∈ rule.arguments,
        ∃ n, Adds argument.typeset 0 (2 * n) argument.shownNames := fun argument hm =>
      argument.exists_adds_typeset fun name hn => h name (List.mem_flatMap.mpr ⟨argument, hm, hn⟩)
    obtain ⟨k, ha⟩ := Adds.intercalate harguments
    have hb : Adds " " 0 0 [] := .of_unmarked (by decide)
    have hall := (hl.append hb).append ha
    have he : 2 * n + 0 + 2 * k = 2 * (n + k) := by omega
    rw [List.append_nil,List.nil_append,he] at hall
    exact ⟨n + k, hall⟩

/-- A row adds one ampersand, an even number of dollar signs and the names that it shows. -/
theorem Line.exists_adds_typesetRow {line : Line} (h : ∀ name ∈ line.shownNames, isName name = true)
    (isLast : Bool) : ∃ n, Adds (typesetRow line.prop line.reason isLast) 1 (2 * n)
      line.shownNames := by
  obtain ⟨hp, hr⟩ := List.forall_mem_append.mp h
  obtain ⟨n, hreason⟩ := Justification.exists_adds_typeset hr
  have hsign : Adds " & " 1 0 [] :=
    .of_counts (fun _ => rfl) (fun _ => rfl) (fun _ _ => rfl) rfl rfl rfl
  have hend : Adds (if isLast then "" else " \\\\") 0 0 [] := by
    cases isLast with
    | true => exact .empty
    | false => exact .of_counts (fun _ => rfl) (fun _ => rfl) (fun _ _ => rfl) rfl rfl rfl
  have hall := (((line.prop.adds_print hp).append hsign).append hreason).append hend
  rw [List.append_nil,List.append_nil,Nat.zero_add,Nat.zero_add,Nat.add_zero] at hall
  exact ⟨n, hall⟩

/-! ## Legal rows -/

/-- What is legal in a row that shows given names, and what is not. -/
structure IsTypesetRow (names : List String) (row : String) : Prop where
  /-- One ampersand stands in the row. -/
  ampersand : row.toList.count '&' = 1
  /-- The number of dollar signs is even. -/
  dollars : row.toList.count '$' % 2 = 0
  /-- No ampersand, dollar sign or brace is escaped. -/
  bare : ∀ sign ∈ rowSigns, (unescaped row.toList).count sign = row.toList.count sign
  /-- Every brace that is opened is closed, and no other. -/
  braces : bracesClose 0 (unescaped row.toList) = true
  /-- In text mode stand the names, each in braces of its own. -/
  inText : textGroups row.toList = names.map String.toList
  /-- Of the characters that must not stand there without a backslash only the underscore does. -/
  special : ∀ group ∈ textGroups row.toList, ∀ c ∈ textSpecials, c ∈ unescaped group → c = '_'
  /-- None of them does exactly when no name holds an underscore. -/
  legal : (∀ group ∈ textGroups row.toList, ∀ c ∈ textSpecials, c ∉ unescaped group) ↔
    ∀ name ∈ names, '_' ∉ name.toList

/-- Of the characters that must not stand in text mode only the underscore stands in names. -/
theorem eq_underscore_of_mem_textSpecials {c : Char} (hs : c ∈ textSpecials)
    (hl : isNameLetter c = true) : c = '_' := by
  have hall : (textSpecials.all fun c => !isNameLetter c || c == '_') = true := by decide
  have hc := List.all_eq_true.mp hall c hs
  rw [hl,Bool.not_true,Bool.false_or] at hc
  exact beq_iff_eq.mp hc

/-- A text that adds one ampersand, an even number of dollar signs and names is such a row. -/
theorem Adds.isTypesetRow {row : String} {n : Nat} {names : List String}
    (h : Adds row 1 (2 * n) names) (hn : ∀ name ∈ names, isName name = true) :
    IsTypesetRow names row := by
  have hb := h.braces 0 []
  have ht : textGroups row.toList = names.map String.toList := by
    have hg := h.inText []
    rwa [List.append_nil,textGroups,List.append_nil] at hg
  have hu : ∀ name ∈ names, unescaped name.toList = name.toList := fun name hm =>
    unescaped_of_unmarked (isUnmarked_of_isName (hn name hm))
  have hgroup : ∀ group ∈ textGroups row.toList, ∃ name ∈ names,
      group = name.toList ∧ unescaped group = name.toList := by
    intro group hm
    rw [ht] at hm
    obtain ⟨name, hname, rfl⟩ := List.mem_map.mp hm
    exact ⟨name, hname, rfl, hu name hname⟩
  have hspecial : ∀ group ∈ textGroups row.toList, ∀ c ∈ textSpecials, c ∈ unescaped group →
      c = '_' := by
    intro group hm c hs hc
    obtain ⟨name, hname, -, he⟩ := hgroup group hm
    rw [he] at hc
    exact eq_underscore_of_mem_textSpecials hs (isNameLetter_of_isName (hn name hname) c hc)
  refine ⟨h.ampersands, ?_, h.bare, ?_, ht, hspecial, ?_⟩
  · rw [h.dollars]
    exact Nat.mul_mod_right 2 n
  · rwa [List.append_nil] at hb
  · constructor
    · intro hlegal name hm hc
      have hg : name.toList ∈ textGroups row.toList := by
        rw [ht]
        exact List.mem_map_of_mem hm
      exact hlegal name.toList hg '_' (by decide) ((hu name hm).symm ▸ hc)
    · intro hnames group hm c hs hc
      obtain ⟨name, hname, -, he⟩ := hgroup group hm
      have hc' := hspecial group hm c hs hc
      rw [he,hc'] at hc
      exact hnames name hname hc

/-- The rows of lines whose names were read are such rows. -/
theorem forall₂_isTypesetRow {lines : List Line} (h : ∀ line ∈ lines.flatMap Line.expanded,
      line.AllNamed fun name => isName name = true) :
    List.Forall₂ (fun line row => IsTypesetRow line.shownNames row)
      (lines.flatMap Line.expanded) (rowsAmong (typesetLines lines)) := by
  have hrows := (List.forall₂_and_left _ _).mpr ⟨h, forall₂_rowsAmong lines⟩
  refine hrows.imp ?_
  rintro line row ⟨hl, isLast, rfl⟩
  have hn : ∀ name ∈ line.shownNames, isName name = true := fun name hm =>
    hl name (line.shownNames_subset hm)
  obtain ⟨n, ha⟩ := Line.exists_adds_typesetRow hn isLast
  exact ha.isTypesetRow hn

/-! ## Proofs of sessions -/

/-- The names in an operation that can be written were read. -/
theorem Operation.IsWritable.isName {operation : Operation} (h : operation.IsWritable) :
    ∀ name ∈ operation.allNames, isName name = true := by
  have hprop : ∀ prop : Proposition, prop.IsWritable → ∀ name ∈ prop.allNames,
      BoxedDeduction.isName name = true := by
    intro prop hp name hn
    rw [Proposition.allNames_of_isFormula hp.1] at hn
    exact (hp.2 name hn).1
  cases operation with
  | premise prop | assume prop => exact hprop prop h
  | infer rule =>
    intro name hn
    rw [allNames,rule.allNames_eq] at hn
    obtain ⟨argument, ha, hm⟩ := List.mem_flatMap.mp hn
    cases argument with
    | index i => cases hm
    | prop p => exact hprop p (h _ ha) name hm
  | copy | close | undo => exact nofun

namespace Session

/-- All names in the proof of a session were read. -/
theorem IsRebuilt.isName {session : Session} (h : session.IsRebuilt) :
    ∀ line ∈ session.proof.expanded, line.AllNamed fun name => isName name = true := by
  obtain ⟨history, hg, hw⟩ := h
  exact hg.allNamed fun operation ho => (hw operation ho).isName

/-- Whatever lines a session is given, when no box is open its proof is typeset in rows of which
each has one ampersand, closed braces, an even number of dollar signs and its names in text mode.
The one character that is not allowed there and stands there is the underscore of a name. -/
theorem typesetRows_run {settings : Value} {session : Session} (h : start settings = .ok session)
    (lines : List String) (hd : (session.run lines).proof.depth = 1) (preamble : Bool) :
    ∃ text body depth,
      (session.run lines).proof.typeset preamble =
          .ok ((if preamble then typesetPreamble else "") ++ text) ∧
        text.toList.splitOn '\n' =
          (typesetHeader depth :: body ++ [endProof, ""]).map String.toList ∧
        List.Forall₂ (fun line row => IsTypesetRow line.shownNames row)
          (session.run lines).proof.expanded (rowsAmong body) := by
  have hr : (session.run lines).IsRebuilt := (isRebuilt_of_start h).2.run lines
  have hn := hr.isName
  obtain ⟨history, hg, -⟩ := hr
  obtain ⟨scope, enclosing, next, hp⟩ : ∃ scope enclosing next,
      (session.run lines).proof = ⟨scope, enclosing, next⟩ := ⟨_, _, _, rfl⟩
  rw [hp] at hg hn hd ⊢
  obtain rfl : enclosing = [] := List.length_eq_zero_iff.mp (Nat.succ.inj hd)
  have he : Proof.expanded ⟨scope, [], next⟩ = scope.lines.flatMap Line.expanded := by
    rw [Proof.expanded_eq]
    rfl
  rw [he] at hn ⊢
  have hfeed : ∀ line ∈ scope.lines.flatMap Line.expanded, ∀ name ∈ line.allNames,
      '\n' ∉ name.toList := by
    intro line hl name hm hc
    exact ne_of_isNameLetter (isNameLetter_of_isName (hn line hl name hm) _ hc) (by decide) rfl
  refine ⟨_, typesetLines scope.lines, linesBoxDepth scope.lines, rfl, ?_,
    forall₂_isTypesetRow hn⟩
  rw [hg.wellFormed.typesetRows_eq,splitOn_join (lineFeed_notMem_environment hfeed),
    List.append_assoc]
  rfl

/-- A proof in which a box inside a box is repeated is typeset in such rows. -/
theorem typesetRows_run_of_repeated_box :
    let settings : Value := .ofFields [("repl", .ofFields [("show_after_command", .bool false)])]
    let lines := ["assume p & q_1", "assume -(r -> p) | ⊥", "copy 1", "close", "copy 2", "close"]
    ∃ session, start settings = .ok session ∧ (session.run lines).proof.depth = 1 ∧
      ∃ text body depth, (session.run lines).proof.typeset true = .ok (typesetPreamble ++ text) ∧
        text.toList.splitOn '\n' =
          (typesetHeader depth :: body ++ [endProof, ""]).map String.toList ∧
        List.Forall₂ (fun line row => IsTypesetRow line.shownNames row)
          (session.run lines).proof.expanded (rowsAmong body) := by
  intro settings lines
  have hw : (settings.get "display.width" (.int 70)).toInt = .ok 70 := by decide +kernel
  have hs := start_eq hw
  have hd : (run ⟨settings, .fresh, false, ⟨.whole 70, .signs, none⟩⟩ lines).proof.depth = 1 := by
    decide +kernel
  exact ⟨_, hs, hd, typesetRows_run hs lines hd true⟩

/-- A name with an underscore stands in text mode as it is. -/
theorem typesetRows_underscore :
    let settings : Value := .ofFields []
    ∃ session, start settings = .ok session ∧
      let proof := (session.run ["premise p_1"]).proof
      proof.depth = 1 ∧ ∃ row group,
        proof.typesetRows = [typesetHeader 0, row, endProof] ∧ group ∈ textGroups row.toList ∧
          '_' ∈ unescaped group := by
  intro settings
  have hw : (settings.get "display.width" (.int 70)).toInt = .ok 70 := by decide +kernel
  have hs := start_eq hw
  refine ⟨_, hs, by decide +kernel, "\\text\x7bp_1\x7d & premise", "p_1".toList, ?_, ?_, ?_⟩
  · decide +kernel
  · decide
  · decide

end Session

end BoxedDeduction
