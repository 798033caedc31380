import BoxedDeduction.Rendering.Typeset

/-!
# The letters of printed texts

A printed proposition is written with the signs of its table, with parentheses and brackets, and
with the letters of its names. So a letter that is in neither does not occur in the text. The text
of a justification ends with a letter of its own, whatever the names are.
-/

namespace BoxedDeduction

/-! ## Names -/

mutual

/-- The names of all symbols in a proposition, those in its boxes included. -/
def Proposition.allNames : Proposition → List String
  | .bottom => []
  | .symbol name => [name]
  | .and lhs rhs | .or lhs rhs | .imply lhs rhs => lhs.allNames ++ rhs.allNames
  | .box steps => steps.allNames

/-- The names of all symbols in a sub-proof. -/
def SubProof.allNames : SubProof → List String
  | .last _ prop reason => prop.allNames ++ reason.allNames
  | .more _ prop reason rest => prop.allNames ++ reason.allNames ++ rest.allNames

/-- The names of all symbols in a justification. -/
def Justification.allNames : Justification → List String
  | .inference rule => rule.allNames
  | .premise | .assumption | .copy _ => []

/-- The names of all symbols in the arguments of a rule. -/
def Rule.allNames : Rule → List String
  | .orILhs _ prop | .orIRhs prop _ | .bottomE _ prop | .excludedMiddle prop => prop.allNames
  | _ => []

end

/-- The names of all symbols in an argument. -/
def Argument.allNames : Argument → List String
  | .index _ => []
  | .prop p => p.allNames

/-- The names of all symbols in what a line states and in its justification. -/
def Line.allNames (line : Line) : List String := line.prop.allNames ++ line.reason.allNames

/-- The names of a rule are those of its arguments. -/
theorem Rule.allNames_eq (rule : Rule) :
    rule.allNames = rule.arguments.flatMap Argument.allNames := by
  cases rule <;> simp [allNames, arguments, Argument.allNames]

/-! ## Letters of printed propositions -/

/-- The texts with which a table writes a proposition, the names left out. -/
def Connectives.texts (table : Connectives) : List String :=
  [table.bottom, table.neg, table.and, table.or, table.imply, table.beforeName, table.behindName,
    "(", ")", "[", " … ", "]"]

/-- Whether every letter of a text stands in one of given sources. -/
def IsLettered (sources : List String) (text : String) : Prop :=
  ∀ c ∈ text.toList, ∃ source ∈ sources, c ∈ source.toList

namespace IsLettered

variable {sources more : List String} {text other : String}

/-- A source has its own letters. -/
theorem of_mem (h : text ∈ sources) : IsLettered sources text := fun _ hc => ⟨text, h, hc⟩

/-- More sources have more letters. -/
theorem mono (h : IsLettered sources text) (hs : sources ⊆ more) : IsLettered more text := by
  intro c hc
  obtain ⟨source, hm, hl⟩ := h c hc
  exact ⟨source, hs hm, hl⟩

/-- A text written after another has the letters of both. -/
theorem append (h : IsLettered sources text) (ho : IsLettered sources other) :
    IsLettered sources (text ++ other) := by
  intro c hc
  rw [String.toList_append] at hc
  rcases List.mem_append.mp hc with hc | hc
  · exact h c hc
  · exact ho c hc

/-- A text in parentheses has these and its own letters. -/
theorem parenthesized (h : IsLettered sources text) (ho : "(" ∈ sources) (hc : ")" ∈ sources)
    (needed : Bool) : IsLettered sources (parenthesized needed text) := by
  cases needed with
  | false => exact h
  | true => exact ((of_mem ho).append h).append (of_mem hc)

/-- A letter that is in no source does not occur. -/
theorem notMem (h : IsLettered sources text) {c : Char}
    (hn : ∀ source ∈ sources, c ∉ source.toList) : c ∉ text.toList := by
  intro hc
  obtain ⟨source, hm, hl⟩ := h c hc
  exact hn source hm hl

end IsLettered

/-- Whether a text has only the letters of a table and of given names. -/
def Connectives.Letters (table : Connectives) (names : List String) (text : String) : Prop :=
  IsLettered (table.texts ++ names) text

namespace Connectives.Letters

variable {table : Connectives} {names left right : List String} {text lhs rhs sign : String}

/-- The texts of the table have its letters. -/
theorem of_mem (h : text ∈ table.texts) : table.Letters names text :=
  IsLettered.of_mem (List.mem_append_left _ h)

/-- More names have more letters. -/
theorem mono (h : table.Letters left text) (hs : left ⊆ right) : table.Letters right text :=
  IsLettered.mono h (List.append_subset.mpr
    ⟨List.subset_append_left _ _, List.Subset.trans hs (List.subset_append_right _ _)⟩)

/-- A text in parentheses has letters of the table and its own. -/
theorem parenthesized (h : table.Letters names text) (needed : Bool) :
    table.Letters names (parenthesized needed text) := by
  refine IsLettered.parenthesized h (List.mem_append_left _ ?_) (List.mem_append_left _ ?_) needed
  · simp only [texts, List.mem_cons, true_or, or_true]
  · simp only [texts, List.mem_cons, true_or, or_true]

/-- Two operands with the sign of their connective between them have the letters of both. -/
theorem operands (hl : table.Letters left lhs) (hr : table.Letters right rhs)
    (hs : sign ∈ table.texts) (leftNeeded rightNeeded : Bool) :
    table.Letters (left ++ right) (BoxedDeduction.parenthesized leftNeeded lhs ++ sign ++
      BoxedDeduction.parenthesized rightNeeded rhs) := by
  have hfront := (hl.mono (List.subset_append_left left right)).parenthesized leftNeeded
  have hback := (hr.mono (List.subset_append_right left right)).parenthesized rightNeeded
  exact (IsLettered.append hfront (of_mem hs)).append hback

end Connectives.Letters

section Printing

variable (table : Connectives)

mutual

/-- A proposition is printed with the letters of the table and of its names. -/
theorem Proposition.letters_print : ∀ prop : Proposition,
    table.Letters prop.allNames (prop.print table)
  | .bottom => by
    rw [Proposition.print]
    exact .of_mem (by simp [Connectives.texts])
  | .symbol name => by
    have hb : table.Letters [name] table.beforeName := .of_mem (by simp [Connectives.texts])
    have he : table.Letters [name] table.behindName := .of_mem (by simp [Connectives.texts])
    have hn : table.Letters [name] name :=
      IsLettered.of_mem (List.mem_append_right _ (List.mem_singleton.mpr rfl))
    rw [Proposition.print,Proposition.allNames]
    exact (IsLettered.append hb hn).append he
  | .and lhs rhs => by
    rw [Proposition.print,Proposition.allNames]
    exact lhs.letters_print.operands rhs.letters_print (by simp [Connectives.texts]) _ _
  | .or lhs rhs => by
    rw [Proposition.print,Proposition.allNames]
    exact lhs.letters_print.operands rhs.letters_print (by simp [Connectives.texts]) _ _
  | .imply lhs rhs => by
    have hl := lhs.letters_print
    have hr := rhs.letters_print
    rw [Proposition.allNames]
    by_cases hb : rhs = .bottom
    · subst hb
      have hn : table.Letters lhs.allNames table.neg := .of_mem (by simp [Connectives.texts])
      rw [Proposition.print]
      exact Connectives.Letters.mono (IsLettered.append hn (hl.parenthesized _))
        (List.subset_append_left _ _)
    · rw [Proposition.print]
      · exact hl.operands hr (by simp [Connectives.texts]) _ _
      · exact hb
  | .box steps => by
    have ho : table.Letters steps.allNames "[" := .of_mem (by simp [Connectives.texts])
    have hm : table.Letters steps.allNames " … " := .of_mem (by simp [Connectives.texts])
    have hc : table.Letters steps.allNames "]" := .of_mem (by simp [Connectives.texts])
    rw [Proposition.print,Proposition.allNames]
    exact (((IsLettered.append ho steps.letters_printAssumption).append hm).append
      steps.letters_printDerived).append hc

/-- The assumption of a sub-proof is printed with the letters of the table and of its names. -/
theorem SubProof.letters_printAssumption : ∀ steps : SubProof,
    table.Letters steps.allNames (steps.printAssumption table)
  | .last _ prop reason => by
    rw [SubProof.printAssumption,SubProof.allNames]
    exact prop.letters_print.mono (List.subset_append_left _ _)
  | .more _ prop reason rest => by
    rw [SubProof.printAssumption,SubProof.allNames,List.append_assoc]
    exact prop.letters_print.mono (List.subset_append_left _ _)

/-- What a sub-proof reaches is printed with the letters of the table and of its names. -/
theorem SubProof.letters_printDerived : ∀ steps : SubProof,
    table.Letters steps.allNames (steps.printDerived table)
  | .last _ prop reason => by
    rw [SubProof.printDerived,SubProof.allNames]
    exact prop.letters_print.mono (List.subset_append_left _ _)
  | .more _ prop reason rest => by
    rw [SubProof.printDerived,SubProof.allNames]
    exact rest.letters_printDerived.mono (List.subset_append_right _ _)

end

end Printing

/-! ## Texts in one line -/

/-- A whole number is written as its digits, with a minus sign in front if it is negative. -/
theorem exists_toList_toString (number : Int) : ∃ value : Nat,
    (toString number).toList = Nat.toDigits 10 value ∨
      (toString number).toList = '-' :: Nat.toDigits 10 value := by
  cases number with
  | ofNat value =>
    refine ⟨value, Or.inl ?_⟩
    rw [← Nat.toList_repr]
    rfl
  | negSucc value =>
    refine ⟨value + 1, Or.inr ?_⟩
    rw [← Nat.toList_repr]
    exact String.toList_append

/-- A whole number is written with digits and the minus sign. -/
theorem mem_toList_toString {number : Int} {c : Char} (h : c ∈ (toString number).toList) :
    c = '-' ∨ c.isDigit = true := by
  have hd : ∀ {value : Nat}, c ∈ Nat.toDigits 10 value → c.isDigit = true :=
    Nat.isDigit_of_mem_toDigits (by decide) (by decide)
  obtain ⟨value, he | he⟩ := exists_toList_toString number
  · exact Or.inr (hd (he ▸ h))
  · rw [he] at h
    exact (List.mem_cons.mp h).imp_right hd

/-- A whole number is not written as nothing. -/
theorem toList_toString_ne_nil (number : Int) : (toString number).toList ≠ [] := by
  obtain ⟨value, he | he⟩ := exists_toList_toString number
  · rw [he]
    exact Nat.toDigits_ne_nil
  · rw [he]
    exact List.cons_ne_nil _ _

/-- Whether a table writes no line feed. -/
def Connectives.IsOneLine (table : Connectives) : Prop := ∀ text ∈ table.texts, '\n' ∉ text.toList

/-- The commands of typesetting are written in one line. -/
theorem Connectives.isOneLine_typeset : typeset.IsOneLine := by
  unfold IsOneLine
  decide

/-- A proposition whose names hold no line feed is printed in one line. -/
theorem Proposition.lineFeed_notMem_print {table : Connectives} (ht : table.IsOneLine)
    {prop : Proposition} (h : ∀ name ∈ prop.allNames, '\n' ∉ name.toList) :
    '\n' ∉ (prop.print table).toList := by
  refine IsLettered.notMem (prop.letters_print table) ?_
  intro source hs
  rcases List.mem_append.mp hs with hs | hs
  · exact ht source hs
  · exact h source hs

/-- A proposition whose names hold no line feed is typeset in one line. -/
theorem Proposition.lineFeed_notMem_typeset {prop : Proposition}
    (h : ∀ name ∈ prop.allNames, '\n' ∉ name.toList) : '\n' ∉ prop.typeset.toList :=
  Proposition.lineFeed_notMem_print Connectives.isOneLine_typeset h

/-- A number is written in one line. -/
theorem lineFeed_notMem_toString (number : Int) : '\n' ∉ (toString number).toList := by
  intro h
  rcases mem_toList_toString h with he | he
  · cases he
  · cases he

/-- A label is written in one line. -/
theorem RuleKind.lineFeed_notMem_typesetLabel (kind : RuleKind) :
    '\n' ∉ kind.typesetLabel.toList := by
  cases kind <;> decide

/-- An argument whose names hold no line feed is typeset in one line. -/
theorem Argument.lineFeed_notMem_typeset {argument : Argument}
    (h : ∀ name ∈ argument.allNames, '\n' ∉ name.toList) : '\n' ∉ argument.typeset.toList := by
  cases argument with
  | index i => exact lineFeed_notMem_toString i
  | prop p =>
    have hp := Proposition.lineFeed_notMem_typeset h
    simp only [typeset, String.toList_append, List.mem_append, hp, or_false]
    decide

/-- What is in no part of a text made of parts is not in the text. -/
theorem notMem_intercalate {separator : String} {parts : List String} {c : Char}
    (hs : c ∉ separator.toList) (hp : ∀ part ∈ parts, c ∉ part.toList) :
    c ∉ (separator.intercalate parts).toList := by
  induction parts with
  | nil => exact List.not_mem_nil
  | cons first later ih =>
    have hf := hp first List.mem_cons_self
    have hl := ih fun part hm => hp part (List.mem_cons_of_mem _ hm)
    cases later with
    | nil => rwa [String.intercalate_singleton]
    | cons next rest =>
      rw [String.intercalate_cons_cons]
      simp only [String.toList_append, List.mem_append, hf, hs, hl, or_self, not_false_eq_true]

/-- A justification whose names hold no line feed is typeset in one line. -/
theorem Justification.lineFeed_notMem_typeset {reason : Justification}
    (h : ∀ name ∈ reason.allNames, '\n' ∉ name.toList) : '\n' ∉ reason.typeset.toList := by
  cases reason with
  | premise | assumption =>
    rw [typeset]
    decide
  | copy source =>
    have hs := lineFeed_notMem_toString source
    simp only [typeset, String.toList_append, List.mem_append, hs, or_false]
    decide
  | inference rule =>
    rw [allNames,Rule.allNames_eq] at h
    have hl := rule.kind.lineFeed_notMem_typesetLabel
    have ha : '\n' ∉ (", ".intercalate (rule.arguments.map Argument.typeset)).toList := by
      refine notMem_intercalate (by decide) ?_
      intro text ht
      obtain ⟨argument, hm, rfl⟩ := List.mem_map.mp ht
      refine argument.lineFeed_notMem_typeset ?_
      exact fun name hn => h name (List.mem_flatMap.mpr ⟨argument, hm, hn⟩)
    simp only [typeset, Rule.typeset, String.toList_append, List.mem_append, hl, ha, false_or,
      or_false]
    decide

/-- A justification whose names hold no line feed is printed in one line. -/
theorem Justification.lineFeed_notMem_print {table : Connectives} (ht : table.IsOneLine)
    {reason : Justification} (h : ∀ name ∈ reason.allNames, '\n' ∉ name.toList) :
    '\n' ∉ (reason.print table).toList := by
  cases reason with
  | premise | assumption =>
    rw [print]
    decide
  | copy source =>
    have hs := lineFeed_notMem_toString source
    simp only [print, String.toList_append, List.mem_append, hs, or_false]
    decide
  | inference rule =>
    rw [allNames,Rule.allNames_eq] at h
    have hl : '\n' ∉ rule.kind.label.toList := by cases rule.kind <;> decide
    have ha : '\n' ∉ (", ".intercalate (rule.arguments.map (Argument.print table))).toList := by
      refine notMem_intercalate (by decide) ?_
      intro text hp
      obtain ⟨argument, hm, rfl⟩ := List.mem_map.mp hp
      cases argument with
      | index i => exact lineFeed_notMem_toString i
      | prop p =>
        refine Proposition.lineFeed_notMem_print ht fun name hn => h name ?_
        exact List.mem_flatMap.mpr ⟨.prop p, hm, hn⟩
    simp only [print, Rule.print, String.toList_append, List.mem_append, hl, ha, false_or, or_false]
    decide

/-! ## The last letter of a justification -/

/-- Whether a text ends with a letter that is no backslash. -/
def EndsPlainly (text : String) : Prop := ∃ last, text.toList.getLast? = some last ∧ last ≠ '\\'

namespace EndsPlainly

variable {text : String}

/-- What is written in front does not change the end. -/
theorem append (h : EndsPlainly text) (front : String) : EndsPlainly (front ++ text) := by
  obtain ⟨last, hl, hn⟩ := h
  refine ⟨last, ?_, hn⟩
  rw [String.toList_append,List.getLast?_append,hl]
  rfl

/-- Parts that each end plainly make a text that does. -/
theorem intercalate {parts : List String} (separator : String) (hn : parts ≠ [])
    (h : ∀ part ∈ parts, EndsPlainly part) : EndsPlainly (separator.intercalate parts) := by
  induction parts with
  | nil => exact absurd rfl hn
  | cons first later ih =>
    cases later with
    | nil =>
      rw [String.intercalate_singleton]
      exact h first List.mem_cons_self
    | cons next rest =>
      rw [String.intercalate_cons_cons]
      exact (ih (List.cons_ne_nil _ _) fun part hm => h part (List.mem_cons_of_mem _ hm)).append _

/-- A number ends with a digit. -/
theorem toString (number : Int) : EndsPlainly (toString number) := by
  have hn := toList_toString_ne_nil number
  refine ⟨_, List.getLast?_eq_some_getLast hn, ?_⟩
  intro he
  rcases mem_toList_toString (List.getLast_mem hn) with hc | hc
  · rw [he] at hc
    cases hc
  · rw [he] at hc
    cases hc

/-- An argument ends with a digit or the end of a formula. -/
theorem typeset_argument (argument : Argument) : EndsPlainly argument.typeset := by
  cases argument with
  | index i => exact toString i
  | prop p =>
    have hd : EndsPlainly "$" := ⟨'$', rfl, by decide⟩
    exact hd.append _

/-- No justification ends with a backslash. -/
theorem typeset (reason : Justification) : EndsPlainly reason.typeset := by
  cases reason with
  | premise => exact ⟨'e', rfl, by decide⟩
  | assumption => exact ⟨'n', rfl, by decide⟩
  | copy source => exact (toString source).append _
  | inference rule =>
    refine (intercalate ", " ?_ ?_).append _
    · cases rule <;> exact List.cons_ne_nil _ _
    · intro text ht
      obtain ⟨argument, -, rfl⟩ := List.mem_map.mp ht
      exact typeset_argument argument

end EndsPlainly

end BoxedDeduction
