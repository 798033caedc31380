import BoxedDeduction.Proofs.Command.Arguments
import BoxedDeduction.Proofs.Computation
import BoxedDeduction.Proofs.Rule.Rulebook

/-!
# Writing command lines

Every operation is written as a line: a keyword and behind it, each behind a blank, a formula, an
index, or the name of a rule and its arguments. No keyword begins with another one, a word ends
at the next blank and printed arguments are read back one by one, so the line is read as the
operation again. Conversely, whatever operation a line is read as can be written.
-/

namespace BoxedDeduction

/-! ## Visible letters -/

/-- The printed characters of the basic alphabet are no blanks. -/
theorem Blank.isBlank_of_printed {c : Char} (hl : 0x21 ≤ c.toNat) (hu : c.toNat ≤ 0x7E) :
    isBlank c = false := by
  rw [isBlank,CharRange.contains,List.any_eq_false]
  intro range hr
  simp only [ranges, List.mem_cons, List.not_mem_nil, or_false] at hr
  rcases hr with rfl | rfl | rfl | rfl | rfl | rfl | rfl | rfl | rfl | rfl <;>
    simp only [Bool.and_eq_true, decide_eq_true_eq] <;> omega

/-- The letters of names are no blanks. -/
theorem isBlank_of_isNameLetter {c : Char} (h : isNameLetter c = true) :
    Blank.isBlank c = false := by
  simp only [isNameLetter, Char.isAlphanum, Bool.or_eq_true, beq_iff_eq] at h
  rcases h with (ha | hd) | rfl
  · have hr := range_of_isAlpha ha
    exact Blank.isBlank_of_printed (by omega) (by omega)
  · have hr := range_of_isDigit hd
    exact Blank.isBlank_of_printed (by omega) (by omega)
  · decide

/-- Digits are no blanks. -/
theorem isBlank_of_isDigit {c : Char} (h : c.isDigit = true) : Blank.isBlank c = false :=
  isBlank_of_isNameLetter (isNameLetter_of_isDigit h)

/-- Whether letters end with one that is no blank. -/
def EndsVisibly (letters : List Char) : Prop := ∃ c ∈ letters.getLast?, Blank.isBlank c = false

instance : DecidablePred EndsVisibly := fun letters =>
  decidable_of_iff ((letters.getLast?.any fun c => !Blank.isBlank c) = true) (by
    simp only [Option.any_eq_true, Bool.not_eq_true', EndsVisibly, Option.mem_def])

/-- Letters end with those that come last. -/
theorem EndsVisibly.append {back : List Char} (h : EndsVisibly back) (front : List Char) :
    EndsVisibly (front ++ back) := by
  obtain ⟨c, hc, hb⟩ := h
  refine ⟨c, ?_, hb⟩
  rw [List.getLast?_append,hc]
  rfl

/-- Letters none of which is a blank end with one that is none. -/
theorem endsVisibly_of_forall {letters : List Char} (hn : letters ≠ [])
    (h : ∀ c ∈ letters, Blank.isBlank c = false) : EndsVisibly letters :=
  ⟨letters.getLast hn, List.getLast?_eq_some_getLast hn, h _ (List.getLast_mem hn)⟩

/-- A text that begins and ends with what is no blank is not stripped of anything. -/
theorem Blank.strip_of_visible {text : String} {first : Char} {later : List Char}
    (ht : text.toList = first :: later) (hf : isBlank first = false)
    (hl : EndsVisibly text.toList) : strip text = text := by
  obtain ⟨last, hc, hb⟩ := hl
  obtain ⟨front, he⟩ : ∃ front, text.toList = front ++ [last] := List.getLast?_eq_some_iff.mp hc
  have hd : text.toList.dropWhile isBlank = text.toList := by
    rw [ht,List.dropWhile_cons,hf]
    rfl
  have hr : text.toList.reverse.dropWhile isBlank = text.toList.reverse := by
    rw [he,List.reverse_concat,List.dropWhile_cons,hb]
    rfl
  rw [strip,stripLetters,hd,hr,List.reverse_reverse,String.ofList_toList]

/-- A name ends with a letter. -/
theorem endsVisibly_of_isName {text : String} (h : isName text = true) :
    EndsVisibly text.toList :=
  endsVisibly_of_forall (toList_ne_nil_of_isName h) fun c hc =>
    isBlank_of_isNameLetter (isNameLetter_of_isName h c hc)

/-- An operand ends with its last letter or with a parenthesis. -/
theorem EndsVisibly.parenthesized {text : String} (h : EndsVisibly text.toList) (needed : Bool) :
    EndsVisibly (parenthesized needed text).toList := by
  cases needed with
  | false => exact h
  | true =>
    have he : (BoxedDeduction.parenthesized true text).toList = ('(' :: text.toList) ++ [')'] := by
      simp [BoxedDeduction.parenthesized, String.toList_append]
    have hv : EndsVisibly [')'] := ⟨')', rfl, by decide⟩
    rw [he]
    exact hv.append _

/-- A formula that can be written ends with what is no blank. -/
theorem endsVisibly_print {table : Connectives} (hb : EndsVisibly table.bottom.toList)
    (ht : table.IsReadable) :
    ∀ {p : Proposition}, p.IsWritable → EndsVisibly (p.print table).toList
  | .bottom, _ => by
    rw [Proposition.print]
    exact hb
  | .symbol name, h => by
    obtain ⟨hn, -⟩ := Proposition.isWritable_symbol.mp h
    rw [Proposition.print,ht.symbol.1,ht.symbol.2,String.empty_append,String.append_empty]
    exact endsVisibly_of_isName hn
  | .box steps, h => by
    have hf := h.1
    rw [Proposition.isFormula] at hf
    cases hf
  | .and lhs rhs, h => by
    have hr := (endsVisibly_print hb ht (Proposition.isWritable_and.mp h).2).parenthesized
    rw [Proposition.print,String.toList_append]
    exact (hr _).append _
  | .or lhs rhs, h => by
    have hr := (endsVisibly_print hb ht (Proposition.isWritable_or.mp h).2).parenthesized
    rw [Proposition.print,String.toList_append]
    exact (hr _).append _
  | .imply lhs rhs, h => by
    obtain ⟨hwl, hwr⟩ := Proposition.isWritable_imply.mp h
    by_cases hn : rhs = .bottom
    · subst hn
      have hl := (endsVisibly_print hb ht hwl).parenthesized
      rw [Proposition.print,String.toList_append]
      exact (hl _).append _
    · have hr := (endsVisibly_print hb ht hwr).parenthesized
      rw [Proposition.print]
      · rw [String.toList_append]
        exact (hr _).append _
      · exact hn

/-! ## Keywords and words -/

namespace Keyword

/-- No keyword begins with another one. -/
theorem prefixFree : ∀ keyword ∈ all, ∀ other ∈ all, keyword.letters <+: other.letters →
    keyword = other := by
  decide +kernel

/-- A text that begins with a keyword begins with no other. -/
theorem find?_letters (keyword : Keyword) (rest : List Char) :
    find? (keyword.letters ++ rest) = some keyword := by
  have hp : keyword.letters <+: keyword.letters ++ rest := List.prefix_append _ _
  cases hf : find? (keyword.letters ++ rest) with
  | none =>
    have hn := List.find?_eq_none.mp hf keyword keyword.mem_all
    exact absurd (List.isPrefixOf_iff_prefix.mpr hp) hn
  | some other =>
    have ho : other.letters <+: keyword.letters ++ rest :=
      List.isPrefixOf_iff_prefix.mp (by simpa using List.find?_some hf)
    rcases List.prefix_or_prefix_of_prefix ho hp with h | h
    · rw [prefixFree other other.mem_all keyword keyword.mem_all h]
    · rw [prefixFree keyword keyword.mem_all other other.mem_all h]

/-- A keyword begins with a letter that is no blank and begins no comment. -/
theorem exists_letters (keyword : Keyword) : ∃ first later,
    keyword.letters = first :: later ∧ Blank.isBlank first = false ∧ first ≠ '#' := by
  have hall : ∀ keyword ∈ all,
      (keyword.letters.head?.any fun first => !Blank.isBlank first && first != '#') = true := by
    decide +kernel
  obtain ⟨first, hf, hb⟩ := (Option.any_eq_true _ _).mp (hall keyword keyword.mem_all)
  obtain ⟨later, hl⟩ := List.head?_eq_some_iff.mp hf
  exact ⟨first, later, hl, by simpa using hb⟩

end Keyword

/-- Nothing is skipped in front of what is no blank. -/
theorem skipGap_of_visible {c : Char} (h : Blank.isBlank c = false) (column : Nat)
    (rest : List Char) : skipGap column (c :: rest) = (column, c :: rest) := by
  have hg : ¬Blank.isTokenGap c = true := by
    intro hg
    rw [Blank.isBlank_of_isTokenGap hg] at h
    cases h
  have hn : c ≠ '\n' := by
    rintro rfl
    exact hg (by decide)
  rw [skipGap,if_neg hn,if_neg hg]

/-- A keyword is read with the text behind it. -/
theorem readKeyword_letters (keyword : Keyword) (rest : List Char) :
    readKeyword (keyword.letters ++ rest) = .ok (keyword, ⟨keyword.letters, 1, rest⟩) := by
  obtain ⟨first, later, hl, hb, -⟩ := keyword.exists_letters
  have hf := keyword.find?_letters rest
  have hs : skipGap 1 (keyword.letters ++ rest) = (1, keyword.letters ++ rest) := by
    rw [hl,List.cons_append]
    exact skipGap_of_visible hb 1 (later ++ rest)
  rw [hl,List.cons_append] at hf hs ⊢
  rw [readKeyword,hs]
  simp only [hf, hl]
  rw [← List.cons_append,List.drop_left]

/-- A word behind a blank is read to its end. -/
theorem readWord_word {start later : Char → Bool} {c : Char} {letters rest : List Char}
    (hb : Blank.isBlank c = false) (hs : start c = true) (hl : ∀ d ∈ letters, later d = true)
    (hr : ∀ d ∈ rest.head?, later d = false) (expected : Expected) (lastColumn column : Nat) :
    readWord start later expected lastColumn column (' ' :: c :: (letters ++ rest)) =
      .ok ⟨c :: letters, column + 1, rest⟩ := by
  have hg : skipGap column (' ' :: c :: (letters ++ rest)) =
      (column + 1, c :: (letters ++ rest)) := skipGap_of_visible hb (column + 1) _
  have ht : rest.takeWhile later = [] ∧ rest.dropWhile later = rest := by
    cases rest with
    | nil => exact ⟨rfl, rfl⟩
    | cons d more =>
      have hd : later d = false := hr d rfl
      rw [List.takeWhile_cons,List.dropWhile_cons,hd]
      exact ⟨rfl, rfl⟩
  rw [readWord,hg]
  simp only [hs, if_true, List.takeWhile_append_of_pos hl, List.dropWhile_append_of_pos hl, ht.1,
    ht.2, List.append_nil]

/-! ## Lines that match the grammar -/

/-- Whether a text may stand where a rule is named: it is not empty, holds neither blanks nor
parentheses and does not begin with a digit. -/
def isRuleName (text : String) : Bool :=
  match text.toList with
  | [] => false
  | first :: later => isRuleNameStart first && later.all isRuleNameLetter

/-- What is printed behind the name of a rule is no part of it. -/
theorem isRuleNameLetter_head_argumentLetters {table : Connectives} {arguments : List Argument} :
    ∀ c ∈ (argumentLetters table arguments).head?, isRuleNameLetter c = false := by
  intro c hc
  cases arguments with
  | nil => cases hc
  | cons first rest =>
    cases hc
    decide

/-- The keyword of an operation. -/
def Operation.keyword : Operation → Keyword
  | .premise _ => .premise
  | .assume _ => .assume
  | .copy _ => .copy
  | .close => .close
  | .infer _ => .rule
  | .undo => .undo

section Lines

variable {table : Connectives} {rest : List Char} {p : Proposition}

/-- The line of a premise or an assumption matches the grammar. -/
theorem readWritten_formula {operation : Operation}
    (ho : operation = .premise p ∨ operation = .assume p) (h : Spells rest p) :
    readWritten (operation.keyword.letters ++ rest) = .ok (.plain (.change operation)) := by
  have hr : ∀ last column, readFormulaText [.endOfLine] last column rest = .ok p :=
    fun _ _ => readFormulaText_eq_ok_iff.mpr h
  rw [readWritten,readKeyword_letters]
  rcases ho with rfl | rfl <;>
    · simp only [Operation.keyword, bind, Except.bind, hr]
      rfl

/-- The line of a copy matches the grammar. -/
theorem readWritten_copy {digits : List Char} (hn : digits ≠ [])
    (hd : ∀ c ∈ digits, c.isDigit = true) :
    readWritten (Keyword.copy.letters ++ ' ' :: digits) = .ok (.copy digits) := by
  cases digits with
  | nil => exact absurd rfl hn
  | cons first later =>
    have hf : first.isDigit = true := hd first List.mem_cons_self
    have hb : Blank.isBlank first = false := isBlank_of_isDigit hf
    have hw := @readWord_word Char.isDigit Char.isDigit first later [] hb hf
      (fun c hc => hd c (List.mem_cons_of_mem _ hc)) nofun .stepIndex
    rw [List.append_nil] at hw
    rw [readWritten,readKeyword_letters]
    simp only [bind, Except.bind, hw]
    rfl

/-- The line that closes a box or undoes an operation matches the grammar. -/
theorem readWritten_bare {operation : Operation} (ho : operation = .close ∨ operation = .undo) :
    readWritten operation.keyword.letters = .ok (.plain (.change operation)) := by
  have hk := readKeyword_letters operation.keyword []
  rw [List.append_nil] at hk
  rw [readWritten,hk]
  rcases ho with rfl | rfl <;> rfl

/-- The line of a rule matches the grammar, and its arguments are read back one by one. -/
theorem readWritten_rule (ht : table.IsReadable) {name : String} (hn : isRuleName name = true)
    {arguments : List Argument} (h : ∀ argument ∈ arguments, argument.IsWritable) :
    readWritten (Keyword.rule.letters ++ ' ' :: (name.toList ++ argumentLetters table arguments)) =
      .ok (.rule name (arguments.map Argument.written)) := by
  rw [isRuleName] at hn
  cases hl : name.toList with
  | nil =>
    rw [hl] at hn
    cases hn
  | cons first later =>
    rw [hl] at hn
    simp only [Bool.and_eq_true, List.all_eq_true] at hn
    obtain ⟨hf, hd⟩ := hn
    have hb : Blank.isBlank first = false := by
      simp only [isRuleNameStart, isRuleNameLetter, Bool.and_eq_true, Bool.not_eq_true'] at hf
      exact hf.1.1.1
    have hw := readWord_word hb hf hd
      (@isRuleNameLetter_head_argumentLetters table arguments) .ruleName
    have hname : name = String.ofList (first :: later) := by rw [← hl,String.ofList_toList]
    rw [readWritten,readKeyword_letters]
    simp only [bind, Except.bind, List.cons_append, readRuleName, hw,
      readArguments_argumentLetters ht h, ← hname]
    rfl

end Lines

/-! ## Calls of rules -/

/-- A text of words with blanks between them. -/
theorem toList_intercalate (first : String) (rest : List String) :
    (" ".intercalate (first :: rest)).toList =
      first.toList ++ rest.flatMap fun word => ' ' :: word.toList := by
  induction rest generalizing first with
  | nil => rw [String.intercalate_singleton,List.flatMap_nil,List.append_nil]
  | cons second later ih =>
    rw [String.intercalate_cons_cons,String.toList_append,String.toList_append,ih,
      List.flatMap_cons]
    simp

/-- Written arguments have the values that were written. -/
theorem mapM_value_written {arguments : List Argument}
    (h : ∀ argument ∈ arguments, argument.IsWritable) :
    (arguments.map Argument.written).mapM WrittenArgument.value = .ok arguments := by
  induction arguments with
  | nil => rfl
  | cons first rest ih =>
    have hr := ih fun argument hm => h argument (List.mem_cons_of_mem _ hm)
    rw [List.map_cons,List.mapM_cons,(h first List.mem_cons_self).value_written,hr]
    rfl

/-- A line that matches the grammar is read as the command that it denotes. -/
theorem Command.read_of_readWritten {line : String} {written : WrittenCommand}
    (h : readWritten line.toList = .ok written) : read line = written.value := by
  rw [read,h]

/-- The line that calls a rule. -/
def ruleCall (table : Connectives) (name : String) (arguments : List Argument) : String :=
  " ".intercalate (Keyword.rule.text :: name :: arguments.map (Argument.print table))

/-- A call of a rule denotes what the rulebook makes of its arguments. -/
theorem WrittenCommand.value_rule {name : String} {written : List WrittenArgument}
    {arguments : List Argument} (h : written.mapM WrittenArgument.value = .ok arguments) :
    (∀ made, Rulebook.standard.create name arguments = .ok made →
      (rule name written).value = .ok (.change (.infer made))) ∧
      ∀ cause, Rulebook.standard.create name arguments = .error cause →
        (rule name written).value = .error (.ruleCall cause) := by
  rw [value,bind_of_eq_ok h]
  constructor
  · intro made hc
    rw [hc]
    rfl
  · intro cause hc
    rw [hc]

/-- The letters of a line that calls a rule are those of the keyword, the name and the arguments. -/
theorem toList_ruleCall (table : Connectives) (name : String) (arguments : List Argument) :
    (ruleCall table name arguments).toList =
      Keyword.rule.letters ++ ' ' :: (name.toList ++ argumentLetters table arguments) := by
  rw [ruleCall,toList_intercalate,List.flatMap_cons,List.flatMap_map,argumentLetters]
  rfl

/-- A line that calls a rule is read as the call of the rule with the arguments. -/
theorem Command.read_ruleCall {table : Connectives} (ht : table.IsReadable) {name : String}
    (hn : isRuleName name = true) {arguments : List Argument}
    (h : ∀ argument ∈ arguments, argument.IsWritable) :
    read (ruleCall table name arguments) =
      match Rulebook.standard.create name arguments with
      | .ok made => .ok (.change (.infer made))
      | .error cause => .error (.ruleCall cause) := by
  have hw := readWritten_rule ht hn h
  rw [← toList_ruleCall] at hw
  obtain ⟨hmade, hcause⟩ := @WrittenCommand.value_rule name _ _ (mapM_value_written h)
  rw [read_of_readWritten hw]
  cases hc : Rulebook.standard.create name arguments with
  | ok made => exact hmade made hc
  | error cause => exact hcause cause hc

/-! ## Operations -/

namespace Operation

/-- Whether an operation can be written: what it adds is a formula with names that can be read, and
its indices have no more digits than are read. -/
def IsWritable : Operation → Prop
  | .premise prop | .assume prop => prop.IsWritable
  | .copy source => (Argument.index source).IsWritable
  | .infer rule => ∀ argument ∈ rule.arguments, argument.IsWritable
  | .close | .undo => True

/-- The words that are written behind the keyword. -/
def words (table : Connectives) : Operation → List String
  | .premise prop | .assume prop => [prop.print table]
  | .copy source => [toString source]
  | .close | .undo => []
  | .infer rule => rule.kind.name :: rule.arguments.map (Argument.print table)

/-- The line of an operation. -/
def text (table : Connectives) (operation : Operation) : String :=
  " ".intercalate (operation.keyword.text :: operation.words table)

variable {table : Connectives} {operation : Operation}

/-- The letters of a line are those of the keyword and then those of the words. -/
theorem toList_text (table : Connectives) (operation : Operation) :
    (operation.text table).toList = operation.keyword.letters ++
      (operation.words table).flatMap fun word => ' ' :: word.toList :=
  toList_intercalate _ _

/-- The line of an operation is read as the operation. -/
theorem IsWritable.read_text (h : operation.IsWritable) (ht : table.IsReadable) :
    Command.read (operation.text table) = .ok (.change operation) := by
  have hg : Blank.isTokenGap ' ' = true := by decide
  have hspells : ∀ {p : Proposition}, p.IsWritable → Spells (' ' :: (p.print table).toList) p := by
    intro p hp
    obtain ⟨tokens, hc, hd⟩ := Proposition.spells_print ht hp
    exact ⟨tokens, .gap hg hc, hd⟩
  cases operation with
  | premise prop =>
    rw [Command.read,toList_text,words,List.flatMap_singleton,
      readWritten_formula (Or.inl rfl) (hspells h)]
    rfl
  | assume prop =>
    rw [Command.read,toList_text,words,List.flatMap_singleton,
      readWritten_formula (Or.inr rfl) (hspells h)]
    rfl
  | copy source =>
    obtain ⟨value, hv, rfl⟩ := h
    have hd : ∀ c ∈ Nat.toDigits 10 value, c.isDigit = true :=
      fun c hc => Nat.isDigit_of_mem_toDigits (by decide) (by decide) hc
    have hr := readWritten_copy Nat.toDigits_ne_nil hd
    have hl : (text table (.copy value)).toList =
        Keyword.copy.letters ++ ' ' :: Nat.toDigits 10 value := by
      rw [toList_text,words,List.flatMap_singleton,Argument.toList_toString,keyword]
    rw [← hl] at hr
    rw [Command.read_of_readWritten hr]
    simp only [WrittenCommand.value, indexOfDigits, WholeNumber.natural?_toDigits hv]
    rfl
  | infer rule =>
    have hn : ∀ kind ∈ RuleKind.all, isRuleName kind.name = true := by decide +kernel
    have hc := Command.read_ruleCall ht (hn rule.kind rule.kind.mem_all) h
    rw [Rulebook.create_arguments] at hc
    exact hc
  | close | undo =>
    rw [Command.read,toList_text,words,List.flatMap_nil,List.append_nil,readWritten_bare (by simp)]
    rfl

/-- The words of a line end with what is no blank. -/
theorem IsWritable.endsVisibly_of_mem_words (h : operation.IsWritable) (ht : table.IsReadable)
    (hb : EndsVisibly table.bottom.toList) {word : String} (hw : word ∈ operation.words table) :
    EndsVisibly word.toList := by
  have hindex : ∀ {i : Int}, (Argument.index i).IsWritable → EndsVisibly (toString i).toList := by
    rintro _ ⟨value, -, rfl⟩
    rw [Argument.toList_toString]
    exact endsVisibly_of_forall Nat.toDigits_ne_nil fun c hc =>
      isBlank_of_isDigit (Nat.isDigit_of_mem_toDigits (by decide) (by decide) hc)
  cases operation with
  | premise prop | assume prop =>
    rw [List.mem_singleton.mp hw]
    exact endsVisibly_print hb ht h
  | copy source =>
    rw [List.mem_singleton.mp hw]
    exact hindex h
  | close | undo => cases hw
  | infer rule =>
    rcases List.mem_cons.mp hw with rfl | hw
    · have hall : ∀ kind ∈ RuleKind.all, EndsVisibly kind.name.toList := by decide +kernel
      exact hall rule.kind rule.kind.mem_all
    · obtain ⟨argument, hm, rfl⟩ := List.mem_map.mp hw
      have ha := h argument hm
      cases argument with
      | index i => exact hindex ha
      | prop p => exact endsVisibly_print hb ht ha

/-- Nothing is stripped from the line of an operation, and it is no comment. -/
theorem IsWritable.strip_text (h : operation.IsWritable) (ht : table.IsReadable)
    (hb : EndsVisibly table.bottom.toList) :
    Blank.strip (operation.text table) = operation.text table ∧
      ¬(operation.text table = "" ∨ (operation.text table).toList.head? = some '#') := by
  obtain ⟨first, later, hk, hf, hc⟩ := operation.keyword.exists_letters
  have hl := toList_text table operation
  have hv : EndsVisibly (operation.text table).toList := by
    rw [hl]
    rcases List.eq_nil_or_concat (operation.words table) with hw | ⟨front, last, hw⟩
    · have hall : ∀ keyword ∈ Keyword.all, EndsVisibly keyword.letters := by decide +kernel
      rw [hw,List.flatMap_nil,List.append_nil]
      exact hall operation.keyword operation.keyword.mem_all
    · have hm : last ∈ operation.words table := by rw [hw]; simp
      have hlast := h.endsVisibly_of_mem_words ht hb hm
      rw [hw,List.concat_eq_append,List.flatMap_append,List.flatMap_singleton,← List.append_assoc]
      exact (hlast.append [' ']).append _
  rw [hk,List.cons_append] at hl
  refine ⟨Blank.strip_of_visible hl hf hv, ?_⟩
  rintro (he | he)
  · rw [he] at hl
    cases hl
  · rw [hl] at he
    cases he
    exact hc rfl

end Operation

/-! ## What is read can be written -/

/-- Whether a written line can be turned into nothing but operations that can be written. -/
def WrittenCommand.IsWritable : WrittenCommand → Prop
  | .plain (.change operation) => operation.IsWritable
  | .rule _ arguments => ∀ argument ∈ arguments, argument.IsWritable
  | .plain _ | .copy _ => True

/-- How the text behind a keyword is read as a written line. -/
inductive WrittenBehind (word : LocatedWord) : WrittenCommand → Prop where
  /-- Behind some keywords stands a formula. -/
  | formula (prop : Proposition) (operation : Operation)
    (h : readFormulaText [.endOfLine] word.column word.next word.rest = .ok prop)
    (ho : operation = .premise prop ∨ operation = .assume prop) :
    WrittenBehind word (.plain (.change operation))
  /-- Behind others stands nothing, or a name that is looked up. -/
  | fixed (command : Command)
    (hc : ∀ operation, command = .change operation → operation = .close ∨ operation = .undo) :
    WrittenBehind word (.plain command)
  /-- The digits of an index are copied. -/
  | copy (index : LocatedWord)
    (h : readWord Char.isDigit Char.isDigit .stepIndex word.column word.next word.rest = .ok index) :
    WrittenBehind word (.copy index.letters)
  /-- Behind the name of a rule stand its arguments. -/
  | rule (name : LocatedWord) (arguments : List WrittenArgument)
    (hn : readRuleName word.column word.next word.rest = .ok name)
    (ha : readArguments (tokenize .argument name.next name.rest).ending name.column .start
      (tokenize .argument name.next name.rest).tokens = .ok arguments) :
    WrittenBehind word (.rule (String.ofList name.letters) arguments)

/-- A text that matches the grammar has a keyword, and the rest is read behind it. -/
theorem exists_writtenBehind {cs : List Char} {written : WrittenCommand}
    (h : readWritten cs = .ok written) :
    ∃ keyword word, readKeyword cs = .ok (keyword, word) ∧ WrittenBehind word written := by
  rw [readWritten] at h
  cases hk : readKeyword cs with
  | error fault =>
    rw [hk] at h
    cases h
  | ok found =>
    obtain ⟨keyword, word⟩ := found
    refine ⟨keyword, word, rfl, ?_⟩
    rw [hk] at h
    simp only [bind, Except.bind] at h
    cases keyword with
    | premise | assume =>
      simp only at h
      split at h
      · cases h
      · next prop hp =>
        cases h
        exact .formula prop _ hp (by simp only [true_or, or_true])
    | rule =>
      simp only at h
      split at h
      · cases h
      · next name hn =>
        split at h
        · cases h
        · next arguments ha =>
          cases h
          exact .rule name arguments hn ha
    | copy =>
      simp only at h
      split at h
      · cases h
      · next index hi =>
        split at h
        · cases h
        · cases h
          exact .copy index hi
    | close | discharge =>
      simp only at h
      split at h
      · cases h
      · cases h
        exact .fixed _ fun _ ho => Or.inl (Command.change.inj ho).symm
    | undo =>
      simp only at h
      split at h
      · cases h
      · cases h
        exact .fixed _ fun _ ho => Or.inr (Command.change.inj ho).symm
    | display | latex | unused | quit | exit =>
      simp only at h
      split at h
      · cases h
      · cases h
        exact .fixed _ nofun
    | help =>
      simp only at h
      split at h
      · cases h
        exact .fixed _ nofun
      · split at h
        · cases h
        · split at h
          · cases h
          · cases h
            exact .fixed _ nofun

/-- A line that matches the grammar is written. -/
theorem isWritable_of_readWritten {cs : List Char} {written : WrittenCommand}
    (h : readWritten cs = .ok written) : written.IsWritable := by
  obtain ⟨_, word, -, hw⟩ := exists_writtenBehind h
  cases hw with
  | formula prop operation hp ho =>
    have hf := (readFormulaText_eq_ok_iff.mp hp).isWritable
    rcases ho with rfl | rfl
    · exact hf
    · exact hf
  | fixed command hc =>
    cases command with
    | change operation =>
      rcases hc operation rfl with rfl | rfl
      · trivial
      · trivial
    | display | typeset | unused | help | quit => trivial
  | copy index hi => trivial
  | rule name arguments hn ha => exact isWritable_of_readArguments ha

/-- The values of arguments that can be written can be written. -/
theorem isWritable_of_mapM_value {written : List WrittenArgument} {arguments : List Argument}
    (h : ∀ argument ∈ written, argument.IsWritable)
    (hv : written.mapM WrittenArgument.value = .ok arguments) :
    ∀ argument ∈ arguments, argument.IsWritable := by
  induction written generalizing arguments with
  | nil =>
    cases hv
    exact nofun
  | cons first rest ih =>
    rw [List.mapM_cons] at hv
    cases hf : first.value with
    | error cause =>
      rw [hf] at hv
      cases hv
    | ok value =>
      cases hr : rest.mapM WrittenArgument.value with
      | error cause =>
        rw [hf,hr] at hv
        cases hv
      | ok values =>
        rw [hf,hr] at hv
        cases hv
        intro argument hm
        rcases List.mem_cons.mp hm with rfl | hm
        · exact (h first List.mem_cons_self).value hf
        · exact ih (fun other ho => h other (List.mem_cons_of_mem _ ho)) hr argument hm

/-- An operation that a line is read as can be written. -/
theorem isWritable_of_read {line : String} {operation : Operation}
    (h : Command.read line = .ok (.change operation)) : operation.IsWritable := by
  cases hr : readWritten line.toList with
  | error fault =>
    rw [Command.read,hr] at h
    cases h
  | ok written =>
    have hw := isWritable_of_readWritten hr
    rw [Command.read_of_readWritten hr] at h
    cases written with
    | plain command =>
      cases h
      exact hw
    | copy digits =>
      simp only [WrittenCommand.value, bind, Except.bind] at h
      split at h
      · cases h
      · next index hi =>
        cases h
        exact isWritable_of_indexOfDigits hi
    | rule name arguments =>
      cases hv : arguments.mapM WrittenArgument.value with
      | error cause =>
        rw [WrittenCommand.value,hv] at h
        cases h
      | ok values =>
        obtain ⟨hmade, hcause⟩ := @WrittenCommand.value_rule name _ _ hv
        cases hc : Rulebook.standard.create name values with
        | error cause =>
          rw [hcause cause hc] at h
          cases h
        | ok made =>
          rw [hmade made hc] at h
          cases h
          rw [Operation.IsWritable,Rulebook.arguments_of_create hc]
          exact isWritable_of_mapM_value hw hv

end BoxedDeduction
