import BoxedDeduction.Proofs.Command.Writing

/-!
# Runs of digits in a line

The digits of every index that is read from a line stand side by side in the line. So a line is
refused for an index that is too long only when it holds a run of digits that is too long.
-/

namespace BoxedDeduction

/-- Whether digits stand side by side in a text. -/
structure IsDigitRun (digits text : List Char) : Prop where
  /-- There is at least one. -/
  nonempty : digits ≠ []
  /-- They are decimal digits. -/
  digit : ∀ c ∈ digits, c.isDigit = true
  /-- They stand side by side. -/
  run : digits <:+: text

/-- Whether no run of digits in a text is longer than what is read as a number. -/
def HasShortNumbers (text : List Char) : Prop :=
  ∀ digits, IsDigitRun digits text → digits.length ≤ WholeNumber.digitLimit

/-- A run of digits in a part of a text is one in the text. -/
theorem IsDigitRun.mono {digits part text : List Char} (h : IsDigitRun digits part)
    (hp : part <:+: text) : IsDigitRun digits text :=
  ⟨h.nonempty, h.digit, h.run.trans hp⟩

/-- A part of a text with short numbers has short numbers. -/
theorem HasShortNumbers.of_infix {part text : List Char} (h : HasShortNumbers text)
    (hp : part <:+: text) : HasShortNumbers part :=
  fun _ hd => h _ (hd.mono hp)

/-- A short text has short numbers. -/
theorem HasShortNumbers.of_length {text : List Char} (h : text.length ≤ WholeNumber.digitLimit) :
    HasShortNumbers text :=
  fun _ hd => hd.run.length_le.trans h

/-- Digits that are not too many denote an index. -/
theorem exists_indexOfDigits {digits : List Char} (hn : digits ≠ [])
    (hd : ∀ c ∈ digits, c.isDigit = true) (hl : digits.length ≤ WholeNumber.digitLimit) :
    ∃ index, indexOfDigits digits = .ok index := by
  have hr := WholeNumber.digits?_of_isDigit hn hd
  have hv : ∃ value, WholeNumber.natural? 10 digits = some value := by
    rw [WholeNumber.natural?,WholeNumber.withoutMark_ten,hr]
    simp only [Option.bind_eq_bind, Option.bind_some, List.length_map, hl, true_or, if_true]
    exact ⟨_, rfl⟩
  obtain ⟨value, hv⟩ := hv
  rw [indexOfDigits,hv]
  exact ⟨value, rfl⟩

/-! ## Parts of a line -/

/-- What is left behind blanks is the end of the text. -/
theorem suffix_skipGap (column : Nat) (cs : List Char) : (skipGap column cs).2 <:+ cs := by
  induction cs generalizing column with
  | nil => exact List.suffix_rfl
  | cons c rest ih =>
    rw [skipGap]
    split
    · exact (ih 1).trans (List.suffix_cons c rest)
    · split
      · exact (ih (column + 1)).trans (List.suffix_cons c rest)
      · exact List.suffix_rfl

/-- A text without the blanks around it is a part of the text. -/
theorem infix_strip (text : String) : (Blank.strip text).toList <:+: text.toList := by
  rw [Blank.strip,String.toList_ofList,Blank.stripLetters]
  have hback := List.dropWhile_suffix Blank.isBlank
    (l := (text.toList.dropWhile Blank.isBlank).reverse)
  rw [← List.reverse_prefix,List.reverse_reverse] at hback
  exact hback.isInfix.trans (List.dropWhile_suffix Blank.isBlank).isInfix

/-- A word is a part of the text, with letters of its class, and the text behind it is its end. -/
theorem readWord_eq_ok {start later : Char → Bool} {expected : Expected} {lastColumn column : Nat}
    {cs : List Char} {word : LocatedWord}
    (h : readWord start later expected lastColumn column cs = .ok word) :
    word.letters ≠ [] ∧ (∀ c ∈ word.letters, start c = true ∨ later c = true) ∧
      word.letters <:+: cs ∧ word.rest <:+ cs := by
  have hs := suffix_skipGap column cs
  rw [readWord] at h
  split at h
  · cases h
  · next place c rest hg =>
    rw [hg] at hs
    split at h
    · next hc =>
      cases h
      have ht : c :: rest.takeWhile later <+: c :: rest :=
        List.cons_prefix_cons.mpr ⟨rfl, List.takeWhile_prefix later⟩
      have hd : rest.dropWhile later <:+ c :: rest :=
        (List.dropWhile_suffix later).trans (List.suffix_cons c rest)
      refine ⟨List.cons_ne_nil _ _, ?_, ht.isInfix.trans hs.isInfix, hd.trans hs⟩
      intro letter hm
      rcases List.mem_cons.mp hm with rfl | hm
      · exact Or.inl hc
      · exact Or.inr (List.all_eq_true.mp List.all_takeWhile letter hm)
    · cases h

/-- What stands behind the keyword is the end of the line. -/
theorem readKeyword_eq_ok {cs : List Char} {keyword : Keyword} {word : LocatedWord}
    (h : readKeyword cs = .ok (keyword, word)) : word.rest <:+ cs := by
  have hs := suffix_skipGap 1 cs
  rw [readKeyword] at h
  split at h
  · cases h
  · next place c rest hg =>
    rw [hg] at hs
    split at h
    · cases h
    · cases h
      exact (List.drop_suffix _ _).trans hs

/-! ## Indices among the arguments -/

/-- The digits of an index token stand in the text. -/
theorem Cut.isDigitRun {cs : List Char} {tokens : List Token} (h : Cut cs tokens)
    {digits : List Char} (hm : .index digits ∈ tokens) : IsDigitRun digits cs := by
  induction h with
  | done => cases hm
  | gap _ _ ih => exact (ih hm).mono (List.suffix_cons _ _).isInfix
  | token hw _ _ ih =>
    rcases List.mem_cons.mp hm with rfl | hm
    · cases hw with
      | index hf hl =>
        exact ⟨List.cons_ne_nil _ _, List.forall_mem_cons.mpr ⟨hf, hl⟩,
          (List.prefix_append _ _).isInfix⟩
      | sign h => cases h
    · exact (ih hm).mono (List.suffix_append _ _).isInfix

namespace ArgumentState

variable {state next : ArgumentState} {token : Token} {digits : List Char}

/-- An argument that begins is an index only if its token is one. -/
theorem index_mem_of_beginArgument {finished : List WrittenArgument}
    (h : beginArgument finished token = some next) (hm : .index digits ∈ next.finished) :
    .index digits ∈ finished ∨ token = .index digits := by
  cases token with
  | index other =>
    cases h
    rcases List.mem_cons.mp hm with he | hm
    · cases he
      exact Or.inr rfl
    · exact Or.inl hm
  | name | bottom | openParen | neg | closeParen | and | or | imply =>
    simp only [beginArgument] at h
    obtain ⟨formula, -, rfl⟩ := Option.map_eq_some_iff.mp h
    exact Or.inl hm

/-- A token adds an index to the finished arguments only if it is one. -/
theorem index_mem_of_step (h : state.step token = some next)
    (hm : .index digits ∈ next.finished) :
    .index digits ∈ state.finished ∨ token = .index digits := by
  obtain ⟨finished, formula⟩ := state
  cases formula with
  | none => exact index_mem_of_beginArgument h hm
  | some formula =>
    rw [step] at h
    cases hf : formula.step token with
    | some following =>
      simp only [hf, Option.some.injEq] at h
      rw [← h] at hm
      exact Or.inl hm
    | none =>
      -- The formula is finished, and the token begins the next argument.
      simp only [hf] at h
      obtain ⟨prop, -, hb⟩ := Option.bind_eq_some_iff.mp h
      rcases index_mem_of_beginArgument hb hm with hm | ht
      · rcases List.mem_cons.mp hm with he | hm
        · cases he
        · exact Or.inl hm
      · exact Or.inr ht

/-- The indices among the finished arguments come from the tokens that were read. -/
theorem index_mem_of_run {last : ArgumentState} {tokens : List Token}
    (h : state.run tokens = some last) (hm : .index digits ∈ last.finished) :
    .index digits ∈ state.finished ∨ .index digits ∈ tokens := by
  induction tokens generalizing state with
  | nil =>
    obtain rfl : state = last := Option.some.inj h
    exact Or.inl hm
  | cons token rest ih =>
    rw [run_cons] at h
    obtain ⟨next, hs, hr⟩ := Option.bind_eq_some_iff.mp h
    rcases ih hr with hm | hm
    · rcases index_mem_of_step hs hm with hm | rfl
      · exact Or.inl hm
      · exact Or.inr List.mem_cons_self
    · exact Or.inr (List.mem_cons_of_mem _ hm)

/-- The indices among the arguments are finished arguments. -/
theorem index_mem_of_result? {arguments : List WrittenArgument}
    (h : state.result? = some arguments) (hm : .index digits ∈ arguments) :
    .index digits ∈ state.finished := by
  obtain ⟨finished, formula⟩ := state
  cases formula with
  | none =>
    cases h
    exact List.mem_reverse.mp hm
  | some formula =>
    obtain ⟨prop, -, rfl⟩ := Option.map_eq_some_iff.mp h
    rcases List.mem_cons.mp (List.mem_reverse.mp hm) with he | hm
    · cases he
    · exact hm

end ArgumentState

/-- The digits of an index among arguments stand in their text. -/
theorem isDigitRun_of_readArguments {column lastColumn : Nat} {cs digits : List Char}
    {arguments : List WrittenArgument}
    (h : readArguments (tokenize .argument column cs).ending lastColumn .start
      (tokenize .argument column cs).tokens = .ok arguments)
    (hm : .index digits ∈ arguments) : IsDigitRun digits cs := by
  obtain ⟨he, last, hr, hl⟩ := readArguments_eq_ok_iff.mp h
  have hc : Cut cs (tokenize .argument column cs).plain := cut_of_tokenize he
  have hf := ArgumentState.index_mem_of_result? hl hm
  rcases ArgumentState.index_mem_of_run hr hf with hf | ht
  · cases hf
  · exact hc.isDigitRun ht

/-! ## Indices in a line -/

/-- The digits of an index argument. -/
def WrittenArgument.digits? : WrittenArgument → Option (List Char)
  | .index digits => some digits
  | .prop _ => none

/-- The digits of the indices in a written line. -/
def WrittenCommand.indices : WrittenCommand → List (List Char)
  | .plain _ => []
  | .copy digits => [digits]
  | .rule _ arguments => arguments.filterMap WrittenArgument.digits?

/-- The digits of the indices that are read from a line stand in the line. -/
theorem isDigitRun_of_readWritten {cs digits : List Char} {written : WrittenCommand}
    (h : readWritten cs = .ok written) (hm : digits ∈ written.indices) : IsDigitRun digits cs := by
  obtain ⟨_, word, hk, hw⟩ := exists_writtenBehind h
  have hrest : word.rest <:+ cs := readKeyword_eq_ok hk
  cases hw with
  | formula | fixed => cases hm
  | copy index hi =>
    obtain ⟨hn, hd, hr, -⟩ := readWord_eq_ok hi
    rw [List.mem_singleton.mp hm]
    exact ⟨hn, fun c hc => (hd c hc).elim id id, hr.trans hrest.isInfix⟩
  | rule name arguments hn ha =>
    obtain ⟨-, -, -, hs⟩ := readWord_eq_ok hn
    obtain ⟨argument, hi, he⟩ := List.mem_filterMap.mp hm
    cases argument with
    | prop p => cases he
    | index other =>
      cases he
      exact (isDigitRun_of_readArguments ha hi).mono (hs.trans hrest).isInfix

/-- A written line whose indices are all read is not refused for one that is too long. -/
theorem WrittenCommand.value_ne_indexTooLong {written : WrittenCommand}
    (h : ∀ digits ∈ written.indices, ∃ index, indexOfDigits digits = .ok index) :
    written.value ≠ .error .indexTooLong := by
  cases written with
  | plain command =>
    intro he
    cases he
  | copy digits =>
    obtain ⟨index, hi⟩ := h digits List.mem_cons_self
    rw [value,bind_of_eq_ok hi]
    intro he
    cases he
  | rule name arguments =>
    have hall : ∀ argument ∈ arguments, ∃ read, WrittenArgument.value argument = .ok read := by
      intro argument hm
      cases argument with
      | prop p => exact ⟨_, rfl⟩
      | index digits =>
        obtain ⟨index, hi⟩ := h digits (List.mem_filterMap.mpr ⟨_, hm, rfl⟩)
        rw [WrittenArgument.value,bind_of_eq_ok hi]
        exact ⟨_, rfl⟩
    obtain ⟨values, hv⟩ := exists_mapM_eq_ok hall
    obtain ⟨hmade, hcause⟩ := @value_rule name _ _ hv
    cases hc : Rulebook.standard.create name values with
    | ok made =>
      rw [hmade made hc]
      intro he
      cases he
    | error cause =>
      rw [hcause cause hc]
      intro he
      cases he

/-- Whether no index that is read from a line has more digits than are read. -/
def HasShortIndices (line : String) : Prop :=
  ∀ written, readWritten line.toList = .ok written →
    ∀ digits ∈ written.indices, digits.length ≤ WholeNumber.digitLimit

/-- A line with short indices is not refused for an index that is too long. -/
theorem Command.read_ne_of_hasShortIndices {line : String} (h : HasShortIndices line) :
    read line ≠ .error .indexTooLong := by
  cases hr : readWritten line.toList with
  | error fault =>
    rw [read,hr]
    intro he
    cases he
  | ok written =>
    rw [read_of_readWritten hr]
    refine WrittenCommand.value_ne_indexTooLong ?_
    intro digits hm
    have hd := isDigitRun_of_readWritten hr hm
    exact exists_indexOfDigits hd.nonempty hd.digit (h written hr digits hm)

/-- A line with short numbers has short indices. -/
theorem HasShortNumbers.hasShortIndices {line : String} (h : HasShortNumbers line.toList) :
    HasShortIndices line :=
  fun _ hr digits hm => h digits (isDigitRun_of_readWritten hr hm)

end BoxedDeduction
