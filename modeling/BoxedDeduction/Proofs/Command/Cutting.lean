import BoxedDeduction.Proofs.Command.Grammar

/-!
# Cutting a text into tokens

The scanner looks only for the tokens that may follow the one before. Where all tokens may
follow it finds the longest one. Where an operand must follow it knows no arrow, but then
nothing can be read behind the minus, so a text whose tokens are all found is cut in the same way as
without looking back. Conversely, a text that is cut into tokens each of which may follow the
one before is scanned into these tokens.
-/

namespace BoxedDeduction

/-! ## Scanning one token -/

/-- A name is scanned to its end. -/
theorem scan?_name {mode : ScanMode} {first : Char} {later : List Char}
    (hf : isNameStart first = true) (hl : ∀ c ∈ later, isNameLetter c = true) (rest : List Char) :
    scan? mode (first :: (later ++ rest)) =
      some (.name (String.ofList (first :: (later ++ rest.takeWhile isNameLetter))),
        (later ++ rest.takeWhile isNameLetter).length + 1) := by
  rw [scan?,if_pos hf,List.takeWhile_append_of_pos hl]
  rfl

/-- The codes of letters of the basic alphabet. -/
theorem range_of_isAlpha {c : Char} (h : c.isAlpha = true) :
    65 ≤ c.toNat ∧ c.toNat ≤ 90 ∨ 97 ≤ c.toNat ∧ c.toNat ≤ 122 := by
  have hc : (c.isUpper || c.isLower) = true := h
  rcases (Bool.or_eq_true _ _).mp hc with hu | hl
  · exact Or.inl (of_decide_eq_true hu)
  · have hb := (Bool.and_eq_true _ _).mp hl
    exact Or.inr ⟨of_decide_eq_true hb.1, of_decide_eq_true hb.2⟩

/-- The codes of digits. -/
theorem range_of_isDigit {c : Char} (h : c.isDigit = true) : 48 ≤ c.toNat ∧ c.toNat ≤ 57 := by
  have hb := (Bool.and_eq_true _ _).mp h
  exact ⟨of_decide_eq_true hb.1, of_decide_eq_true hb.2⟩

/-- A digit begins no name. -/
theorem isNameStart_of_isDigit {c : Char} (h : c.isDigit = true) : isNameStart c = false := by
  have hd := range_of_isDigit h
  have hu : c ≠ '_' := by
    rintro rfl
    exact absurd hd.2 (by decide)
  have ha : c.isAlpha = false := by
    rw [Bool.eq_false_iff]
    intro ha
    have hr := range_of_isAlpha ha
    omega
  rw [isNameStart,ha,Bool.false_or,beq_eq_false_iff_ne]
  exact hu

/-- The first letter of a name may stand later in one. -/
theorem isNameLetter_of_isNameStart {c : Char} (h : isNameStart c = true) :
    isNameLetter c = true := by
  simp only [isNameStart, isNameLetter, Char.isAlphanum, Bool.or_eq_true] at h ⊢
  rcases h with h | h
  · exact Or.inl (Or.inl h)
  · exact Or.inr h

/-- Digits may stand in names. -/
theorem isNameLetter_of_isDigit {c : Char} (h : c.isDigit = true) : isNameLetter c = true := by
  simp only [isNameLetter, Char.isAlphanum, h, Bool.or_true, Bool.true_or]

/-- A letter of names is none of the other characters. -/
theorem ne_of_isNameLetter {c d : Char} (h : isNameLetter c = true) (hd : isNameLetter d = false) :
    c ≠ d := by
  rintro rfl
  rw [h] at hd
  cases hd

/-- An index is scanned to its end. -/
theorem scan?_index {mode : ScanMode} (hm : mode ≠ .operand) {first : Char} {later : List Char}
    (hf : first.isDigit = true) (hl : ∀ c ∈ later, c.isDigit = true) (rest : List Char) :
    scan? mode (first :: (later ++ rest)) =
      some (.index (first :: (later ++ rest.takeWhile Char.isDigit)),
        (later ++ rest.takeWhile Char.isDigit).length + 1) := by
  have hn : ¬isNameStart first = true := by
    rw [isNameStart_of_isDigit hf]
    exact Bool.false_ne_true
  rw [scan?,if_neg hn,if_pos ⟨hm, hf⟩,List.takeWhile_append_of_pos hl]
  rfl

/-- The signs of a token begin neither names nor indices, and they are scanned as this token. -/
theorem sign?_of_mem_signs {token : Token} {c : Char} (h : c ∈ token.signs) :
    isNameStart c = false ∧ c.isDigit = false ∧ sign? .continuation c = some token := by
  have hall : (token.signs.all fun c =>
      !isNameStart c && !c.isDigit && sign? .continuation c == some token) = true := by
    cases token with
    | name text | index digits => rfl
    | bottom | openParen | closeParen | neg | and | or | imply => decide
  simpa [and_assoc] using List.all_eq_true.mp hall c h

/-- What is written for a token is scanned as this token. -/
theorem Token.Written.scan?_eq {token : Token} {lexeme : List Char} (h : token.Written lexeme) :
    scan? .continuation lexeme = some (token, lexeme.length) := by
  cases h with
  | name hf hl =>
    have hs := @scan?_name .continuation _ _ hf hl []
    rw [List.takeWhile_nil,List.append_nil] at hs
    exact hs
  | index hf hl =>
    have hs := @scan?_index .continuation ScanMode.noConfusion _ _ hf hl []
    rw [List.takeWhile_nil,List.append_nil] at hs
    exact hs
  | sign h =>
    obtain ⟨hn, hd, hs⟩ := sign?_of_mem_signs h
    simp [scan?, hn, hd, hs]
  | arrow => rfl

/-- Letters are written for one token only. -/
theorem Token.Written.unique {token other : Token} {lexeme : List Char}
    (h : token.Written lexeme) (ho : other.Written lexeme) : token = other := by
  have hs := h.scan?_eq
  rw [ho.scan?_eq] at hs
  cases hs
  rfl

/-- A token without its letters. -/
def Token.terminal : Token → Token
  | .name _ => .name ""
  | .index _ => .index []
  | token => token

/-- Whether a token is looked for. -/
def ScanMode.admits : ScanMode → Token → Bool
  | .continuation, _ => true
  | _, .name _ | _, .bottom | _, .openParen | _, .neg => true
  | .argument, .index _ => true
  | _, _ => false

/-- Behind an operand all tokens are looked for. -/
theorem ScanMode.admits_continuation (token : Token) :
    ScanMode.continuation.admits token = true := rfl

/-- A sign is scanned as its token where this token is looked for. -/
theorem sign?_of_admits {mode : ScanMode} {token : Token} {c : Char} (h : c ∈ token.signs)
    (hm : mode.admits token = true) : sign? mode c = some token := by
  have hall : (token.signs.all fun c => sign? mode c == some token) = true := by
    cases token with
    | name text | index digits => rfl
    | bottom | openParen | closeParen | neg | and | or | imply =>
      revert hm
      cases mode <;> decide
  exact eq_of_beq (List.all_eq_true.mp hall c h)

/-- Where a token that is looked for is written, one is scanned that is at least as long. It is of
the same sort, or the arrow that the token begins. -/
theorem Token.Written.exists_scan? {mode : ScanMode} {token : Token} {lexeme : List Char}
    (h : token.Written lexeme) (hm : mode.admits token = true) (rest : List Char) :
    ∃ found width, scan? mode (lexeme ++ rest) = some (found, width) ∧ lexeme.length ≤ width ∧
      (found.terminal = token.terminal ∨ found = .imply) := by
  cases h with
  | name hf hl =>
    refine ⟨_, _, scan?_name hf hl rest, ?_, Or.inl rfl⟩
    rw [List.length_cons,List.length_append]
    omega
  | index hf hl =>
    have ho : mode ≠ .operand := by
      rintro rfl
      cases hm
    refine ⟨_, _, scan?_index ho hf hl rest, ?_, Or.inl rfl⟩
    rw [List.length_cons,List.length_append]
    omega
  | @sign token c h =>
    obtain ⟨hn, hd, -⟩ := sign?_of_mem_signs h
    -- A minus may begin an arrow.
    by_cases ha : mode = .continuation ∧ c = '-' ∧ rest.head? = some '>'
    · refine ⟨.imply, 2, ?_, Nat.le_succ 1, Or.inr rfl⟩
      obtain ⟨rfl, rfl, hr⟩ := ha
      simp [scan?, hn, hr]
    · refine ⟨token, 1, ?_, Nat.le_refl 1, Or.inl rfl⟩
      simp [scan?, hn, hd, ha, sign?_of_admits h hm]
  | arrow =>
    obtain rfl : mode = .continuation := by cases mode <;> first | rfl | cases hm
    exact ⟨.imply, 2, rfl, Nat.le_refl 2, Or.inr rfl⟩

/-- A sign that is looked for is a sign of the token that it is scanned as. -/
theorem mem_signs_of_sign? {mode : ScanMode} {c : Char} {token : Token}
    (h : sign? mode c = some token) : c ∈ token.signs := by
  have ho : operandSign? c = some token → c ∈ token.signs := by
    intro h
    unfold operandSign? at h
    split at h <;> cases h <;> decide
  have hf : followingSign? c = some token → c ∈ token.signs := by
    intro h
    unfold followingSign? at h
    split at h <;> cases h <;> decide
  unfold sign? at h
  split at h
  · rcases Option.or_eq_some_iff.mp h with h | ⟨-, h⟩
    · exact hf h
    · exact ho h
  · exact ho h

/-- What is scanned is written at the beginning of the text. -/
theorem written_of_scan? {mode : ScanMode} {cs : List Char} {token : Token} {width : Nat}
    (h : scan? mode cs = some (token, width)) :
    ∃ lexeme rest, cs = lexeme ++ rest ∧ lexeme.length = width ∧ token.Written lexeme := by
  cases cs with
  | nil => cases h
  | cons c rest =>
    rw [scan?] at h
    split at h
    · next hf =>
      cases h
      refine ⟨c :: rest.takeWhile isNameLetter, rest.dropWhile isNameLetter, ?_, rfl, ?_⟩
      · rw [List.cons_append,List.takeWhile_append_dropWhile]
      · exact .name hf fun d hd => List.all_eq_true.mp List.all_takeWhile d hd
    · split at h
      · next hf =>
        cases h
        refine ⟨c :: rest.takeWhile Char.isDigit, rest.dropWhile Char.isDigit, ?_, rfl, ?_⟩
        · rw [List.cons_append,List.takeWhile_append_dropWhile]
        · exact .index hf.2 fun d hd => List.all_eq_true.mp List.all_takeWhile d hd
      · split at h
        · next ha =>
          obtain ⟨-, rfl, hr⟩ := ha
          cases h
          obtain ⟨later, rfl⟩ := List.head?_eq_some_iff.mp hr
          exact ⟨['-', '>'], later, rfl, rfl, .arrow⟩
        · obtain ⟨found, hs, he⟩ := Option.map_eq_some_iff.mp h
          cases he
          exact ⟨[c], rest, rfl, rfl, .sign (mem_signs_of_sign? hs)⟩

/-- What is scanned is looked for. -/
theorem admits_of_scan? {mode : ScanMode} {cs : List Char} {token : Token} {width : Nat}
    (h : scan? mode cs = some (token, width)) : mode.admits token = true := by
  by_cases hc : mode = .continuation
  · rw [hc]
    rfl
  · cases cs with
    | nil => cases h
    | cons c rest =>
      rw [scan?] at h
      split at h
      · cases h
        cases mode <;> rfl
      · split at h
        · next hd =>
          cases h
          cases mode <;> first | exact absurd rfl hd.1 | rfl
        · rw [if_neg fun ha => hc ha.1,sign?,if_neg hc] at h
          obtain ⟨found, hs, he⟩ := Option.map_eq_some_iff.mp h
          cases he
          unfold operandSign? at hs
          split at hs <;> cases hs <;> cases mode <;> rfl

/-- Where all tokens are looked for, the scanned token is the longest. -/
theorem longest_of_scan? {cs lexeme : List Char} {token : Token}
    (h : scan? .continuation cs = some (token, lexeme.length)) : Longest lexeme cs := by
  rintro other longer hw ⟨rest, rfl⟩
  obtain ⟨found, width, hs, hl, -⟩ := hw.exists_scan? (ScanMode.admits_continuation other) rest
  rw [h] at hs
  cases hs
  exact hl

/-- Where all tokens are looked for, the longest token is scanned. -/
theorem scan?_of_longest {token : Token} {lexeme rest : List Char} (hw : token.Written lexeme)
    (hl : Longest lexeme (lexeme ++ rest)) :
    scan? .continuation (lexeme ++ rest) = some (token, lexeme.length) := by
  obtain ⟨found, width, hs, hle, -⟩ := hw.exists_scan? (ScanMode.admits_continuation token) rest
  obtain ⟨longer, later, he, rfl, hf⟩ := written_of_scan? hs
  have hp : longer <+: lexeme ++ rest := ⟨later, he.symm⟩
  have hge : longer.length ≤ lexeme.length := hl found longer hf hp
  have heq : lexeme = longer :=
    (List.prefix_of_prefix_length_le (List.prefix_append lexeme rest) hp hle).eq_of_length
      (Nat.le_antisymm hle hge)
  subst heq
  rw [hs,hw.unique hf]

/-! ## What is looked for after each token -/

namespace ScanMode

/-- Whether tokens may follow each other. -/
def Admits : ScanMode → List Token → Prop
  | _, [] => True
  | mode, token :: rest => mode.admits token = true ∧ token.nextMode.Admits rest

/-- Tokens that are read one after the other may follow each other, if in each state exactly the
tokens that may be read are looked for. -/
theorem admits_of_foldlM {State : Type} {step : State → Token → Option State}
    (mode : State → ScanMode) (hstep : ∀ {state next : State} {token : Token},
      step state token = some next →
        (mode state).admits token = true ∧ token.nextMode = mode next)
    {state last : State} {tokens : List Token} (h : tokens.foldlM step state = some last) :
    (mode state).Admits tokens := by
  induction tokens generalizing state with
  | nil => trivial
  | cons token rest ih =>
    rw [List.foldlM_cons] at h
    obtain ⟨next, hs, hr⟩ := Option.bind_eq_some_iff.mp h
    obtain ⟨ha, hm⟩ := hstep hs
    refine ⟨ha, ?_⟩
    rw [hm]
    exact ih hr

end ScanMode

/-- A token that is looked for is scanned as if all were looked for. -/
theorem scan?_of_admits {mode : ScanMode} {cs : List Char} {token : Token} {width : Nat}
    (h : scan? .continuation cs = some (token, width)) (hm : mode.admits token = true) :
    scan? mode cs = some (token, width) := by
  by_cases hc : mode = .continuation
  · rw [hc]
    exact h
  · obtain ⟨lexeme, rest, rfl, rfl, hw⟩ := written_of_scan? h
    cases hw with
    | name hf hl =>
      rw [List.cons_append,scan?_name hf hl] at h ⊢
      exact h
    | index hf hl =>
      have ho : mode ≠ .operand := by
        rintro rfl
        cases hm
      rw [List.cons_append,scan?_index ScanMode.noConfusion hf hl] at h
      rw [List.cons_append,scan?_index ho hf hl]
      exact h
    | @sign token c hs =>
      obtain ⟨hn, hd, -⟩ := sign?_of_mem_signs hs
      simp [scan?, hn, hd, hc, sign?_of_admits hs hm]
    | arrow => cases mode <;> first | exact absurd rfl hc | cases hm

/-- What is scanned while only some tokens are looked for is scanned while all are, unless the
text begins with an arrow. -/
theorem scan?_continuation {mode : ScanMode} {cs : List Char} {token : Token} {width : Nat}
    (h : scan? mode cs = some (token, width)) :
    scan? .continuation cs = some (token, width) ∨
      token = .neg ∧ width = 1 ∧ ∃ rest, cs = '-' :: '>' :: rest := by
  obtain ⟨lexeme, rest, rfl, rfl, hw⟩ := written_of_scan? h
  cases hw with
  | name hf hl =>
    rw [List.cons_append,scan?_name hf hl] at h ⊢
    exact Or.inl h
  | @index first later hf hl =>
    have ho : mode ≠ .operand := by
      rintro rfl
      -- A digit would have to be a sign.
      have hs : ∃ sign, sign? .operand first = some sign ∧ sign = .index (first :: later) ∧
          later = [] := by
        simpa [scan?, isNameStart_of_isDigit hf] using h
      obtain ⟨_, hs, rfl, -⟩ := hs
      cases mem_signs_of_sign? hs
    rw [List.cons_append,scan?_index ho hf hl] at h
    rw [List.cons_append,scan?_index ScanMode.noConfusion hf hl]
    exact Or.inl h
  | @sign token c hs =>
    obtain ⟨hn, hd, hm⟩ := sign?_of_mem_signs hs
    by_cases ha : c = '-' ∧ rest.head? = some '>'
    · obtain ⟨rfl, hr⟩ := ha
      obtain ⟨later, rfl⟩ := List.head?_eq_some_iff.mp hr
      have hu : token = .neg := (Token.Written.sign hs).unique (.sign (by decide))
      exact Or.inr ⟨hu, rfl, later, rfl⟩
    · exact Or.inl (by simp [scan?, hn, hd, hm, ha])
  | arrow => exact Or.inl rfl

/-! ## Blanks -/

/-- No token begins with a blank. -/
theorem scan?_of_isTokenGap {mode : ScanMode} {c : Char} {rest : List Char}
    (hc : Blank.isTokenGap c = true) : scan? mode (c :: rest) = none := by
  have hall : ∀ mode : ScanMode, isNameStart c = false ∧ c.isDigit = false ∧ c ≠ '-' ∧
      sign? mode c = none := by
    simp only [Blank.isTokenGap, Bool.or_eq_true, beq_iff_eq] at hc
    rintro (_ | _ | _) <;> rcases hc with (((rfl | rfl) | rfl) | rfl) | rfl <;> decide
  obtain ⟨hn, hd, ha, hs⟩ := hall mode
  simp [scan?, hn, hd, ha, hs]

/-- What is scanned does not begin with a blank, so nothing is skipped in front of it. -/
theorem skipGap_of_scan? {mode : ScanMode} {cs : List Char} {token : Token} {width : Nat}
    (h : scan? mode cs = some (token, width)) (column : Nat) : skipGap column cs = (column, cs) := by
  cases cs with
  | nil => cases h
  | cons c rest =>
    have hg : ¬Blank.isTokenGap c = true := by
      intro hg
      rw [scan?_of_isTokenGap hg] at h
      cases h
    have hn : c ≠ '\n' := by
      rintro rfl
      exact hg (by decide)
    rw [skipGap,if_neg hn,if_neg hg]

/-- A blank is skipped. -/
theorem exists_skipGap {c : Char} (hc : Blank.isTokenGap c = true) (column : Nat)
    (rest : List Char) : ∃ next, skipGap column (c :: rest) = skipGap next rest := by
  rw [skipGap]
  split
  · exact ⟨1, rfl⟩
  · exact ⟨column + 1, rfl⟩

/-- Skipped blanks make no difference to the tokens. -/
theorem Cut.of_skipGap {cs : List Char} {tokens : List Token} {column : Nat}
    (h : Cut (skipGap column cs).2 tokens) : Cut cs tokens := by
  induction cs generalizing column with
  | nil => exact h
  | cons c rest ih =>
    rw [skipGap] at h
    split at h
    · next hn =>
      subst hn
      exact .gap (by decide) (ih h)
    · split at h
      · next hg => exact .gap hg (ih h)
      · exact h

/-! ## Scanning a whole text -/

/-- A blank in front of a text makes no difference to its tokens. -/
theorem exists_tokenize_gap {c : Char} (hc : Blank.isTokenGap c = true) (mode : ScanMode)
    (column : Nat) (rest : List Char) :
    ∃ next, tokenize mode column (c :: rest) = tokenize mode next rest := by
  obtain ⟨next, hn⟩ := exists_skipGap hc column rest
  refine ⟨next, ?_⟩
  rw [tokenize,tokenize.eq_def mode next,hn]

/-- A token that is scanned is cut off. -/
theorem tokenize_of_scan? {mode : ScanMode} {cs : List Char} {token : Token} {width : Nat}
    (h : scan? mode cs = some (token, width)) (column : Nat) :
    tokenize mode column cs =
      let rest := tokenize token.nextMode (column + width) (cs.drop width)
      ⟨⟨token, column⟩ :: rest.tokens, rest.ending⟩ := by
  have hg := skipGap_of_scan? h column
  rw [tokenize,hg]
  split
  · next found hs =>
    rw [h] at hs
    cases hs
    rfl
  · next hs =>
    rw [h] at hs
    cases hs

/-- The tokens of a scanned text without their columns. -/
def Scan.plain (scan : Scan) : List Token := scan.tokens.map LocatedToken.token

/-- A text that is cut into tokens that may follow each other is scanned into these tokens. -/
theorem Cut.tokenize {cs : List Char} {tokens : List Token} (h : Cut cs tokens) {mode : ScanMode}
    (hm : mode.Admits tokens) (column : Nat) :
    (tokenize mode column cs).plain = tokens ∧
      (BoxedDeduction.tokenize mode column cs).ending = .complete := by
  induction h generalizing mode column with
  | done =>
    rw [BoxedDeduction.tokenize]
    exact ⟨rfl, rfl⟩
  | gap hc _ ih =>
    obtain ⟨next, hn⟩ := exists_tokenize_gap hc mode column _
    rw [hn]
    exact ih hm next
  | @token token lexeme rest tokens hw hl _ ih =>
    have hs := scan?_of_admits (scan?_of_longest hw hl) hm.1
    obtain ⟨hp, he⟩ := ih hm.2 (column + lexeme.length)
    rw [tokenize_of_scan? hs column,List.drop_left]
    refine ⟨?_, he⟩
    rw [Scan.plain,List.map_cons]
    exact congrArg (token :: ·) hp

/-- Nothing begins with an angle. -/
theorem tokenize_angle (column : Nat) (rest : List Char) :
    (tokenize .operand column ('>' :: rest)).ending ≠ .complete := by
  have hs : scan? .operand ('>' :: rest) = none := by simp [scan?, isNameStart, sign?, operandSign?]
  have hg : skipGap column ('>' :: rest) = (column, '>' :: rest) := by
    rw [skipGap,if_neg (by decide),if_neg (by decide)]
  rw [tokenize,hg]
  split
  · next hf =>
    rw [hs] at hf
    cases hf
  · rw [if_neg (List.cons_ne_nil _ _)]
    exact ScanEnd.noConfusion

/-- A text whose tokens are all found is cut into these tokens. -/
theorem cut_of_tokenize {mode : ScanMode} {column : Nat} {cs : List Char}
    (h : (tokenize mode column cs).ending = .complete) :
    Cut cs (tokenize mode column cs).plain := by
  fun_induction tokenize mode column cs with
  | case1 mode column cs token width hs start rest ih =>
    refine @Cut.of_skipGap cs _ column ?_
    rcases scan?_continuation hs with hc | ⟨rfl, rfl, later, ha⟩
    · obtain ⟨lexeme, behind, he, rfl, hw⟩ := written_of_scan? hc
      have hl := longest_of_scan? hc
      have hr : Cut ((skipGap column cs).2.drop lexeme.length) rest.plain := ih h
      rw [he,List.drop_left] at hr
      rw [he] at hl ⊢
      exact .token hw hl hr
    · -- Behind a minus in front of an angle nothing is found.
      have hr : (tokenize .operand (start + 1) ((skipGap column cs).2.drop 1)).ending =
          .complete := h
      rw [ha] at hr
      exact absurd hr (tokenize_angle _ later)
  | case2 mode column cs hs he =>
    refine @Cut.of_skipGap cs _ column ?_
    rw [he]
    exact .done
  | case3 mode column cs hs he => cases h

end BoxedDeduction
