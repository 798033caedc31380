import BoxedDeduction.Proofs.Command.Printing

/-!
# Every printed parenthesis is needed

A formula may be written with fewer parentheses than its printed form has, for the negation of an
implication is also an implication into falsity, but then an arrow takes their place. No text
that spells a formula has fewer parentheses and arrows together than its printed form. Leaving
out matching parentheses adds no arrow, so the text that is left never spells the formula again.
-/

namespace BoxedDeduction

/-! ## Leaving out parentheses -/

/-- How a number of matching pairs of parentheses is left out of a text. The parentheses of the
text, and those of each part in parentheses, match. -/
inductive Unparenthesized : Nat → List Char → List Char → Prop where
  /-- The empty text has no parentheses. -/
  | done : Unparenthesized 0 [] []
  /-- All other letters stay. -/
  | letter {count : Nat} {c : Char} {text left : List Char} (ho : c ≠ '(') (hc : c ≠ ')')
    (h : Unparenthesized count text left) : Unparenthesized count (c :: text) (c :: left)
  /-- A matching pair stays. -/
  | keep {inside behind : Nat} {inner outer inner' outer' : List Char}
    (hi : Unparenthesized inside inner inner') (ho : Unparenthesized behind outer outer') :
    Unparenthesized (inside + behind) ('(' :: inner ++ ')' :: outer)
      ('(' :: inner' ++ ')' :: outer')
  /-- A matching pair is left out. -/
  | leave {inside behind : Nat} {inner outer inner' outer' : List Char}
    (hi : Unparenthesized inside inner inner') (ho : Unparenthesized behind outer outer') :
    Unparenthesized (inside + behind + 1) ('(' :: inner ++ ')' :: outer) (inner' ++ outer')

/-- Whether the parentheses of a text match. -/
def Balanced (text : List Char) : Prop := Unparenthesized 0 text text

/-- A text without parentheses is balanced. -/
theorem balanced_of_notMem {text : List Char} (h : '(' ∉ text ∧ ')' ∉ text) : Balanced text := by
  induction text with
  | nil => exact .done
  | cons c rest ih =>
    obtain ⟨ho, hor⟩ := List.ne_and_not_mem_of_not_mem_cons h.1
    obtain ⟨hc, hcr⟩ := List.ne_and_not_mem_of_not_mem_cons h.2
    exact .letter ho.symm hc.symm (ih ⟨hor, hcr⟩)

/-- Pairs are left out of one text after the other. -/
theorem Unparenthesized.append {first second : Nat} {front back front' back' : List Char}
    (hf : Unparenthesized first front front') (hb : Unparenthesized second back back') :
    Unparenthesized (first + second) (front ++ back) (front' ++ back') := by
  induction hf with
  | done =>
    rw [Nat.zero_add]
    exact hb
  | letter ho hc _ ih => exact .letter ho hc ih
  | keep hi _ _ ih =>
    have hk := Unparenthesized.keep hi ih
    rw [← Nat.add_assoc] at hk
    simpa only [List.cons_append, List.append_assoc] using hk
  | leave hi _ _ ih =>
    have hl := Unparenthesized.leave hi ih
    rw [← Nat.add_assoc,Nat.add_right_comm] at hl
    simpa only [List.cons_append, List.append_assoc] using hl

/-- Balanced texts one after the other are balanced. -/
theorem Balanced.append {front back : List Char} (hf : Balanced front) (hb : Balanced back) :
    Balanced (front ++ back) := Unparenthesized.append hf hb

/-- A balanced text is balanced with parentheses around it. -/
theorem Balanced.parenthesized {text : String} (h : Balanced text.toList) (needed : Bool) :
    Balanced (parenthesized needed text).toList := by
  cases needed with
  | false => exact h
  | true =>
    have hk : Unparenthesized 0 ('(' :: text.toList ++ [')']) ('(' :: text.toList ++ [')']) :=
      Unparenthesized.keep h .done
    simpa [Balanced, BoxedDeduction.parenthesized, String.toList_append] using hk

/-! ## Parentheses and arrows -/

/-- Whether a letter opens a parenthesis or ends an arrow. -/
def isCounted (c : Char) : Bool := c == '(' || c == '>' || c == '→' || c == '⇒'

/-- Whether a token opens a parenthesis or is an arrow. -/
def Token.isCounted : Token → Bool
  | .openParen | .imply => true
  | _ => false

/-- The letters of names are not counted. -/
theorem isCounted_of_isNameLetter {c : Char} (h : isNameLetter c = true) : isCounted c = false := by
  simp only [isCounted, Bool.or_eq_false_iff, beq_eq_false_iff_ne]
  exact ⟨⟨⟨ne_of_isNameLetter h (by decide), ne_of_isNameLetter h (by decide)⟩,
    ne_of_isNameLetter h (by decide)⟩, ne_of_isNameLetter h (by decide)⟩

/-- In a text of letters of names nothing is counted. -/
theorem countP_isCounted_of_forall {text : List Char} (h : ∀ c ∈ text, isNameLetter c = true) :
    text.countP isCounted = 0 := by
  rw [List.countP_eq_zero]
  intro c hc
  rw [isCounted_of_isNameLetter (h c hc)]
  exact Bool.false_ne_true

/-- A written token is counted once, or not at all. -/
theorem Token.Written.countP_isCounted {token : Token} {lexeme : List Char}
    (h : token.Written lexeme) :
    lexeme.countP BoxedDeduction.isCounted = [token].countP isCounted := by
  cases h with
  | name hf hl =>
    refine countP_isCounted_of_forall ?_
    exact List.forall_mem_cons.mpr ⟨isNameLetter_of_isNameStart hf, hl⟩
  | index hf hl =>
    refine countP_isCounted_of_forall ?_
    refine List.forall_mem_cons.mpr ⟨isNameLetter_of_isDigit hf, ?_⟩
    exact fun c hc => isNameLetter_of_isDigit (hl c hc)
  | @sign token c hs =>
    have hall : (token.signs.all fun c =>
        [c].countP BoxedDeduction.isCounted == [token].countP isCounted) = true := by
      cases token with
      | name text | index digits => rfl
      | bottom | openParen | closeParen | neg | and | or | imply => decide
    exact eq_of_beq (List.all_eq_true.mp hall c hs)
  | arrow => rfl

/-- The parentheses and arrows of a text are those of its tokens. -/
theorem Cut.countP_isCounted {cs : List Char} {tokens : List Token} (h : Cut cs tokens) :
    cs.countP BoxedDeduction.isCounted = tokens.countP Token.isCounted := by
  induction h with
  | done => rfl
  | @gap c rest tokens hc _ ih =>
    have hn : BoxedDeduction.isCounted c = false := by
      simp only [Blank.isTokenGap, Bool.or_eq_true, beq_iff_eq] at hc
      rcases hc with (((rfl | rfl) | rfl) | rfl) | rfl <;> decide
    rw [List.countP_cons_of_neg (by rw [hn]; exact Bool.false_ne_true),ih]
  | @token token lexeme rest tokens hw _ _ ih =>
    rw [List.countP_append,hw.countP_isCounted,ih,← List.countP_append,List.singleton_append]

/-- Every pair that is left out was counted, and nothing else is lost. -/
theorem Unparenthesized.countP_isCounted {count : Nat} {text left : List Char}
    (h : Unparenthesized count text left) :
    text.countP isCounted = left.countP isCounted + count := by
  have hopen : isCounted '(' = true := by decide
  have hclose : ¬isCounted ')' = true := by decide
  induction h with
  | done => rfl
  | @letter count c text left _ _ _ ih =>
    rw [List.countP_cons,List.countP_cons,ih]
    omega
  | keep _ _ ihi iho =>
    simp only [List.cons_append, List.countP_cons_of_pos hopen, List.countP_append,
      List.countP_cons_of_neg hclose, ihi, iho]
    omega
  | leave _ _ ihi iho =>
    simp only [List.cons_append, List.countP_cons_of_pos hopen, List.countP_append,
      List.countP_cons_of_neg hclose, ihi, iho]
    omega

/-! ## Printed formulas -/

/-- Parentheses around a text are counted once. -/
theorem countP_parenthesized (needed : Bool) (text : String) :
    (parenthesized needed text).toList.countP isCounted =
      text.toList.countP isCounted + if needed then 1 else 0 := by
  cases needed with
  | false => rfl
  | true =>
    have ht : (parenthesized true text).toList = '(' :: (text.toList ++ [')']) := by
      simp [parenthesized, String.toList_append]
    rw [ht,List.countP_cons_of_pos (by decide),List.countP_append]
    rfl

namespace Connectives

variable {table : Connectives}

/-- A connective is counted as its token is. -/
theorem countP_of_joins {letters : List Char} {token : Token} (h : Joins letters token) :
    letters.countP isCounted = [token].countP Token.isCounted := by
  obtain ⟨hc, -⟩ := h [] [] .done
  rw [List.append_nil] at hc
  exact hc.countP_isCounted

/-- The sign of negation is not counted. -/
theorem IsReadable.countP_neg (ht : table.IsReadable) : table.neg.toList.countP isCounted = 0 := by
  obtain ⟨c, hc, he⟩ := ht.neg
  rw [he]
  exact (Token.Written.sign hc).countP_isCounted

/-- Falsity is not counted. -/
theorem IsReadable.countP_bottom (ht : table.IsReadable) :
    table.bottom.toList.countP isCounted = 0 := by
  obtain ⟨token, hs, hd⟩ := ht.bottom
  rw [hs.cut.countP_isCounted]
  generalize ht' : [token] = tokens at hd ⊢
  cases hd with
  | word | bottom => rfl
  | group => simp at ht'

end Connectives

/-- How tightly an operand of a nonterminal binds if it needs no parentheses. -/
def Nonterminal.operandStrength (kind : Nonterminal) : Nat := min kind.strength 4

namespace Proposition

variable {table : Connectives} {kind : Nonterminal} {p lhs rhs : Proposition}

/-- The count of the printed form of a formula in the place of a nonterminal, with the parentheses
that it needs there. -/
def countAt (table : Connectives) (kind : Nonterminal) (p : Proposition) : Nat :=
  (p.print table).toList.countP isCounted + if p.strength < kind.operandStrength then 1 else 0

/-- In a looser place no more is counted. -/
theorem countAt_mono {tight loose : Nonterminal} (p : Proposition)
    (hs : loose.strength ≤ tight.strength) : p.countAt table loose ≤ p.countAt table tight := by
  have hl : loose.operandStrength ≤ tight.operandStrength := by
    simp only [Nonterminal.operandStrength]
    omega
  rw [countAt,countAt]
  split <;> split <;> omega

/-- Parentheses are counted once in every place. -/
theorem countAt_le_succ (table : Connectives) (p : Proposition) (kind other : Nonterminal) :
    p.countAt table kind ≤ p.countAt table other + 1 := by
  rw [countAt,countAt]
  split <;> split <;> omega

/-- What binds tightest needs no parentheses. -/
theorem countAt_of_tightest (h : p.strength = 4) (kind : Nonterminal) :
    p.countAt table kind = (p.print table).toList.countP isCounted := by
  have hn : ¬p.strength < kind.operandStrength := by
    simp only [Nonterminal.operandStrength]
    omega
  rw [countAt,if_neg hn,Nat.add_zero]

/-- A formula needs no parentheses in its own place. -/
theorem countAt_of_strength (h : kind.strength = p.strength) :
    p.countAt table kind = (p.print table).toList.countP isCounted := by
  have hn : ¬p.strength < kind.operandStrength := by
    simp only [Nonterminal.operandStrength]
    omega
  rw [countAt,if_neg hn,Nat.add_zero]

/-- Falsity is not counted. -/
theorem countAt_bottom (ht : table.IsReadable) : bottom.countAt table kind = 0 := by
  rw [countAt_of_tightest rfl,print,ht.countP_bottom]

/-- A name that can be read is not counted. -/
theorem countAt_symbol (ht : table.IsReadable) {name : String} (h : isName name = true) :
    (symbol name).countAt table kind = 0 := by
  have hc := (spelled_name h).cut.countP_isCounted
  rw [countAt_of_tightest rfl,print,ht.symbol.1,ht.symbol.2,String.empty_append,
    String.append_empty,hc]
  rfl

/-- A negation is counted as its operand. -/
theorem countAt_negated (ht : table.IsReadable) :
    lhs.negated.countAt table kind = lhs.countAt table .negProp := by
  rw [countAt_of_tightest rfl,negated,print,String.toList_append,List.countP_append,ht.countP_neg,
    countP_parenthesized,Nat.zero_add,countAt]
  simp only [decide_eq_true_eq]
  rfl

/-- An operand is counted as in the place of its nonterminal. -/
theorem countP_operand {needed : Prop} [Decidable needed]
    (h : needed ↔ p.strength < kind.operandStrength) :
    (parenthesized needed (p.print table)).toList.countP isCounted = p.countAt table kind := by
  simp only [countP_parenthesized, decide_eq_true_eq, countAt, h]

/-- The letters of a connective between two operands are counted one after the other. -/
theorem countP_connective (left sign right : String) :
    (left ++ sign ++ right).toList.countP isCounted = left.toList.countP isCounted +
      sign.toList.countP isCounted + right.toList.countP isCounted := by
  rw [String.toList_append,String.toList_append,List.countP_append,List.countP_append]

/-- A conjunction is counted as its operands. -/
theorem countAt_and (ht : table.IsReadable) : (and lhs rhs).countAt table .andProp =
    lhs.countAt table .andProp + rhs.countAt table .negProp := by
  have hl : (parenthesized (lhs.strength < 3) (lhs.print table)).toList.countP isCounted =
      lhs.countAt table .andProp := countP_operand Iff.rfl
  have hr : (parenthesized (rhs.strength ≤ 3) (rhs.print table)).toList.countP isCounted =
      rhs.countAt table .negProp := countP_operand Nat.lt_succ_iff.symm
  rw [countAt_of_strength rfl,print,countP_connective,Connectives.countP_of_joins ht.and,hl,hr]
  rfl

/-- A disjunction is counted as its operands. -/
theorem countAt_or (ht : table.IsReadable) : (or lhs rhs).countAt table .orProp =
    lhs.countAt table .orProp + rhs.countAt table .andProp := by
  have hl : (parenthesized (lhs.strength < 2) (lhs.print table)).toList.countP isCounted =
      lhs.countAt table .orProp := countP_operand Iff.rfl
  have hr : (parenthesized (rhs.strength ≤ 2) (rhs.print table)).toList.countP isCounted =
      rhs.countAt table .andProp := countP_operand Nat.lt_succ_iff.symm
  rw [countAt_of_strength rfl,print,countP_connective,Connectives.countP_of_joins ht.or,hl,hr]
  rfl

/-- An implication is counted as its sides and its arrow, unless it is printed as a negation. -/
theorem countAt_imply (ht : table.IsReadable) (hb : rhs ≠ .bottom) :
    (imply lhs rhs).countAt table .prop =
      lhs.countAt table .orProp + 1 + rhs.countAt table .prop := by
  have hl : (parenthesized (lhs.strength ≤ 1) (lhs.print table)).toList.countP isCounted =
      lhs.countAt table .orProp := countP_operand Nat.lt_succ_iff.symm
  have hr : (parenthesized (rhs.strength < 1) (rhs.print table)).toList.countP isCounted =
      rhs.countAt table .prop := countP_operand Iff.rfl
  have hs : Nonterminal.strength .prop = (imply lhs rhs).strength := by
    rw [strength]
    · rfl
    · exact hb
  rw [countAt_of_strength hs,print]
  · rw [countP_connective,Connectives.countP_of_joins ht.imply,hl,hr]
    rfl
  · exact hb

end Proposition

/-- No derivation of a formula has fewer parentheses and arrows together than its printed form. -/
theorem Derives.countAt_le {table : Connectives} (ht : table.IsReadable) {kind : Nonterminal}
    {tokens : List Token} {p : Proposition} (h : Derives kind tokens p) (hp : p.IsWritable) :
    p.countAt table kind ≤ tokens.countP Token.isCounted := by
  induction h with
  | symbol hn =>
    rw [Proposition.countAt_symbol ht (Proposition.isWritable_symbol.mp hp).1]
    exact Nat.zero_le _
  | word | bottom =>
    rw [Proposition.countAt_bottom ht]
    exact Nat.zero_le _
  | @group tokens p _ ih =>
    have hi := ih hp
    have ha := p.countAt_le_succ table .atom .prop
    have hc : (Token.openParen :: tokens ++ [Token.closeParen]).countP Token.isCounted =
        tokens.countP Token.isCounted + 1 := by
      rw [List.cons_append,List.countP_cons_of_pos rfl,List.countP_append]
      rfl
    omega
  | @ofAtom _ p _ ih => exact (ih hp : p.countAt table .atom ≤ _)
  | @ofNeg _ p _ ih =>
    have hm : p.countAt table .andProp ≤ p.countAt table .negProp := p.countAt_mono (by decide)
    exact Nat.le_trans hm (ih hp)
  | @ofAnd _ p _ ih =>
    have hm : p.countAt table .orProp ≤ p.countAt table .andProp := p.countAt_mono (by decide)
    exact Nat.le_trans hm (ih hp)
  | @ofOr _ p _ ih =>
    have hm : p.countAt table .prop ≤ p.countAt table .orProp := p.countAt_mono (by decide)
    exact Nat.le_trans hm (ih hp)
  | negation _ ih =>
    rw [Proposition.countAt_negated ht,List.countP_cons_of_neg Bool.false_ne_true]
    exact ih (Proposition.isWritable_imply.mp hp).1
  | conjunction _ _ ihl ihr =>
    obtain ⟨hl, hr⟩ := Proposition.isWritable_and.mp hp
    rw [Proposition.countAt_and ht,List.countP_append,List.countP_cons_of_neg Bool.false_ne_true]
    exact Nat.add_le_add (ihl hl) (ihr hr)
  | disjunction _ _ ihl ihr =>
    obtain ⟨hl, hr⟩ := Proposition.isWritable_or.mp hp
    rw [Proposition.countAt_or ht,List.countP_append,List.countP_cons_of_neg Bool.false_ne_true]
    exact Nat.add_le_add (ihl hl) (ihr hr)
  | @implication left right p q _ _ ihl ihr =>
    obtain ⟨hl, hr⟩ := Proposition.isWritable_imply.mp hp
    have hcl := ihl hl
    have hcr := ihr hr
    rw [List.countP_append,List.countP_cons_of_pos rfl]
    by_cases hb : q = .bottom
    · -- The arrow stands for the parentheses that the negation may need.
      subst hb
      have hn : (p.imply .bottom).countAt table .prop = p.countAt table .negProp :=
        Proposition.countAt_negated ht
      have hs := p.countAt_le_succ table .negProp .orProp
      omega
    · rw [Proposition.countAt_imply ht hb]
      omega

/-- No text that spells a formula has fewer parentheses and arrows together than its printed
form. -/
theorem Spells.countP_print_le {table : Connectives} (ht : table.IsReadable) {cs : List Char}
    {p : Proposition} (h : Spells cs p) :
    (p.print table).toList.countP isCounted ≤ cs.countP isCounted := by
  obtain ⟨tokens, hc, hd⟩ := h
  rw [hc.countP_isCounted]
  have hle := hd.countAt_le ht (Spells.isWritable ⟨tokens, hc, hd⟩)
  rw [Proposition.countAt] at hle
  omega

/-! ## Parentheses of printed formulas -/

/-- Whether a table writes no parentheses. -/
def Connectives.IsFlat (table : Connectives) : Prop :=
  ∀ sign ∈ [table.bottom, table.neg, table.and, table.or, table.imply],
    '(' ∉ sign.toList ∧ ')' ∉ sign.toList

namespace Proposition

variable {table : Connectives}

/-- A connective between two balanced operands leaves them balanced. -/
theorem balanced_connective {left sign right : String} (hl : Balanced left.toList)
    (hs : Balanced sign.toList) (hr : Balanced right.toList) (first later : Bool) :
    Balanced (parenthesized first left ++ sign ++ parenthesized later right).toList := by
  rw [String.toList_append,String.toList_append]
  exact ((hl.parenthesized first).append hs).append (hr.parenthesized later)

/-- The parentheses of a printed formula match. -/
theorem balanced_print (ht : table.IsReadable) (hf : table.IsFlat) :
    ∀ {p : Proposition}, p.IsWritable → Balanced (p.print table).toList
  | .bottom, _ => by
    rw [print]
    exact balanced_of_notMem (hf _ (by simp))
  | .symbol name, h => by
    obtain ⟨hn, -⟩ := isWritable_symbol.mp h
    rw [print,ht.symbol.1,ht.symbol.2,String.empty_append,String.append_empty]
    have hl := isNameLetter_of_isName hn
    exact balanced_of_notMem ⟨fun hm => ne_of_isNameLetter (hl _ hm) (by decide) rfl,
      fun hm => ne_of_isNameLetter (hl _ hm) (by decide) rfl⟩
  | .box steps, h => by
    have hb := h.1
    rw [isFormula] at hb
    cases hb
  | .and lhs rhs, h => by
    obtain ⟨hl, hr⟩ := isWritable_and.mp h
    rw [print]
    exact balanced_connective (balanced_print ht hf hl) (balanced_of_notMem (hf _ (by simp)))
      (balanced_print ht hf hr) _ _
  | .or lhs rhs, h => by
    obtain ⟨hl, hr⟩ := isWritable_or.mp h
    rw [print]
    exact balanced_connective (balanced_print ht hf hl) (balanced_of_notMem (hf _ (by simp)))
      (balanced_print ht hf hr) _ _
  | .imply lhs rhs, h => by
    obtain ⟨hl, hr⟩ := isWritable_imply.mp h
    have hbl := balanced_print ht hf hl
    by_cases hb : rhs = .bottom
    · subst hb
      rw [print,String.toList_append]
      exact (balanced_of_notMem (hf _ (by simp))).append (hbl.parenthesized _)
    · rw [print]
      · exact balanced_connective hbl (balanced_of_notMem (hf _ (by simp)))
          (balanced_print ht hf hr) _ _
      · exact hb

/-- With either table the parentheses of a printed formula match, and whichever pairs of them are
left out, the text that is left is not read as the formula. -/
theorem read_ne_of_unparenthesized {p : Proposition} (hp : p.IsWritable)
    (ht : table = .signs ∨ table = .keyboard) :
    Balanced (p.print table).toList ∧
      ∀ (count : Nat) (left : List Char), 0 < count →
        Unparenthesized count (p.print table).toList left → read (String.ofList left) ≠ .ok p := by
  have hr : table.IsReadable := by
    rcases ht with rfl | rfl
    · exact Connectives.isReadable_signs
    · exact Connectives.isReadable_keyboard
  have hf : table.IsFlat := by
    rcases ht with rfl | rfl
    · unfold Connectives.IsFlat
      decide
    · unfold Connectives.IsFlat
      decide
  refine ⟨balanced_print hr hf hp, ?_⟩
  intro count left hc hl he
  have hs : Spells left p := by
    have hs := readFormulaText_eq_ok_iff.mp he
    rwa [String.toList_ofList] at hs
  have hle := hs.countP_print_le hr
  have heq := hl.countP_isCounted
  omega

/-- The negation of a conjunction needs its parentheses although it is also spelled without them,
with one more arrow. -/
theorem read_ne_of_unparenthesized_negation :
    let p : Proposition := .imply (.imply (.symbol "p") (.symbol "q"))
      (negated (.and (.symbol "r") .bottom))
    p.IsWritable ∧ p.print .signs = "(p → q) → ¬(r ∧ ⊥)" ∧
      Unparenthesized 1 (p.print .signs).toList "(p → q) → ¬r ∧ ⊥".toList ∧
      read "(p → q) → ¬r ∧ ⊥" ≠ .ok p ∧ (read "(p → q) → r ∧ ⊥ → ⊥").toOption = some p := by
  intro p
  have hw : p.IsWritable := by decide
  have hp : p.print .signs = "(p → q) → ¬(r ∧ ⊥)" := by decide +kernel
  have hflat : ∀ text ∈
      [['p', ' ', '→', ' ', 'q'], [' ', '→', ' ', '¬'], ['r', ' ', '∧', ' ', '⊥']],
        '(' ∉ text ∧ ')' ∉ text := by decide
  have hlhs : Balanced ['p', ' ', '→', ' ', 'q'] := balanced_of_notMem (hflat _ (by simp))
  have harrow : Balanced [' ', '→', ' ', '¬'] := balanced_of_notMem (hflat _ (by simp))
  have hrhs : Balanced ['r', ' ', '∧', ' ', '⊥'] := balanced_of_notMem (hflat _ (by simp))
  have hu : Unparenthesized 1 (p.print .signs).toList "(p → q) → ¬r ∧ ⊥".toList := by
    rw [hp]
    exact .keep hlhs (Unparenthesized.append harrow (.leave hrhs .done))
  have hn := (read_ne_of_unparenthesized hw (Or.inl rfl)).2 1 _ Nat.one_pos hu
  rw [String.ofList_toList] at hn
  exact ⟨hw, hp, hu, hn, by decide +kernel⟩

end Proposition

end BoxedDeduction
