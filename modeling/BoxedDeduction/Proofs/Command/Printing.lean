import BoxedDeduction.Proofs.Command.Parsing
import BoxedDeduction.Proofs.Proposition.Truth
import BoxedDeduction.Proposition.Printing

/-!
# Printed formulas are read back

A formula whose symbols have names that can be read is printed in such a way that the text
spells the formula, whichever of the two tables of signs is used. Parentheses are left out only
where the grammar derives the operand without them, and behind a name there is always something
that ends it. Conversely, only such formulas are spelled by texts, so a formula that was read
once is read again from its printed form.
-/

namespace BoxedDeduction

/-! ## Formulas that can be written -/

/-- Whether a text begins with a letter or an underscore and goes on with letters, digits and
underscores. -/
def isName (text : String) : Bool :=
  match text.toList with
  | [] => false
  | first :: later => isNameStart first && later.all isNameLetter

/-- The letters of a name that can be read may all stand in names. -/
theorem isNameLetter_of_isName {text : String} (h : isName text = true) :
    ∀ c ∈ text.toList, isNameLetter c = true := by
  rw [isName] at h
  cases hl : text.toList with
  | nil => exact nofun
  | cons first later =>
    rw [hl] at h
    simp only [Bool.and_eq_true, List.all_eq_true] at h
    exact List.forall_mem_cons.mpr ⟨isNameLetter_of_isNameStart h.1, h.2⟩

/-- A name that can be read is not empty. -/
theorem toList_ne_nil_of_isName {text : String} (h : isName text = true) : text.toList ≠ [] := by
  intro hl
  rw [isName,hl] at h
  cases h

namespace Proposition

/-- Whether a proposition is a formula whose symbols have names that can be read, none of them
the word for falsity. -/
def IsWritable (p : Proposition) : Prop :=
  p.isFormula = true ∧ ∀ name ∈ p.names, isName name = true ∧ name ≠ "bottom"

instance (p : Proposition) : Decidable p.IsWritable :=
  inferInstanceAs (Decidable (p.isFormula = true ∧ ∀ name ∈ p.names, _))

variable {lhs rhs : Proposition}

/-- Falsity can be written. -/
theorem isWritable_bottom : bottom.IsWritable := ⟨rfl, nofun⟩

/-- A symbol can be written when its name can be read. -/
theorem isWritable_symbol {name : String} :
    (symbol name).IsWritable ↔ isName name = true ∧ name ≠ "bottom" := by
  simp only [IsWritable, isFormula, names, List.mem_singleton, forall_eq, true_and]

/-- A formula of two operands can be written when they can. -/
theorem isWritable_of_sides {p : Proposition} (hf : p.isFormula = (lhs.isFormula && rhs.isFormula))
    (hn : p.names = lhs.names ++ rhs.names) : p.IsWritable ↔ lhs.IsWritable ∧ rhs.IsWritable := by
  simp only [IsWritable, hf, hn, Bool.and_eq_true, List.mem_append]
  constructor
  · rintro ⟨⟨hl, hr⟩, hall⟩
    exact ⟨⟨hl, fun name hm => hall name (Or.inl hm)⟩, hr, fun name hm => hall name (Or.inr hm)⟩
  · rintro ⟨⟨hl, hal⟩, hr, har⟩
    exact ⟨⟨hl, hr⟩, fun name hm => hm.elim (hal name) (har name)⟩

/-- A conjunction can be written when its sides can. -/
theorem isWritable_and : (and lhs rhs).IsWritable ↔ lhs.IsWritable ∧ rhs.IsWritable :=
  isWritable_of_sides (by rw [isFormula]) (by rw [names])

/-- A disjunction can be written when its sides can. -/
theorem isWritable_or : (or lhs rhs).IsWritable ↔ lhs.IsWritable ∧ rhs.IsWritable :=
  isWritable_of_sides (by rw [isFormula]) (by rw [names])

/-- An implication can be written when its sides can. -/
theorem isWritable_imply : (imply lhs rhs).IsWritable ↔ lhs.IsWritable ∧ rhs.IsWritable :=
  isWritable_of_sides (by rw [isFormula]) (by rw [names])

end Proposition

/-! ## Spelled formulas can be written -/

/-- The name tokens of a text can be read. -/
theorem Cut.isName_of_mem {cs : List Char} {tokens : List Token} (h : Cut cs tokens)
    {text : String} (hm : .name text ∈ tokens) : isName text = true := by
  induction h with
  | done => cases hm
  | gap _ _ ih => exact ih hm
  | token hw _ _ ih =>
    rcases List.mem_cons.mp hm with rfl | hm
    · cases hw with
      | name hf hl =>
        rw [isName,String.toList_ofList]
        simp only [hf, Bool.true_and, List.all_eq_true]
        exact hl
      | sign h => cases h
    · exact ih hm

/-- What is derived from tokens whose names can be read can be written. -/
theorem Derives.isWritable {kind : Nonterminal} {tokens : List Token} {p : Proposition}
    (h : Derives kind tokens p) (hn : ∀ text, .name text ∈ tokens → isName text = true) :
    p.IsWritable := by
  induction h with
  | symbol hne => exact Proposition.isWritable_symbol.mpr ⟨hn _ List.mem_cons_self, hne⟩
  | word | bottom => exact Proposition.isWritable_bottom
  | group _ ih =>
    refine ih fun text hm => hn text ?_
    exact List.mem_append_left _ (List.mem_cons_of_mem _ hm)
  | ofAtom _ ih | ofNeg _ ih | ofAnd _ ih | ofOr _ ih => exact ih hn
  | negation _ ih =>
    refine Proposition.isWritable_imply.mpr ⟨ih ?_, Proposition.isWritable_bottom⟩
    exact fun text hm => hn text (List.mem_cons_of_mem _ hm)
  | conjunction _ _ ihl ihr =>
    refine Proposition.isWritable_and.mpr ⟨ihl ?_, ihr ?_⟩
    · exact fun text hm => hn text (List.mem_append_left _ hm)
    · exact fun text hm => hn text (List.mem_append_right _ (List.mem_cons_of_mem _ hm))
  | disjunction _ _ ihl ihr =>
    refine Proposition.isWritable_or.mpr ⟨ihl ?_, ihr ?_⟩
    · exact fun text hm => hn text (List.mem_append_left _ hm)
    · exact fun text hm => hn text (List.mem_append_right _ (List.mem_cons_of_mem _ hm))
  | implication _ _ ihl ihr =>
    refine Proposition.isWritable_imply.mpr ⟨ihl ?_, ihr ?_⟩
    · exact fun text hm => hn text (List.mem_append_left _ hm)
    · exact fun text hm => hn text (List.mem_append_right _ (List.mem_cons_of_mem _ hm))

/-- What a text spells can be written. -/
theorem Spells.isWritable {cs : List Char} {p : Proposition} (h : Spells cs p) : p.IsWritable := by
  obtain ⟨tokens, hc, hd⟩ := h
  exact hd.isWritable fun text hm => hc.isName_of_mem hm

/-! ## Written tokens -/

/-- A token of which the text does not begin with a longer one is cut off. -/
theorem Cut.of_scan? {cs : List Char} {token : Token} {lexeme : List Char} {tokens : List Token}
    (h : Cut cs tokens) (hs : scan? .continuation (lexeme ++ cs) = some (token, lexeme.length)) :
    Cut (lexeme ++ cs) (token :: tokens) := by
  obtain ⟨written, rest, he, hl, hw⟩ := written_of_scan? hs
  obtain ⟨rfl, rfl⟩ := List.append_inj he hl.symm
  exact .token hw (longest_of_scan? hs) h

/-- A text that is cut into tokens does not begin with an angle. -/
theorem Cut.head?_ne {cs : List Char} {tokens : List Token} (h : Cut cs tokens) :
    cs.head? ≠ some '>' := by
  cases h with
  | done => exact nofun
  | gap hc _ =>
    intro he
    cases he
    exact absurd hc (by decide)
  | token hw hl _ =>
    intro he
    obtain ⟨rest, hr⟩ := List.head?_eq_some_iff.mp he
    have hs := scan?_of_longest hw hl
    rw [hr] at hs
    simp [scan?, isNameStart, sign?, operandSign?, followingSign?] at hs

/-- A sign is cut off, whatever follows it. -/
theorem Cut.sign {cs : List Char} {tokens : List Token} (h : Cut cs tokens) {token : Token}
    {c : Char} (hc : c ∈ token.signs) : Cut (c :: cs) (token :: tokens) := by
  obtain ⟨hn, hd, hs⟩ := sign?_of_mem_signs hc
  have hsc : scan? .continuation ([c] ++ cs) = some (token, [c].length) := by
    simp [scan?, hn, hd, hs, h.head?_ne]
  exact h.of_scan? hsc

/-- An arrow is cut off, whatever follows it. -/
theorem Cut.arrow {cs : List Char} {tokens : List Token} (h : Cut cs tokens) :
    Cut ('-' :: '>' :: cs) (.imply :: tokens) := by
  have hs : scan? .continuation (['-', '>'] ++ cs) = some (.imply, ['-', '>'].length) := rfl
  exact h.of_scan? hs

/-- Whether a text does not go on with a name or an index. -/
def Ends (cs : List Char) : Prop := ∀ c ∈ cs.head?, isNameLetter c = false

/-- Nothing goes on at the end of a text. -/
theorem ends_nil : Ends [] := nofun

/-- The next character decides. -/
theorem ends_cons {c : Char} {cs : List Char} : Ends (c :: cs) ↔ isNameLetter c = false := by
  simp only [Ends, List.head?_cons, Option.mem_def, Option.some.injEq, forall_eq']

/-- No letter follows where a text ends. -/
theorem Ends.takeWhile {cs : List Char} (h : Ends cs) : cs.takeWhile isNameLetter = [] := by
  cases cs with
  | nil => rfl
  | cons c rest => rw [List.takeWhile_cons,ends_cons.mp h]; rfl

/-- A name is cut off where it ends. -/
theorem Cut.name {cs : List Char} {tokens : List Token} (h : Cut cs tokens) (he : Ends cs)
    {text : String} (hn : isName text = true) : Cut (text.toList ++ cs) (.name text :: tokens) := by
  rw [isName] at hn
  cases hl : text.toList with
  | nil =>
    rw [hl] at hn
    cases hn
  | cons first later =>
    rw [hl] at hn
    simp only [Bool.and_eq_true, List.all_eq_true] at hn
    have ht : text = String.ofList (first :: later) := by rw [← hl,String.ofList_toList]
    have hs := @scan?_name .continuation _ _ hn.1 hn.2 cs
    rw [he.takeWhile,List.append_nil,← ht] at hs
    exact h.of_scan? hs

/-! ## Printed formulas -/

/-- Whether letters are cut into tokens in front of every text that does not go on with them. -/
def Spelled (letters : List Char) (tokens : List Token) : Prop :=
  ∀ (cs : List Char) (more : List Token), Cut cs more → Ends cs → Cut (letters ++ cs) (tokens ++ more)

/-- Whether letters between two operands are cut into one token, which ends the left operand. -/
def Joins (letters : List Char) (token : Token) : Prop :=
  ∀ (cs : List Char) (more : List Token), Cut cs more →
    Cut (letters ++ cs) (token :: more) ∧ Ends (letters ++ cs)

section Spelled

variable {letters left right : List Char} {tokens front back : List Token} {token : Token}
  {c : Char}

/-- Letters that are cut into tokens are so at the end of a text. -/
theorem Spelled.cut (h : Spelled letters tokens) : Cut letters tokens := by
  have hc := h [] [] .done ends_nil
  rw [List.append_nil,List.append_nil] at hc
  exact hc

/-- A name is cut off. -/
theorem spelled_name {name : String} (h : isName name = true) :
    Spelled name.toList [.name name] := fun _ _ hc he => hc.name he h

/-- A sign is cut off. -/
theorem spelled_sign (h : c ∈ token.signs) : Spelled [c] [token] := fun _ _ hc _ => hc.sign h

/-- A sign is cut off in front of an operand. -/
theorem Spelled.cons (h : Spelled letters tokens) (hc : c ∈ token.signs) :
    Spelled (c :: letters) (token :: tokens) := fun cs more hm he => (h cs more hm he).sign hc

/-- Two operands are cut into tokens with the connective between them. -/
theorem Spelled.join (hl : Spelled left front) (hj : Joins letters token)
    (hr : Spelled right back) : Spelled (left ++ letters ++ right) (front ++ token :: back) := by
  intro cs more hc he
  obtain ⟨hm, hme⟩ := hj _ _ (hr cs more hc he)
  have hw := hl _ _ hm hme
  simp only [List.append_assoc, List.cons_append] at hw ⊢
  exact hw

/-- An operand is cut into tokens with the parentheses around it. -/
theorem Spelled.parenthesized {text : String} (h : Spelled text.toList tokens) :
    Spelled (parenthesized true text).toList (.openParen :: tokens ++ [.closeParen]) := by
  have ht : (BoxedDeduction.parenthesized true text).toList = '(' :: (text.toList ++ [')']) := by
    simp [BoxedDeduction.parenthesized, String.toList_append]
  have hi : Spelled (text.toList ++ [')']) (tokens ++ [.closeParen]) := by
    intro cs more hc _
    have hw := h _ _ (hc.sign (show ')' ∈ Token.closeParen.signs by decide))
      (ends_cons.mpr (by decide))
    rw [List.append_assoc,List.append_assoc]
    exact hw
  rw [ht]
  exact hi.cons (by decide)

/-- A sign with a blank on either side joins operands. -/
theorem joins_sign (h : c ∈ token.signs) : Joins [' ', c, ' '] token := by
  intro cs more hc
  have hg : Blank.isTokenGap ' ' = true := by decide
  exact ⟨.gap hg ((Cut.gap hg hc).sign h), ends_cons.mpr (by decide)⟩

/-- An arrow with a blank on either side joins operands. -/
theorem joins_arrow : Joins [' ', '-', '>', ' '] .imply := by
  intro cs more hc
  have hg : Blank.isTokenGap ' ' = true := by decide
  exact ⟨.gap hg (Cut.gap hg hc).arrow, ends_cons.mpr (by decide)⟩

end Spelled

/-- Whether the signs of a table are cut into the tokens that they stand for. -/
structure Connectives.IsReadable (table : Connectives) : Prop where
  /-- Falsity is written as one token. -/
  bottom : ∃ token, Spelled table.bottom.toList [token] ∧ Derives .atom [token] .bottom
  /-- Negation is written as a sign. -/
  neg : ∃ sign ∈ Token.neg.signs, table.neg.toList = [sign]
  /-- Conjunction joins its operands. -/
  and : Joins table.and.toList .and
  /-- Disjunction joins its operands. -/
  or : Joins table.or.toList .or
  /-- Implication joins its operands. -/
  imply : Joins table.imply.toList .imply
  /-- Nothing is written around names. -/
  symbol : table.beforeName = "" ∧ table.behindName = ""

/-- The usual signs of logic can be read. -/
theorem Connectives.isReadable_signs : signs.IsReadable where
  bottom := ⟨.bottom, spelled_sign (show '⊥' ∈ Token.bottom.signs by decide), .bottom⟩
  neg := ⟨'¬', by decide, rfl⟩
  and := joins_sign (show '∧' ∈ Token.and.signs by decide)
  or := joins_sign (show '∨' ∈ Token.or.signs by decide)
  imply := joins_sign (show '→' ∈ Token.imply.signs by decide)
  symbol := ⟨rfl, rfl⟩

/-- The signs of every keyboard can be read. -/
theorem Connectives.isReadable_keyboard : keyboard.IsReadable where
  bottom := ⟨.name "bottom", spelled_name (by decide), .word⟩
  neg := ⟨'-', by decide, rfl⟩
  and := joins_sign (show '&' ∈ Token.and.signs by decide)
  or := joins_sign (show '|' ∈ Token.or.signs by decide)
  imply := joins_arrow
  symbol := ⟨rfl, rfl⟩

namespace Proposition

/-- Whether a text is cut into tokens from which a proposition is derived as tightly as it binds. -/
def SpelledBy (p : Proposition) (text : String) : Prop :=
  ∃ tokens, Spelled text.toList tokens ∧
    ∀ kind : Nonterminal, kind.strength ≤ p.strength → Derives kind tokens p

variable {p lhs rhs : Proposition} {text left right sign : String}

/-- An atom binds as tightly as can be. -/
theorem SpelledBy.of_atom {tokens : List Token} (hs : Spelled text.toList tokens)
    (hd : Derives .atom tokens p) : p.SpelledBy text := by
  refine ⟨tokens, hs, ?_⟩
  intro kind _
  exact hd.weaken (by cases kind <;> decide)

/-- Every proposition binds at least as tightly as an implication. -/
theorem one_le_strength (p : Proposition) : 1 ≤ p.strength := by
  unfold strength
  split <;> omega

/-- An operand is in parentheses where the grammar does not derive it without them. -/
theorem SpelledBy.operand (h : p.SpelledBy text) {needed : Bool} {kind : Nonterminal}
    (hn : needed = false → kind.strength ≤ p.strength) :
    ∃ tokens, Spelled (parenthesized needed text).toList tokens ∧ Derives kind tokens p := by
  obtain ⟨tokens, hs, hd⟩ := h
  cases needed with
  | false => exact ⟨tokens, hs, hd kind (hn rfl)⟩
  | true =>
    have hg : Derives .atom (.openParen :: tokens ++ [.closeParen]) p :=
      .group (hd .prop p.one_le_strength)
    exact ⟨_, hs.parenthesized, hg.weaken (by cases kind <;> decide)⟩

/-- A connective between two operands. -/
theorem SpelledBy.connective {token : Token} {front back goal : Nonterminal}
    (hj : Joins sign.toList token)
    (hl : ∃ tokens, Spelled left.toList tokens ∧ Derives front tokens lhs)
    (hr : ∃ tokens, Spelled right.toList tokens ∧ Derives back tokens rhs)
    (hs : p.strength = goal.strength)
    (hd : ∀ {first later : List Token}, Derives front first lhs → Derives back later rhs →
      Derives goal (first ++ token :: later) p) :
    p.SpelledBy (left ++ sign ++ right) := by
  obtain ⟨first, hsl, hdl⟩ := hl
  obtain ⟨later, hsr, hdr⟩ := hr
  refine ⟨first ++ token :: later, ?_, ?_⟩
  · rw [String.toList_append,String.toList_append]
    exact hsl.join hj hsr
  · intro kind hk
    exact (hd hdl hdr).weaken (hs ▸ hk)

/-- A negation in front of its operand. -/
theorem SpelledBy.negation (hc : ∃ c ∈ Token.neg.signs, sign.toList = [c])
    (h : ∃ tokens, Spelled text.toList tokens ∧ Derives .negProp tokens p) :
    p.negated.SpelledBy (sign ++ text) := by
  obtain ⟨c, hm, he⟩ := hc
  obtain ⟨tokens, hs, hd⟩ := h
  refine ⟨.neg :: tokens, ?_, ?_⟩
  · rw [String.toList_append,he]
    exact hs.cons hm
  · intro kind hk
    exact hd.negation.weaken hk

/-- A formula that can be written is spelled by its printed form. -/
theorem spelledBy_print {table : Connectives} (ht : table.IsReadable) :
    ∀ {p : Proposition}, p.IsWritable → p.SpelledBy (p.print table)
  | .bottom, _ => by
    obtain ⟨token, hs, hd⟩ := ht.bottom
    rw [print]
    exact .of_atom hs hd
  | .symbol name, h => by
    obtain ⟨hn, hne⟩ := isWritable_symbol.mp h
    obtain ⟨hb, he⟩ := ht.symbol
    rw [print,hb,he,String.empty_append,String.append_empty]
    exact .of_atom (spelled_name hn) (.symbol hne)
  | .box steps, h => by
    have hf := h.1
    rw [isFormula] at hf
    cases hf
  | .and lhs rhs, h => by
    obtain ⟨hl, hr⟩ := isWritable_and.mp h
    rw [print]
    refine .connective ht.and ((spelledBy_print ht hl).operand ?_)
      ((spelledBy_print ht hr).operand ?_) rfl .conjunction
    · exact fun hn => Nat.le_of_not_lt (of_decide_eq_false hn)
    · exact fun hn => Nat.lt_of_not_le (of_decide_eq_false hn)
  | .or lhs rhs, h => by
    obtain ⟨hl, hr⟩ := isWritable_or.mp h
    rw [print]
    refine .connective ht.or ((spelledBy_print ht hl).operand ?_)
      ((spelledBy_print ht hr).operand ?_) rfl .disjunction
    · exact fun hn => Nat.le_of_not_lt (of_decide_eq_false hn)
    · exact fun hn => Nat.lt_of_not_le (of_decide_eq_false hn)
  | .imply lhs rhs, h => by
    obtain ⟨hl, hr⟩ := isWritable_imply.mp h
    by_cases hb : rhs = .bottom
    · subst hb
      rw [print]
      refine .negation ht.neg ((spelledBy_print ht hl).operand ?_)
      exact fun hn => Nat.le_of_not_lt (of_decide_eq_false hn)
    · have hs : (imply lhs rhs).strength = Nonterminal.strength .prop := by
        rw [strength]
        · rfl
        · exact hb
      rw [print]
      · refine .connective ht.imply ((spelledBy_print ht hl).operand ?_)
          ((spelledBy_print ht hr).operand ?_) hs .implication
        · exact fun hn => Nat.lt_of_not_le (of_decide_eq_false hn)
        · exact fun _ => rhs.one_le_strength
      · exact hb

/-- A formula that can be written is read back from its printed form. -/
theorem spells_print {table : Connectives} (ht : table.IsReadable) {p : Proposition}
    (h : p.IsWritable) : Spells (p.print table).toList p := by
  obtain ⟨tokens, hs, hd⟩ := spelledBy_print ht h
  exact ⟨tokens, hs.cut, hd .prop p.one_le_strength⟩

/-- Reading undoes printing with either table for every formula whose symbols have names that can
be read. Whatever is read is such a formula, so printing it and reading it again gives it
back. -/
theorem read_print_of_isWritable :
    (∀ p : Proposition, p.IsWritable →
      read (p.print .signs) = .ok p ∧ read (p.print .keyboard) = .ok p) ∧
      ∀ (text : String) (p : Proposition), read text = .ok p → p.IsWritable ∧
        read (p.print .signs) = .ok p ∧ read (p.print .keyboard) = .ok p := by
  have hprint : ∀ p : Proposition, p.IsWritable →
      read (p.print .signs) = .ok p ∧ read (p.print .keyboard) = .ok p := by
    intro p hp
    constructor
    · exact readFormulaText_eq_ok_iff.mpr (spells_print Connectives.isReadable_signs hp)
    · exact readFormulaText_eq_ok_iff.mpr (spells_print Connectives.isReadable_keyboard hp)
  refine ⟨hprint, ?_⟩
  intro text p hr
  have hp : p.IsWritable := (readFormulaText_eq_ok_iff.mp hr).isWritable
  exact ⟨hp, hprint p hp⟩

/-- A negated implication on the left of an implication and a disjunction on the right of a
conjunction keep their parentheses. -/
theorem read_print_of_isWritable_nested :
    let p : Proposition := .imply (negated (.imply (.symbol "p") (.symbol "_q1")))
      (.and .bottom (.or (.symbol "r") (negated (negated .bottom))))
    p.IsWritable ∧ read (p.print .signs) = .ok p ∧
      p.print .keyboard = "-(p -> _q1) -> bottom & (r | --bottom)" ∧
      read "-(p -> _q1) -> bottom & (r | --bottom)" = .ok p := by
  intro p
  have hw : p.IsWritable := by decide
  have hp : p.print .keyboard = "-(p -> _q1) -> bottom & (r | --bottom)" := by decide +kernel
  obtain ⟨hs, hk⟩ := read_print_of_isWritable.1 p hw
  rw [hp] at hk
  exact ⟨hw, hs, hp, hk⟩

end Proposition

end BoxedDeduction
