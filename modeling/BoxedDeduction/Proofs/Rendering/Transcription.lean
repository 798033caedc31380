import BoxedDeduction.Proofs.Command.Printing
import BoxedDeduction.Rendering.Typeset

/-!
# Typeset formulas are told apart

Typeset text is not read by the program, but it can be transcribed letter by letter: each command
of typesetting stands for a sign of logic, and the command around a name for a mark in front of
the name, which tells a symbol from the word for falsity. The transcription of a typeset formula
is the printed form of the formula with its names marked. This is read back, so formulas that are
typeset alike are the same.
-/

namespace BoxedDeduction

/-! ## Transcribing -/

/-- Typeset text with signs of logic in place of commands, and names marked by an underscore. -/
def transcribe : List Char → List Char
  | '\\' :: 'b' :: 'o' :: 't' :: rest => '⊥' :: transcribe rest
  | '\\' :: 'l' :: 'n' :: 'o' :: 't' :: ' ' :: rest => '¬' :: transcribe rest
  | '\\' :: 'l' :: 'a' :: 'n' :: 'd' :: rest => '∧' :: transcribe rest
  | '\\' :: 'l' :: 'o' :: 'r' :: rest => '∨' :: transcribe rest
  | '\\' :: 't' :: 'o' :: rest => '→' :: transcribe rest
  | '\\' :: 't' :: 'e' :: 'x' :: 't' :: '\x7b' :: rest => '_' :: transcribe rest
  | '\x7d' :: rest => transcribe rest
  | c :: rest => c :: transcribe rest
  | [] => []

/-- A letter that belongs to no command stays. -/
theorem transcribe_letter {c : Char} (hb : c ≠ '\\') (hc : c ≠ '\x7d') (rest : List Char) :
    transcribe (c :: rest) = c :: transcribe rest := by
  rw [transcribe]
  all_goals first | exact hc | exact fun _ he => absurd he hb

/-- The letters of names stay. -/
theorem transcribe_letters {letters : List Char} (h : ∀ c ∈ letters, isNameLetter c = true)
    (rest : List Char) : transcribe (letters ++ rest) = letters ++ transcribe rest := by
  induction letters with
  | nil => rfl
  | cons c later ih =>
    have hc := h c List.mem_cons_self
    rw [List.cons_append,transcribe_letter (ne_of_isNameLetter hc (by decide))
      (ne_of_isNameLetter hc (by decide)),ih fun d hd => h d (List.mem_cons_of_mem c hd)]
    rfl

/-- Whether a text is transcribed as another one, whatever follows it. -/
def Transcribes (typeset plain : String) : Prop :=
  ∀ rest, transcribe (typeset.toList ++ rest) = plain.toList ++ transcribe rest

namespace Transcribes

variable {typeset plain front front' back back' : String}

/-- Texts are transcribed one after the other. -/
theorem append (hf : Transcribes front front') (hb : Transcribes back back') :
    Transcribes (front ++ back) (front' ++ back') := by
  intro rest
  simp only [String.toList_append, List.append_assoc]
  rw [hf,hb]

/-- Parentheses stay. -/
theorem parenthesized (h : Transcribes typeset plain) (needed : Bool) :
    Transcribes (parenthesized needed typeset) (parenthesized needed plain) := by
  cases needed with
  | false => exact h
  | true =>
    have ho : Transcribes "(" "(" := fun _ => rfl
    have hc : Transcribes ")" ")" := fun _ => rfl
    exact (ho.append h).append hc

end Transcribes

/-! ## Marked names -/

namespace Proposition

/-- A formula with an underscore in front of every name. -/
def marked : Proposition → Proposition
  | .bottom => .bottom
  | .symbol name => .symbol ("_" ++ name)
  | .and lhs rhs => .and lhs.marked rhs.marked
  | .or lhs rhs => .or lhs.marked rhs.marked
  | .imply lhs rhs => .imply lhs.marked rhs.marked
  | .box steps => .box steps

variable {p q lhs rhs : Proposition}

/-- Only falsity is falsity when it is marked. -/
theorem marked_eq_bottom : p.marked = bottom ↔ p = bottom := by
  cases p <;> simp [marked]

/-- Marking changes no connective. -/
theorem strength_marked : p.marked.strength = p.strength := by
  cases p with
  | imply lhs rhs =>
    by_cases hb : rhs = .bottom
    · subst hb
      rw [marked,marked]
      rfl
    · rw [marked,strength,strength]
      · exact hb
      · exact fun he => hb (marked_eq_bottom.mp he)
  | bottom | symbol | and | or | box => rw [marked] <;> rfl

/-- A formula without the first letter of every name. -/
def unmarked : Proposition → Proposition
  | .bottom => .bottom
  | .symbol name => .symbol (String.ofList name.toList.tail)
  | .and lhs rhs => .and lhs.unmarked rhs.unmarked
  | .or lhs rhs => .or lhs.unmarked rhs.unmarked
  | .imply lhs rhs => .imply lhs.unmarked rhs.unmarked
  | .box steps => .box steps

/-- The marks are taken away again. -/
theorem unmarked_marked : ∀ p : Proposition, p.marked.unmarked = p
  | .bottom | .box _ => by rw [marked,unmarked]
  | .symbol name => by
    have ht : ("_" ++ name).toList.tail = name.toList := by
      rw [String.toList_append]
      rfl
    rw [marked,unmarked,ht,String.ofList_toList]
  | .and lhs rhs | .or lhs rhs | .imply lhs rhs => by
    rw [marked,unmarked,lhs.unmarked_marked,rhs.unmarked_marked]

/-- Whether a proposition is a formula whose symbols have names that can be read, the word for
falsity among them. -/
def IsNamed (p : Proposition) : Prop :=
  p.isFormula = true ∧ ∀ name ∈ p.names, isName name = true

instance (p : Proposition) : Decidable p.IsNamed :=
  inferInstanceAs (Decidable (p.isFormula = true ∧ ∀ name ∈ p.names, _))

/-- Marking leaves formulas formulas. -/
theorem isFormula_marked : ∀ p : Proposition, p.marked.isFormula = p.isFormula
  | .bottom | .symbol _ | .box _ => by simp only [marked, isFormula]
  | .and lhs rhs | .or lhs rhs | .imply lhs rhs => by
    rw [marked,isFormula,lhs.isFormula_marked,rhs.isFormula_marked,isFormula]

/-- The names of a marked formula are the marked names. -/
theorem names_marked : ∀ p : Proposition, p.marked.names = p.names.map ("_" ++ ·)
  | .bottom | .symbol _ | .box _ => by
    rw [marked]
    rfl
  | .and lhs rhs | .or lhs rhs | .imply lhs rhs => by
    rw [marked,names,lhs.names_marked,rhs.names_marked,names,List.map_append]

/-- A marked name can be read, and it is not the word for falsity. -/
theorem isName_marked {name : String} (h : isName name = true) :
    isName ("_" ++ name) = true ∧ "_" ++ name ≠ "bottom" := by
  have ht : ("_" ++ name).toList = '_' :: name.toList := String.toList_append
  constructor
  · rw [isName,ht]
    simp only [Bool.and_eq_true, List.all_eq_true]
    exact ⟨by decide, isNameLetter_of_isName h⟩
  · intro he
    rw [he] at ht
    cases ht

/-- A formula whose symbols have names that can be read can be written once it is marked. -/
theorem IsNamed.isWritable_marked (h : p.IsNamed) : p.marked.IsWritable := by
  obtain ⟨hf, hn⟩ := h
  refine ⟨?_, ?_⟩
  · rw [isFormula_marked,hf]
  · intro name hm
    rw [names_marked] at hm
    obtain ⟨plain, hp, rfl⟩ := List.mem_map.mp hm
    exact isName_marked (hn plain hp)

/-- A typeset formula is transcribed as its marked form in the usual signs of logic. -/
theorem transcribes_typeset : ∀ {p : Proposition}, p.marked.IsWritable →
    Transcribes (p.print .typeset) (p.marked.print .signs)
  | .bottom, _ => by
    rw [marked,print,print]
    exact fun _ => rfl
  | .symbol name, h => by
    have hn : ∀ c ∈ name.toList, isNameLetter c = true := by
      rw [marked] at h
      have hl := isNameLetter_of_isName (isWritable_symbol.mp h).1
      rw [String.toList_append] at hl
      exact fun c hc => hl c (List.mem_append_right _ hc)
    have ho : Transcribes Connectives.typeset.beforeName "_" := fun _ => rfl
    have hc : Transcribes Connectives.typeset.behindName "" := fun _ => rfl
    have hs : Transcribes name name := transcribe_letters hn
    have ht := (ho.append hs).append hc
    rw [String.append_empty] at ht
    have hp : (symbol ("_" ++ name)).print .signs = "_" ++ name := by
      rw [print]
      exact String.append_empty
    rw [marked,hp,print]
    exact ht
  | .box steps, h => by
    have hf := h.1
    rw [marked,isFormula] at hf
    cases hf
  | .and lhs rhs, h => by
    rw [marked] at h ⊢
    obtain ⟨hl, hr⟩ := isWritable_and.mp h
    have hc : Transcribes Connectives.typeset.and Connectives.signs.and := fun _ => rfl
    rw [print,print,strength_marked,strength_marked]
    exact (((transcribes_typeset hl).parenthesized _).append hc).append
      ((transcribes_typeset hr).parenthesized _)
  | .or lhs rhs, h => by
    rw [marked] at h ⊢
    obtain ⟨hl, hr⟩ := isWritable_or.mp h
    have hc : Transcribes Connectives.typeset.or Connectives.signs.or := fun _ => rfl
    rw [print,print,strength_marked,strength_marked]
    exact (((transcribes_typeset hl).parenthesized _).append hc).append
      ((transcribes_typeset hr).parenthesized _)
  | .imply lhs rhs, h => by
    rw [marked] at h ⊢
    obtain ⟨hl, hr⟩ := isWritable_imply.mp h
    have hn : Transcribes Connectives.typeset.neg Connectives.signs.neg := fun _ => rfl
    have hc : Transcribes Connectives.typeset.imply Connectives.signs.imply := fun _ => rfl
    by_cases hb : rhs = .bottom
    · subst hb
      rw [marked,print,print,strength_marked]
      exact hn.append ((transcribes_typeset hl).parenthesized _)
    · rw [print,print,strength_marked,strength_marked]
      · exact (((transcribes_typeset hl).parenthesized _).append hc).append
          ((transcribes_typeset hr).parenthesized _)
      · exact fun he => hb (marked_eq_bottom.mp he)
      · exact hb

/-- Formulas whose symbols have names that can be read are typeset alike only when they are the
same, however deep they are and whatever parentheses are left out. -/
theorem typeset_eq_iff (hp : p.IsNamed) (hq : q.IsNamed) : p.typeset = q.typeset ↔ p = q := by
  refine ⟨?_, congrArg typeset⟩
  intro h
  have htp := transcribes_typeset hp.isWritable_marked []
  have htq := transcribes_typeset hq.isWritable_marked []
  have hl : (p.marked.print .signs).toList = (q.marked.print .signs).toList := by
    have hs : p.print .typeset = q.print .typeset := h
    rw [hs,htq] at htp
    exact (List.append_cancel_right htp).symm
  have hr : p.marked = q.marked := by
    have hsp := spells_print Connectives.isReadable_signs hp.isWritable_marked
    have hsq := spells_print Connectives.isReadable_signs hq.isWritable_marked
    rw [hl] at hsp
    exact hsp.unique hsq
  rw [← p.unmarked_marked,hr,q.unmarked_marked]

/-- The symbol with the name of falsity is not typeset as falsity, and a negated disjunction not as
the disjunction with a negated side. -/
theorem typeset_eq_iff_of_named_falsity :
    let p : Proposition := negated (.or (.symbol "bottom") .bottom)
    let q : Proposition := .or (negated (.symbol "bottom")) .bottom
    p.typeset = "\\lnot (\\text\x7bbottom\x7d \\lor \\bot)" ∧
      q.typeset = "\\lnot \\text\x7bbottom\x7d \\lor \\bot" ∧
      p.IsNamed ∧ q.IsNamed ∧ (p.typeset = q.typeset ↔ p = q) := by
  intro p q
  have hp : p.IsNamed := by decide
  have hq : q.IsNamed := by decide
  exact ⟨by decide +kernel, by decide +kernel, hp, hq, typeset_eq_iff hp hq⟩

end Proposition

end BoxedDeduction
