import BoxedDeduction.Proofs.Computation
import BoxedDeduction.Proposition.Relabelling

/-!
# Tables as templates

A template with one plain field puts a name between two texts. In its written form the braces of
these texts are written twice. To print a proposition through the template that stands for what a
table writes around names is to print it with the table.
-/

namespace BoxedDeduction

/-! ## Templates with one field -/

namespace Template

/-- The template that puts a name between two texts. -/
def framing (before behind : String) : Template :=
  before.toList.map .letter ++ .field ⟨[], none, []⟩ :: behind.toList.map .letter

/-- A letter in the written form of a template. -/
def escape (c : Char) : List Char := if c = '\x7b' ∨ c = '\x7d' then [c, c] else [c]

/-- The written form of the template that puts a name between two texts. -/
def framingText (before behind : String) : String :=
  String.ofList (before.toList.flatMap escape ++
    ('\x7b' :: '\x7d' :: behind.toList.flatMap escape))

/-- The letters of a text are read one by one. -/
theorem readLetters_escape (cs rest : List Char) :
    readLetters (cs.flatMap escape ++ rest) = cs.map .letter ++ readLetters rest := by
  induction cs with
  | nil => rfl
  | cons c cs ih =>
    rw [List.flatMap_cons,List.append_assoc,List.map_cons,List.cons_append,← ih]
    by_cases ho : c = '\x7b'
    · subst ho
      exact readLetters.eq_2 _
    · by_cases hc : c = '\x7d'
      · subst hc
        exact readLetters.eq_3 _
      · rw [escape,if_neg (not_or.mpr ⟨ho, hc⟩),List.singleton_append,readLetters]
        · exact fun _ he _ => ho he
        · exact fun _ he _ => hc he
        · exact fun he => ho he
        · exact fun he => hc he

/-- A pair of braces is read as a field for the name. -/
theorem readLetters_field (rest : List Char) :
    readLetters ('\x7b' :: '\x7d' :: rest) = .field ⟨[], none, []⟩ :: readLetters rest := by
  have hf : readField? ('\x7d' :: rest) = some (⟨[], none, []⟩, rest) := rfl
  rw [readLetters]
  · split
    · next found after hr =>
      rw [hf] at hr
      cases hr
      rfl
    · next hr =>
      rw [hf] at hr
      cases hr
  · intro _ he
    cases he

/-- The written form is read as the template that puts a name between two texts. -/
theorem read_framingText (before behind : String) :
    read (framingText before behind) = framing before behind := by
  have hb := readLetters_escape behind.toList []
  have hn : readLetters [] = [] := by rw [readLetters]
  rw [List.append_nil,hn,List.append_nil] at hb
  rw [read,framingText,String.toList_ofList,readLetters_escape,readLetters_field,hb,framing]

/-- Letters are printed as they stand. -/
theorem fillPieces_letters (room : Option Nat) (fillLayout : LayoutFilling) (name : List Char)
    (numbering : FieldNumbering) (cs : List Char) (rest : Template) :
    fillPieces room fillLayout name numbering (cs.map .letter ++ rest) =
      (fillPieces room fillLayout name numbering rest).map (Prod.map (cs ++ ·) id) := by
  induction cs with
  | nil =>
    have hid : Prod.map (([] : List Char) ++ ·) id =
        (id : List Char × FieldNumbering → List Char × FieldNumbering) := rfl
    rw [hid,Except.map_id]
    rfl
  | cons c cs ih =>
    rw [List.map_cons,List.cons_append,fillPieces,ih]
    cases fillPieces room fillLayout name numbering rest <;> rfl

/-- The first field without a number holds the name. -/
theorem content_first (name : List Char) :
    content name .undecided [] = .ok (.text name, .counted 1) := by
  have hn : number? [] = .ok none := rfl
  have hp : pick (.text name) [] = .ok (.text name) := by rw [pick]
  rw [content]
  simp only [List.takeWhile_nil, List.dropWhile_nil, hn, hp]
  rfl

/-- A first field without a layout is printed as the name. -/
theorem fillPieces_field (room : Option Nat) {fillLayout : LayoutFilling}
    (h : ∀ numbering, fillLayout numbering [] = .ok ([], numbering)) (name : List Char)
    (rest : Template) : fillPieces room fillLayout name .undecided (.field ⟨[], none, []⟩ :: rest) =
      (fillPieces room fillLayout name (.counted 1) rest).map (Prod.map (name ++ ·) id) := by
  rw [fillPieces,bind_of_eq_ok (content_first name)]
  dsimp only [FieldContent.display?]
  rw [bind_of_eq_ok (h _)]
  cases fillPieces room fillLayout name (.counted 1) rest <;> rfl

/-- A template with one field puts the name between its texts, whatever room there is. -/
theorem fill_framing (room : Option Nat) (before behind name : String) :
    (framing before behind).fill room name = .ok (before ++ name ++ behind) := by
  have hlayout : ∀ fillFields numbering,
      fillLayoutBy fillFields numbering [] = .ok ([], numbering) := fun _ _ => rfl
  have hbehind := fun fillLayout => fillPieces_letters room fillLayout name.toList (.counted 1)
    behind.toList []
  simp only [List.append_nil] at hbehind
  rw [fill,framing]
  dsimp only
  rw [fillPieces_letters,fillPieces_field room (hlayout _),hbehind,fillPieces]
  refine congrArg Except.ok (String.toList_inj.mp ?_)
  simp only [Prod.map, String.toList_ofList, String.toList_append, List.append_assoc,
    List.append_nil]

end Template

/-! ## Printing through a template -/

/-- A table that writes nothing around names. -/
def Connectives.bare (table : Connectives) : Connectives :=
  { table with beforeName := "", behindName := "" }

/-- Whether a proposition with other names is printed with a bare table as another is with the
table. -/
structure PrintsAs (table : Connectives) (renamed prop : Proposition) : Prop where
  /-- The texts are the same. -/
  print : renamed.print table.bare = prop.print table
  /-- Both need parentheses in the same places. -/
  strength : renamed.strength = prop.strength
  /-- One is falsity when the other is. -/
  bottom : renamed = .bottom ↔ prop = .bottom

namespace Proposition

variable {table : Connectives} {lhs rhs lhs' rhs' : Proposition}

/-- An implication is printed as a negation when it leads to falsity. -/
theorem print_imply (table : Connectives) (lhs rhs : Proposition) : (imply lhs rhs).print table =
    if rhs = .bottom then table.neg ++ parenthesized (lhs.strength < 4) (lhs.print table)
    else parenthesized (lhs.strength ≤ 1) (lhs.print table) ++ table.imply ++
      parenthesized (rhs.strength < 1) (rhs.print table) := by
  cases rhs <;> simp [print]

/-- An implication binds tightest when it is a negation. -/
theorem strength_imply (lhs rhs : Proposition) :
    (imply lhs rhs).strength = if rhs = .bottom then 4 else 1 := by
  cases rhs <;> simp [strength]

/-- Implications are printed alike when their sides are. -/
theorem printsAs_imply (hl : PrintsAs table lhs' lhs) (hr : PrintsAs table rhs' rhs) :
    PrintsAs table (.imply lhs' rhs') (.imply lhs rhs) where
  print := by
    rw [print_imply,print_imply,hl.print,hr.print,hl.strength,hr.strength]
    simp only [hr.bottom]
    rfl
  strength := by
    rw [strength_imply,strength_imply]
    simp only [hr.bottom]
  bottom := by simp

/-- Conjunctions are printed alike when their sides are. -/
theorem printsAs_and (hl : PrintsAs table lhs' lhs) (hr : PrintsAs table rhs' rhs) :
    PrintsAs table (.and lhs' rhs') (.and lhs rhs) where
  print := by
    rw [print,print,hl.print,hr.print,hl.strength,hr.strength]
    rfl
  strength := rfl
  bottom := by simp

/-- Disjunctions are printed alike when their sides are. -/
theorem printsAs_or (hl : PrintsAs table lhs' lhs) (hr : PrintsAs table rhs' rhs) :
    PrintsAs table (.or lhs' rhs') (.or lhs rhs) where
  print := by
    rw [print,print,hl.print,hr.print,hl.strength,hr.strength]
    rfl
  strength := rfl
  bottom := by simp

end Proposition

section Relabelling

variable {table : Connectives} {ε : Type} {label : String → Except ε String}

mutual

/-- A proposition whose names are framed as the table says is printed as with the table. -/
theorem Proposition.exists_relabel
    (h : ∀ name, label name = .ok (table.beforeName ++ name ++ table.behindName)) :
    ∀ prop : Proposition, ∃ renamed, prop.relabel label = .ok renamed ∧ PrintsAs table renamed prop
  | .bottom => ⟨.bottom, rfl, rfl, rfl, Iff.rfl⟩
  | .symbol name => by
    refine ⟨.symbol (table.beforeName ++ name ++ table.behindName), ?_, ?_, rfl, by simp⟩
    · rw [Proposition.relabel,bind_of_eq_ok (h name)]
      rfl
    · rw [Proposition.print,Proposition.print,Connectives.bare,String.empty_append,
        String.append_empty]
  | .and lhs rhs => by
    obtain ⟨_, hl, hpl⟩ := Proposition.exists_relabel h lhs
    obtain ⟨_, hr, hpr⟩ := Proposition.exists_relabel h rhs
    refine ⟨_, ?_, Proposition.printsAs_and hpl hpr⟩
    rw [Proposition.relabel,bind_of_eq_ok hl,bind_of_eq_ok hr]
    rfl
  | .or lhs rhs => by
    obtain ⟨_, hl, hpl⟩ := Proposition.exists_relabel h lhs
    obtain ⟨_, hr, hpr⟩ := Proposition.exists_relabel h rhs
    refine ⟨_, ?_, Proposition.printsAs_or hpl hpr⟩
    rw [Proposition.relabel,bind_of_eq_ok hl,bind_of_eq_ok hr]
    rfl
  | .imply lhs rhs => by
    obtain ⟨_, hl, hpl⟩ := Proposition.exists_relabel h lhs
    obtain ⟨_, hr, hpr⟩ := Proposition.exists_relabel h rhs
    refine ⟨_, ?_, Proposition.printsAs_imply hpl hpr⟩
    rw [Proposition.relabel,bind_of_eq_ok hl,bind_of_eq_ok hr]
    rfl
  | .box steps => by
    obtain ⟨renamed, hs, ha, hd⟩ := SubProof.exists_relabelEnds h steps
    refine ⟨.box renamed, ?_, ?_, rfl, by simp⟩
    · rw [Proposition.relabel,bind_of_eq_ok hs]
      rfl
    · rw [Proposition.print,Proposition.print,ha,hd]

/-- The ends of a sub-proof are printed as with the table. -/
theorem SubProof.exists_relabelEnds
    (h : ∀ name, label name = .ok (table.beforeName ++ name ++ table.behindName)) :
    ∀ steps : SubProof, ∃ renamed, steps.relabelEnds label = .ok renamed ∧
      renamed.printAssumption table.bare = steps.printAssumption table ∧
      renamed.printDerived table.bare = steps.printDerived table
  | .last index prop reason => by
    obtain ⟨renamed, hp, hprints⟩ := Proposition.exists_relabel h prop
    refine ⟨.last index renamed reason, ?_, hprints.print, hprints.print⟩
    rw [SubProof.relabelEnds,bind_of_eq_ok hp]
    rfl
  | .more index prop reason rest => by
    obtain ⟨renamed, hp, hprints⟩ := Proposition.exists_relabel h prop
    obtain ⟨later, hr, hd⟩ := SubProof.exists_relabelLast h rest
    refine ⟨.more index renamed reason later, ?_, hprints.print, hd⟩
    rw [SubProof.relabelEnds,bind_of_eq_ok hp,bind_of_eq_ok hr]
    rfl

/-- The last line of a sub-proof is printed as with the table. -/
theorem SubProof.exists_relabelLast
    (h : ∀ name, label name = .ok (table.beforeName ++ name ++ table.behindName)) :
    ∀ steps : SubProof, ∃ renamed, steps.relabelLast label = .ok renamed ∧
      renamed.printDerived table.bare = steps.printDerived table
  | .last index prop reason => by
    obtain ⟨renamed, hp, hprints⟩ := Proposition.exists_relabel h prop
    refine ⟨.last index renamed reason, ?_, hprints.print⟩
    rw [SubProof.relabelLast,bind_of_eq_ok hp]
    rfl
  | .more index prop reason rest => by
    obtain ⟨later, hr, hd⟩ := SubProof.exists_relabelLast h rest
    refine ⟨.more index prop reason later, ?_, hd⟩
    rw [SubProof.relabelLast,bind_of_eq_ok hr]
    rfl

end

end Relabelling

/-- To print through the template of a table, with nothing else around names, is to print with the
table. -/
theorem Proposition.printThrough_framing (room : Option Nat) (table : Connectives)
    (prop : Proposition) :
    prop.printThrough room (.framing table.beforeName table.behindName) table.bare =
      .ok (prop.print table) := by
  obtain ⟨renamed, hr, hp⟩ := exists_relabel (Template.fill_framing room _ _) prop
  rw [printThrough,bind_of_eq_ok hr,hp.print]
  rfl

/-- The template of mathematical typesetting. -/
example : Template.framingText Connectives.typeset.beforeName Connectives.typeset.behindName =
    "\\text\x7b\x7b\x7b\x7d\x7d\x7d" := by
  decide

end BoxedDeduction
