import BoxedDeduction.Proofs.Command.Printing

/-!
# Signs of typesetting in a row

Typesetting gives some characters a meaning of their own: braces group, dollar signs surround
formulas, and an ampersand stands between the columns of a row. A backslash in front of a character
takes this meaning away or begins a command. What the command for text has in its braces is set in
text mode, where further characters must not stand without a backslash. All of this can be counted
piece by piece, since no piece of a row ends within an escape or within braces.
-/

namespace BoxedDeduction

/-! ## Scanning -/

/-- The characters of a text without backslashes and what stands behind each of them. -/
def unescaped : List Char → List Char
  | '\\' :: _ :: rest => unescaped rest
  | c :: rest => c :: unescaped rest
  | [] => []

/-- Whether every brace is closed behind some open ones, and no more are closed than are open. -/
def bracesClose : Nat → List Char → Bool
  | level, [] => level == 0
  | level, '\x7b' :: rest => bracesClose (level + 1) rest
  | 0, '\x7d' :: _ => false
  | level + 1, '\x7d' :: rest => bracesClose level rest
  | level, _ :: rest => bracesClose level rest

/-- What stands in front of the brace that closes a group, inside some open inner braces. -/
def groupLetters : Nat → List Char → List Char
  | level, '\\' :: c :: rest => '\\' :: c :: groupLetters level rest
  | level, '\x7b' :: rest => '\x7b' :: groupLetters (level + 1) rest
  | 0, '\x7d' :: _ => []
  | level + 1, '\x7d' :: rest => '\x7d' :: groupLetters level rest
  | level, c :: rest => c :: groupLetters level rest
  | _, [] => []

/-- What the commands for text have in their braces, from left to right. -/
def textGroups : List Char → List (List Char)
  | '\\' :: 't' :: 'e' :: 'x' :: 't' :: '\x7b' :: rest => groupLetters 0 rest :: textGroups rest
  | '\\' :: _ :: rest => textGroups rest
  | _ :: rest => textGroups rest
  | [] => []

/-- The characters that separate columns, surround formulas and group. -/
def rowSigns : List Char := ['&', '$', '\x7b', '\x7d']

/-- The characters that must not stand in text mode without a backslash. -/
def textSpecials : List Char := ['_', '#', '$', '%', '&', '^', '~']

/-- Whether a character has no meaning of its own in a row. -/
def isUnmarked (c : Char) : Bool := c != '\\' && !rowSigns.contains c

/-! ## Unmarked characters -/

section Unmarked

variable {c : Char} {letters : List Char}

/-- A character without a meaning of its own is none of those with one. -/
theorem ne_of_isUnmarked (h : isUnmarked c = true) :
    c ≠ '\\' ∧ c ≠ '\x7b' ∧ c ≠ '\x7d' ∧ c ∉ rowSigns := by
  rw [isUnmarked,Bool.and_eq_true,bne_iff_ne,Bool.not_eq_true',List.contains_eq_mem,
    decide_eq_false_iff_not] at h
  refine ⟨h.1, ?_, ?_, h.2⟩ <;>
  · rintro rfl
    exact h.2 (by decide)

/-- Unmarked characters are not escaped. -/
theorem unescaped_unmarked (h : ∀ c ∈ letters, isUnmarked c = true) (rest : List Char) :
    unescaped (letters ++ rest) = letters ++ unescaped rest := by
  induction letters with
  | nil => rfl
  | cons c later ih =>
    obtain ⟨hb, -⟩ := ne_of_isUnmarked (h c List.mem_cons_self)
    rw [List.cons_append,unescaped,ih fun d hd => h d (List.mem_cons_of_mem _ hd),
      List.cons_append]
    exact fun _ _ he _ => hb he

/-- Unmarked characters alone are not escaped. -/
theorem unescaped_of_unmarked (h : ∀ c ∈ letters, isUnmarked c = true) :
    unescaped letters = letters := by
  have he := unescaped_unmarked h []
  rwa [List.append_nil,unescaped,List.append_nil] at he

/-- Unmarked characters open and close no group. -/
theorem bracesClose_unmarked (h : ∀ c ∈ letters, isUnmarked c = true) (level : Nat)
    (rest : List Char) : bracesClose level (letters ++ rest) = bracesClose level rest := by
  induction letters with
  | nil => rfl
  | cons c later ih =>
    obtain ⟨-, ho, hc, -⟩ := ne_of_isUnmarked (h c List.mem_cons_self)
    rw [List.cons_append,bracesClose,ih fun d hd => h d (List.mem_cons_of_mem _ hd)]
    · exact ho
    · exact fun _ he => hc he
    · exact fun _ _ he => hc he

/-- Unmarked characters stand in a group up to the brace behind them. -/
theorem groupLetters_unmarked (h : ∀ c ∈ letters, isUnmarked c = true) (rest : List Char) :
    groupLetters 0 (letters ++ '\x7d' :: rest) = letters := by
  induction letters with
  | nil => rfl
  | cons c later ih =>
    obtain ⟨hb, ho, hc, -⟩ := ne_of_isUnmarked (h c List.mem_cons_self)
    rw [List.cons_append,groupLetters,ih fun d hd => h d (List.mem_cons_of_mem _ hd)]
    · exact fun _ _ he _ => hb he
    · exact ho
    · exact fun _ he => hc he
    · exact fun _ he => absurd he (Nat.succ_ne_zero _).symm

/-- Unmarked characters begin no group. -/
theorem textGroups_unmarked (h : ∀ c ∈ letters, isUnmarked c = true) (rest : List Char) :
    textGroups (letters ++ rest) = textGroups rest := by
  induction letters with
  | nil => rfl
  | cons c later ih =>
    obtain ⟨hb, -⟩ := ne_of_isUnmarked (h c List.mem_cons_self)
    rw [List.cons_append,textGroups,ih fun d hd => h d (List.mem_cons_of_mem _ hd)]
    · exact fun _ he _ => hb he
    · exact fun _ _ he _ => hb he

/-- None of the signs of a row is unmarked. -/
theorem count_unmarked (h : ∀ c ∈ letters, isUnmarked c = true) :
    ∀ sign ∈ rowSigns, letters.count sign = 0 := by
  intro sign hs
  refine List.count_eq_zero.mpr fun hm => ?_
  obtain ⟨-, -, -, hn⟩ := ne_of_isUnmarked (h sign hm)
  exact hn hs

end Unmarked

/-! ## Pieces of a row -/

/-- What a piece of a row adds to the row: a number of ampersands and of dollar signs, and groups in
text mode. It is complete, whatever is written behind it. -/
structure Adds (text : String) (ampersands dollars : Nat) (groups : List String) : Prop where
  /-- No escape reaches from the text into what follows. -/
  apart : ∀ rest, unescaped (text.toList ++ rest) = unescaped text.toList ++ unescaped rest
  /-- The groups in text mode that begin in the text end in it. -/
  inText : ∀ rest, textGroups (text.toList ++ rest) = groups.map String.toList ++ textGroups rest
  /-- Every brace that is opened in the text is closed in it. -/
  braces : ∀ level rest,
    bracesClose level (unescaped text.toList ++ rest) = bracesClose level rest
  /-- So many ampersands stand in the text. -/
  ampersands : text.toList.count '&' = ampersands
  /-- So many dollar signs stand in the text. -/
  dollars : text.toList.count '$' = dollars
  /-- None of the signs of a row is escaped. -/
  bare : ∀ sign ∈ rowSigns, (unescaped text.toList).count sign = text.toList.count sign

namespace Adds

variable {text other : String} {m m' n n' : Nat} {groups later : List String}

/-- A text behind another one adds what it adds to what the first one adds. -/
theorem append (h : Adds text m n groups) (ho : Adds other m' n' later) :
    Adds (text ++ other) (m + m') (n + n') (groups ++ later) := by
  have hu : unescaped (text ++ other).toList = unescaped text.toList ++ unescaped other.toList := by
    rw [String.toList_append,h.apart]
  refine ⟨?_, ?_, ?_, ?_, ?_, ?_⟩
  · intro rest
    rw [hu,String.toList_append,List.append_assoc,h.apart,ho.apart,List.append_assoc]
  · intro rest
    rw [String.toList_append,List.append_assoc,h.inText,ho.inText,List.map_append,
      List.append_assoc]
  · intro level rest
    rw [hu,List.append_assoc,h.braces,ho.braces]
  · rw [String.toList_append,List.count_append,h.ampersands,ho.ampersands]
  · rw [String.toList_append,List.count_append,h.dollars,ho.dollars]
  · intro sign hs
    rw [hu,String.toList_append,List.count_append,List.count_append,h.bare sign hs,ho.bare sign hs]

/-- The empty text adds nothing. -/
theorem empty : Adds "" 0 0 [] :=
  ⟨fun _ => rfl, fun _ => rfl, fun _ _ => rfl, rfl, rfl, fun _ _ => rfl⟩

/-- A fixed text that begins no group adds the signs that are counted in it. -/
theorem of_counts
    (ha : ∀ rest, unescaped (text.toList ++ rest) = unescaped text.toList ++ unescaped rest)
    (hg : ∀ rest, textGroups (text.toList ++ rest) = textGroups rest)
    (hb : ∀ level rest,
      bracesClose level (unescaped text.toList ++ rest) = bracesClose level rest)
    (hm : text.toList.count '&' = m) (hn : text.toList.count '$' = n)
    (hs : (rowSigns.all fun sign =>
      (unescaped text.toList).count sign == text.toList.count sign) = true) :
    Adds text m n [] :=
  ⟨ha, hg, hb, hm, hn, fun sign hm => beq_iff_eq.mp (List.all_eq_true.mp hs sign hm)⟩

/-- A text of unmarked characters adds nothing. -/
theorem of_unmarked (hall : text.toList.all isUnmarked = true) : Adds text 0 0 [] := by
  have h := List.all_eq_true.mp hall
  have hu : unescaped text.toList = text.toList := unescaped_of_unmarked h
  refine ⟨?_, textGroups_unmarked h, ?_, count_unmarked h _ (by decide),
    count_unmarked h _ (by decide), ?_⟩
  · intro rest
    rw [hu,unescaped_unmarked h]
  · intro level rest
    rw [hu,bracesClose_unmarked h]
  · intro sign _
    rw [hu]

end Adds

/-! ## Names in text mode -/

/-- A name as it is set in text mode. -/
def setName (name : String) : String := "\\text\x7b" ++ name ++ "\x7d"

section Names

variable {name : String}

/-- The letters of a name that is set in text mode, with text behind them. -/
theorem toList_setName (name : String) (rest : List Char) :
    (setName name).toList ++ rest = "\\text\x7b".toList ++ (name.toList ++ '\x7d' :: rest) := by
  rw [setName,String.toList_append,String.toList_append,List.append_assoc,List.append_assoc]
  rfl

/-- In front of a name the backslash and the letter behind it are an escape. -/
theorem unescaped_setName (h : ∀ c ∈ name.toList, isUnmarked c = true) (rest : List Char) :
    unescaped ((setName name).toList ++ rest) =
      "ext\x7b".toList ++ (name.toList ++ '\x7d' :: unescaped rest) := by
  have hc : unescaped ('\x7d' :: rest) = '\x7d' :: unescaped rest := rfl
  rw [toList_setName,← hc,← unescaped_unmarked h]
  rfl

/-- A name that is set in text mode is a group. -/
theorem textGroups_setName (h : ∀ c ∈ name.toList, isUnmarked c = true) (rest : List Char) :
    textGroups ((setName name).toList ++ rest) = name.toList :: textGroups rest := by
  have hg : textGroups ("\\text\x7b".toList ++ (name.toList ++ '\x7d' :: rest)) =
      groupLetters 0 (name.toList ++ '\x7d' :: rest) ::
        textGroups (name.toList ++ '\x7d' :: rest) := rfl
  rw [toList_setName,hg,groupLetters_unmarked h,textGroups_unmarked h]
  rfl

/-- Of the signs of a row only the two braces stand around a name. -/
theorem count_setName (h : ∀ c ∈ name.toList, isUnmarked c = true) :
    ∀ sign ∈ rowSigns, (setName name).toList.count sign = "\x7b\x7d".toList.count sign ∧
      (unescaped (setName name).toList).count sign = "\x7b\x7d".toList.count sign := by
  have hall : (rowSigns.all fun sign =>
      "\\text\x7b".toList.count sign + ['\x7d'].count sign == "\x7b\x7d".toList.count sign &&
        "ext\x7b".toList.count sign + ['\x7d'].count sign == "\x7b\x7d".toList.count sign) =
          true := by
    decide
  have hl := toList_setName name []
  have hu := unescaped_setName h []
  rw [List.append_nil] at hl hu
  intro sign hs
  have hsign := List.all_eq_true.mp hall sign hs
  rw [Bool.and_eq_true,beq_iff_eq,beq_iff_eq] at hsign
  have hn := count_unmarked h sign hs
  have he : unescaped [] = [] := rfl
  rw [hu,hl,he,List.count_append,List.count_append,List.count_append,List.count_append,hn,
    Nat.zero_add]
  exact hsign

/-- A name of unmarked characters is set in text mode as a group of its own. -/
theorem Adds.setName (h : ∀ c ∈ name.toList, isUnmarked c = true) :
    Adds (setName name) 0 0 [name] := by
  have hu := unescaped_setName h []
  rw [List.append_nil] at hu
  have hcount := count_setName h
  refine ⟨?_, textGroups_setName h, ?_, (hcount _ (by decide)).1, (hcount _ (by decide)).1, ?_⟩
  · intro rest
    rw [hu,unescaped_setName h,List.append_assoc,List.append_assoc]
    rfl
  · intro level rest
    have hb : bracesClose level ("ext\x7b".toList ++ (name.toList ++ '\x7d' :: rest)) =
        bracesClose (level + 1) (name.toList ++ '\x7d' :: rest) := rfl
    have hr : "ext\x7b".toList ++ (name.toList ++ ['\x7d']) ++ rest =
        "ext\x7b".toList ++ (name.toList ++ '\x7d' :: rest) := by
      rw [List.append_assoc,List.append_assoc]
      rfl
    have hn : unescaped [] = [] := rfl
    rw [hu,hn,hr,hb,bracesClose_unmarked h]
    rfl
  · intro sign hs
    obtain ⟨hraw, hbare⟩ := hcount sign hs
    rw [hraw,hbare]

end Names

end BoxedDeduction
