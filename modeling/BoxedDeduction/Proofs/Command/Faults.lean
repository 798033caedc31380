import BoxedDeduction.Proofs.Command.Places
import BoxedDeduction.Proofs.Computation

/-!
# Where texts are refused

The reader of formulas and the reader of commands look for some tokens at each place, and may find
one that cannot follow. Still they cut a text without line feeds in the one way in which the tokens
stay viable as long as possible: where a token is found that cannot follow, no other is written that
can. So both readers refuse exactly the texts that are not accepted, and point at the place where
cutting ends, or at the last token when the text ends too early.
-/

namespace BoxedDeduction

/-- The column at which a text is refused, if it is. -/
def SyntaxFault.columnOf? {Result : Type} : Except SyntaxFault Result → Option Nat
  | .ok _ => none
  | .error fault => some fault.column

/-- What is left behind blanks does not begin with one. -/
theorem isTokenGap_of_skipGap {column : Nat} {cs : List Char} {c : Char} {rest : List Char}
    (h : (skipGap column cs).2 = c :: rest) : Blank.isTokenGap c = false := by
  induction cs generalizing column with
  | nil => cases h
  | cons d more ih =>
    rw [skipGap] at h
    split at h
    · exact ih h
    · split at h
      · exact ih h
      · next hg =>
        cases h
        exact Bool.eq_false_of_not_eq_true hg

/-! ## What is scanned in a state -/

namespace LineState

variable {state next : LineState} {mode : ScanMode} {cs lexeme : List Char} {token : Token}
  {width : Nat}

/-- The tokens that are looked for while a formula or arguments are read. -/
def mode? : LineState → Option ScanMode
  | .formula state => some state.mode
  | .arguments state => some state.mode
  | _ => none

/-- A token that is read is looked for, and then those that may follow in the next state. -/
theorem admits_of_step (hm : state.mode? = some mode) (hs : state.step (.plain token) = some next) :
    mode.admits token = true ∧ next.mode? = some token.nextMode := by
  cases state with
  | formula state =>
    obtain ⟨following, hf, rfl⟩ := Option.map_eq_some_iff.mp hs
    cases hm
    obtain ⟨ha, hn⟩ := FormulaState.admits_of_step hf
    exact ⟨ha, congrArg some hn.symm⟩
  | arguments state =>
    obtain ⟨following, hf, rfl⟩ := Option.map_eq_some_iff.mp hs
    cases hm
    obtain ⟨ha, hn⟩ := ArgumentState.admits_of_step hf
    exact ⟨ha, congrArg some hn.symm⟩
  | start | index | name | topic | closed => cases hm

/-- While a formula or arguments are read only their tokens can follow. -/
theorem exists_plain (hm : state.mode? = some mode) {other : LineToken}
    (hs : state.step other = some next) : ∃ plain, other = .plain plain := by
  cases state with
  | formula state =>
    obtain ⟨plain, _, h, -⟩ := step_formula_eq_some hs
    exact ⟨plain, h⟩
  | arguments state =>
    obtain ⟨plain, _, h, -⟩ := step_arguments_eq_some hs
    exact ⟨plain, h⟩
  | start | index | name | topic | closed => cases hm

/-- Behind an operand an implication can follow. -/
theorem exists_step_imply (hm : state.mode? = some .continuation) :
    ∃ next, state.step (.plain .imply) = some next := by
  have hoperand : ∀ formula : FormulaState, formula.mode = .continuation →
      ∃ following, formula.step .imply = some following := by
    rintro ⟨stack, operand⟩ hf
    cases operand with
    | none => cases hf
    | some operand => exact ⟨_, FormulaState.step_imply rfl⟩
  cases state with
  | formula formula =>
    obtain ⟨following, hs⟩ := hoperand formula (Option.some.inj hm)
    exact ⟨_, congrArg (Option.map LineState.formula) hs⟩
  | arguments state =>
    obtain ⟨finished, formula⟩ := state
    cases formula with
    | none => cases hm
    | some formula =>
      obtain ⟨following, hs⟩ := hoperand formula (Option.some.inj hm)
      refine ⟨.arguments ⟨finished, some following⟩, ?_⟩
      simp only [step, ArgumentState.step, hs, Option.map_some]
  | start | index | name | topic | closed => cases hm

/-- Whether a token can follow does not depend on its letters. -/
theorem isSome_step_terminal (state : LineState) (token : Token) :
    (state.step (.plain token.terminal)).isSome = (state.step (.plain token)).isSome := by
  have hformula : ∀ formula : FormulaState,
      (formula.step token.terminal).isSome = (formula.step token).isSome := by
    rintro ⟨stack, operand⟩
    cases token <;> cases operand <;> rfl
  have harguments : ∀ arguments : ArgumentState,
      (arguments.step token.terminal).isSome = (arguments.step token).isSome := by
    rintro ⟨finished, formula⟩
    cases formula with
    | none => cases token <;> rfl
    | some formula =>
      cases token with
      | bottom | openParen | closeParen | neg | and | or | imply => rfl
      | name | index =>
        obtain ⟨stack, operand⟩ := formula
        cases operand with
        | none => rfl
        | some operand =>
          -- Behind an operand a name or an index begins the next argument.
          simp only [ArgumentState.step, Token.terminal, FormulaState.step,
            FormulaState.stepContinuation]
          cases FormulaState.result? ⟨stack, some operand⟩ <;> rfl
  cases state with
  | formula formula => simp only [step, Option.isSome_map, hformula]
  | arguments arguments => simp only [step, Option.isSome_map, harguments]
  | start | index | name | topic | closed => cases token <;> rfl

/-- Where a token is written that can follow, one is scanned that is at least as long. It is of the
same sort, or the arrow that the token begins. -/
theorem exists_scan?_of_step (hm : state.mode? = some mode) {other : LineToken}
    (hw : other.Written lexeme) (hp : lexeme <+: cs) (ho : state.step other = some next) :
    ∃ plain found width, other = .plain plain ∧ scan? mode cs = some (found, width) ∧
      lexeme.length ≤ width ∧ (found.terminal = plain.terminal ∨ found = .imply) := by
  obtain ⟨plain, rfl⟩ := exists_plain hm ho
  obtain ⟨rest, rfl⟩ := hp
  obtain ⟨found, width, hf, hl, ht⟩ := hw.of_plain.exists_scan? (admits_of_step hm ho).1 rest
  exact ⟨plain, found, width, rfl, hf, hl, ht⟩

/-- Where a token is scanned that cannot follow, no token that can follow is written. -/
theorem step_eq_none_of_refused (hm : state.mode? = some mode)
    (hs : scan? mode cs = some (token, width)) (hn : state.step (.plain token) = none)
    {other : LineToken} (hw : other.Written lexeme) (hp : lexeme <+: cs) :
    state.step other = none := by
  by_contra hne
  obtain ⟨next, ho⟩ := Option.ne_none_iff_exists'.mp hne
  obtain ⟨plain, found, _, rfl, hf, -, ht⟩ := exists_scan?_of_step hm hw hp ho
  rw [hs] at hf
  cases hf
  rcases ht with ht | rfl
  · have hsome := state.isSome_step_terminal token
    rw [ht,isSome_step_terminal,ho,hn] at hsome
    cases hsome
  · -- An arrow is only looked for behind an operand, where it can follow.
    have hc : mode = .continuation := by
      have ha := admits_of_scan? hs
      cases mode <;> first | rfl | cases ha
    rw [hc] at hm
    obtain ⟨_, hi⟩ := exists_step_imply hm
    rw [hn] at hi
    cases hi

/-- Where no token is scanned, no token that can follow is written. -/
theorem step_eq_none_of_scan?_eq_none (hm : state.mode? = some mode) (hs : scan? mode cs = none)
    {other : LineToken} (hw : other.Written lexeme) (hp : lexeme <+: cs) :
    state.step other = none := by
  by_contra hne
  obtain ⟨next, ho⟩ := Option.ne_none_iff_exists'.mp hne
  obtain ⟨_, _, _, -, hf, -⟩ := exists_scan?_of_step hm hw hp ho
  rw [hs] at hf
  cases hf

/-- No token that can follow is longer than the one that is scanned. -/
theorem length_le_of_scan? (hm : state.mode? = some mode)
    (hs : scan? mode cs = some (token, width)) {other : LineToken} (hw : other.Written lexeme)
    (hp : lexeme <+: cs) (ho : state.step other = some next) : lexeme.length ≤ width := by
  obtain ⟨_, _, _, -, hf, hl, -⟩ := exists_scan?_of_step hm hw hp ho
  rw [hs] at hf
  cases hf
  exact hl

/-- The column at which reading cannot go on. The given column is that of the latest token. -/
def settledColumn? (ending : ScanEnd) (column : Nat) (state : LineState) :
    List LocatedToken → Option Nat
  | [] =>
    match ending with
    | .stuck place _ => some place
    | .complete => if state.isComplete then none else some column
  | next :: rest =>
    match state.step (.plain next.token) with
    | some following => settledColumn? ending next.column following rest
    | none => some next.column

/-- Reading a formula settles a line at the same column. -/
theorem columnOf?_readFormula (outside : List Expected) (ending : ScanEnd) (column : Nat)
    (state : FormulaState) (tokens : List LocatedToken) :
    SyntaxFault.columnOf? (readFormula outside ending column state tokens) =
      (LineState.formula state).settledColumn? ending column tokens := by
  induction tokens generalizing column state with
  | nil =>
    cases ending with
    | stuck place mode => rfl
    | complete =>
      rw [readFormula,settledColumn?,isComplete]
      cases state.result? <;> rfl
  | cons next rest ih =>
    rw [readFormula,settledColumn?]
    cases hs : state.step next.token with
    | some following =>
      simp only [step, hs, Option.map_some]
      exact ih _ _
    | none => simp only [step, hs, Option.map_none, SyntaxFault.columnOf?]

/-- Reading arguments settles a line at the same column. -/
theorem columnOf?_readArguments (ending : ScanEnd) (column : Nat) (state : ArgumentState)
    (tokens : List LocatedToken) :
    SyntaxFault.columnOf? (readArguments ending column state tokens) =
      (LineState.arguments state).settledColumn? ending column tokens := by
  induction tokens generalizing column state with
  | nil =>
    cases ending with
    | stuck place mode => rfl
    | complete =>
      rw [readArguments,settledColumn?,isComplete]
      cases state.result? <;> rfl
  | cons next rest ih =>
    rw [readArguments,settledColumn?]
    cases hs : state.step next.token with
    | some following =>
      simp only [step, hs, Option.map_some]
      exact ih _ _
    | none => simp only [step, hs, Option.map_none, SyntaxFault.columnOf?]

end LineState

/-! ## Words that can follow in a state -/

/-- Whether exactly the words of a class, as tokens, can follow in a state. -/
structure LineState.Awaits (state : LineState) (starts later : Char → Bool)
    (make : List Char → LineToken) (next : LineState) : Prop where
  /-- A word of the class is written for its token, and it leads to the next state. -/
  follows : ∀ c letters, starts c = true → (∀ d ∈ letters, later d = true) →
    (make (c :: letters)).Written (c :: letters) ∧ state.step (make (c :: letters)) = some next
  /-- What is written for a token that can follow is a word of the class. -/
  only : ∀ token lexeme following, LineToken.Written token lexeme →
    state.step token = some following →
      ∃ c letters, lexeme = c :: letters ∧ starts c = true ∧ ∀ d ∈ letters, later d = true

/-- Where an index must follow words of digits can follow. -/
theorem LineState.awaits_index :
    index.Awaits Char.isDigit Char.isDigit (fun letters => .plain (.index letters)) .closed where
  follows := fun c letters hc hl => ⟨.plain (.index hc hl), rfl⟩
  only := by
    intro token lexeme following hw hs
    obtain ⟨digits, rfl, -⟩ := step_index_eq_some hs
    cases hw.of_plain with
    | index hf hl => exact ⟨_, _, rfl, hf, hl⟩
    | sign hm => cases hm

/-- Where the name of a rule must follow names of rules can follow. -/
theorem LineState.awaits_name :
    name.Awaits isRuleNameStart isRuleNameLetter .ruleName (.arguments .start) where
  follows := fun c letters hc hl => ⟨.ruleName hc hl, rfl⟩
  only := by
    intro token lexeme following hw hs
    obtain ⟨letters, rfl, -⟩ := step_name_eq_some hs
    cases hw with
    | ruleName hf hl => exact ⟨_, _, rfl, hf, hl⟩

/-- Where the name of a rule may follow names of rules can follow. -/
theorem LineState.awaits_topic :
    topic.Awaits isRuleNameStart isRuleNameLetter .ruleName .closed where
  follows := fun c letters hc hl => ⟨.ruleName hc hl, rfl⟩
  only := by
    intro token lexeme following hw hs
    obtain ⟨letters, rfl, -⟩ := step_topic_eq_some hs
    cases hw with
    | ruleName hf hl => exact ⟨_, _, rfl, hf, hl⟩

/-! ## Reading and cutting go together -/

/-- Whether a place without line feeds behind it is reached with a state. -/
structure Arrives (initial : LineState) (text : List Char) (place : Place) (state : LineState) :
    Prop where
  /-- The place is reached. -/
  reached : place.Reached initial.Accepts text
  /-- Its tokens lead to the state. -/
  run : initial.run place.tokens = some state
  /-- No line feed is left. -/
  lineFeed : '\n' ∉ place.rest

namespace Arrives

variable {initial state : LineState} {text front rest : List Char} {tokens : List LineToken}
  {last : Nat}

/-- At the beginning nothing has been read. -/
theorem first (hl : '\n' ∉ text) : Arrives initial text (.first text) initial :=
  ⟨Relation.ReflTransGen.refl, rfl, hl⟩

/-- Blanks are skipped. -/
theorem skipGap (hp : Arrives initial text ⟨front, rest, tokens, last⟩ state) :
    ∃ further, (BoxedDeduction.skipGap (front.length + 1) rest).1 = further.length + 1 ∧
      Arrives initial text
        ⟨further, (BoxedDeduction.skipGap (front.length + 1) rest).2, tokens, last⟩ state := by
  induction rest generalizing front with
  | nil => exact ⟨front, rfl, hp⟩
  | cons c more ih =>
    obtain ⟨hc, hl⟩ := List.ne_and_not_mem_of_not_mem_cons hp.lineFeed
    rw [BoxedDeduction.skipGap,if_neg hc.symm]
    split
    · next hg =>
      have hnext : Arrives initial text ⟨front ++ [c], more, tokens, last⟩ state :=
        ⟨hp.reached.tail (.gap hg), hp.run, hl⟩
      have hlen : front.length + 1 + 1 = (front ++ [c]).length + 1 := by
        rw [List.length_append,List.length_singleton]
      rw [hlen]
      exact ih hnext
    · exact ⟨front, rfl, hp⟩

/-- Blanks at the beginning are skipped. -/
theorem skipGap_first (initial : LineState) (hl : '\n' ∉ text) :
    ∃ further, (BoxedDeduction.skipGap 1 text).1 = further.length + 1 ∧
      Arrives initial text ⟨further, (BoxedDeduction.skipGap 1 text).2, [], 1⟩ initial :=
  (first hl).skipGap

/-- The longest token that can follow is cut off. -/
theorem token {lexeme : List Char}
    (hp : Arrives initial text ⟨front, lexeme ++ rest, tokens, last⟩ state) {token : LineToken}
    {next : LineState} (hw : token.Written lexeme) (hs : state.step token = some next)
    (hl : ∀ other longer, other.Written longer → longer <+: lexeme ++ rest →
      (∃ following, state.step other = some following) → longer.length ≤ lexeme.length) :
    Arrives initial text ⟨front ++ lexeme, rest, tokens ++ [token], front.length + 1⟩ next where
  reached := by
    have he := (Place.extends_iff hp.run).mpr ⟨hw, List.prefix_append _ _, next, hs⟩
    refine hp.reached.tail (.token he ?_)
    intro other longer ho
    obtain ⟨hw', hp', hs'⟩ := (Place.extends_iff hp.run).mp ho
    exact hl other longer hw' hp' hs'
  run := (LineState.run_concat hp.run token).trans hs
  lineFeed := fun hm => hp.lineFeed (List.mem_append_right _ hm)

/-- Where no token that can follow is written cutting ends. -/
theorem stops {c : Char} (hp : Arrives initial text ⟨front, c :: rest, tokens, last⟩ state)
    (hg : Blank.isTokenGap c = false)
    (hn : ∀ token lexeme, token.Written lexeme → lexeme <+: c :: rest → state.step token = none) :
    Settles initial.Accepts text (some (front.length + 1)) := by
  refine .stuck hp.reached ⟨⟨c, rest, rfl, hg⟩, ?_⟩
  intro token lexeme he
  obtain ⟨hw, hpre, next, hs⟩ := (Place.extends_iff hp.run).mp he
  rw [hn token lexeme hw hpre] at hs
  cases hs

/-- At the end of a text cutting ends. -/
theorem ends (hp : Arrives initial text ⟨front, [], tokens, last⟩ state) :
    Settles initial.Accepts text (if state.isComplete then none else some last) := by
  have hfront : front = text := by
    rw [← hp.reached.front_append_rest,List.append_nil]
  rw [hfront] at hp
  split
  · next hc => exact .accepted hp.reached ⟨state, hp.run, hc⟩
  · next hc =>
    refine .refused hp.reached ?_
    rintro ⟨final, hr, hf⟩
    rw [hp.run] at hr
    cases hr
    exact hc hf

/-- A token that is scanned is cut off if it can follow. -/
theorem scanned {mode : ScanMode} {token : Token} {width : Nat} {next : LineState}
    (hp : Arrives initial text ⟨front, rest, tokens, last⟩ state) (hm : state.mode? = some mode)
    (hs : scan? mode rest = some (token, width)) (hstep : state.step (.plain token) = some next) :
    ∃ further, front.length + 1 + width = further.length + 1 ∧ Arrives initial text
      ⟨further, rest.drop width, tokens ++ [.plain token], front.length + 1⟩ next := by
  obtain ⟨lexeme, behind, rfl, rfl, hw⟩ := written_of_scan? hs
  rw [List.drop_left]
  refine ⟨front ++ lexeme, ?_, hp.token (.plain hw) hstep ?_⟩
  · rw [List.length_append]
    omega
  · intro other longer hw' hpre ⟨_, ho⟩
    exact LineState.length_le_of_scan? hm hs hw' hpre ho

/-- While a formula or arguments are read, cutting ends where reading does. -/
theorem settles_of_tokenize (hp : Arrives initial text ⟨front, rest, tokens, last⟩ state)
    {mode : ScanMode} (hm : state.mode? = some mode) :
    Settles initial.Accepts text
      (state.settledColumn? (tokenize mode (front.length + 1) rest).ending last
        (tokenize mode (front.length + 1) rest).tokens) := by
  generalize hplace : front.length + 1 = place
  fun_induction tokenize mode place rest generalizing front tokens last state with
  | case1 mode place rest found width hs start =>
    rename_i later ih
    subst hplace
    obtain ⟨further, hstart, hp'⟩ := hp.skipGap
    change start = further.length + 1 at hstart
    rw [LineState.settledColumn?,hstart]
    dsimp only
    split
    · next next hstep =>
      obtain ⟨beyond, hlen, hnext⟩ := hp'.scanned hm hs hstep
      exact ih hnext (LineState.admits_of_step hm hstep).2 (by rw [hstart,hlen])
    · next hstep =>
      obtain ⟨c, more, hcons⟩ := List.exists_cons_of_ne_nil (scan?_pos hs).1
      have hg := isTokenGap_of_skipGap hcons
      rw [hcons] at hp' hs
      exact hp'.stops hg fun token lexeme => LineState.step_eq_none_of_refused hm hs hstep
  | case2 mode place rest hs he =>
    subst hplace
    obtain ⟨further, -, hp'⟩ := hp.skipGap
    rw [he] at hp'
    exact hp'.ends
  | case3 mode place rest hs he =>
    subst hplace
    obtain ⟨further, hstart, hp'⟩ := hp.skipGap
    obtain ⟨c, more, hcons⟩ := List.exists_cons_of_ne_nil he
    have hg := isTokenGap_of_skipGap hcons
    rw [hcons] at hp' hs
    rw [LineState.settledColumn?,hstart]
    exact hp'.stops hg fun token lexeme => LineState.step_eq_none_of_scan?_eq_none hm hs

/-- While a formula is read, cutting ends where reading does. -/
theorem settles_of_readFormulaText
    (hp : Arrives initial text ⟨front, rest, tokens, last⟩ (.formula .start))
    (outside : List Expected) : Settles initial.Accepts text
      (SyntaxFault.columnOf? (readFormulaText outside last (front.length + 1) rest)) := by
  rw [readFormulaText,LineState.columnOf?_readFormula]
  exact hp.settles_of_tokenize rfl

/-- While arguments are read, cutting ends where reading does. -/
theorem settles_of_readArguments
    (hp : Arrives initial text ⟨front, rest, tokens, last⟩ (.arguments .start)) :
    Settles initial.Accepts text
      (SyntaxFault.columnOf? (readArguments (tokenize .argument (front.length + 1) rest).ending last
        .start (tokenize .argument (front.length + 1) rest).tokens)) := by
  rw [LineState.columnOf?_readArguments]
  exact hp.settles_of_tokenize rfl

/-- Where nothing may follow, cutting ends at what stands there. -/
theorem settles_of_readEnd (hp : Arrives initial text ⟨front, rest, tokens, last⟩ .closed) :
    Settles initial.Accepts text
      (SyntaxFault.columnOf? (readEnd (front.length + 1) rest)) := by
  obtain ⟨further, hstart, hp'⟩ := hp.skipGap
  rw [readEnd]
  split
  · next place he =>
    rw [he] at hp'
    exact hp'.ends
  · next place c more he =>
    rw [he] at hstart hp'
    obtain rfl : place = further.length + 1 := hstart
    exact hp'.stops (isTokenGap_of_skipGap (congrArg Prod.snd he)) fun token _ _ _ =>
      LineState.step_closed token

section Words

variable {starts later : Char → Bool} {make : List Char → LineToken} {next : LineState}
  {expected : Expected}

/-- Where words of a class can follow and none is read, cutting ends, unless the line may end. -/
theorem settles_of_readWord (ha : state.Awaits starts later make next) {fault : SyntaxFault}
    (hp : Arrives initial text ⟨front, rest, tokens, last⟩ state)
    (hc : (BoxedDeduction.skipGap (front.length + 1) rest).2 = [] → state.isComplete = false)
    (hr : readWord starts later expected last (front.length + 1) rest = .error fault) :
    Settles initial.Accepts text (some fault.column) := by
  obtain ⟨further, hstart, hp'⟩ := hp.skipGap
  rw [readWord] at hr
  split at hr
  · next place he =>
    rw [he] at hp' hc
    cases hr
    have hends := hp'.ends
    rw [hc rfl] at hends
    exact hends
  · next place c more he =>
    rw [he] at hstart hp'
    split at hr
    · cases hr
    · next hs =>
      cases hr
      obtain rfl : place = further.length + 1 := hstart
      refine hp'.stops (isTokenGap_of_skipGap (congrArg Prod.snd he)) ?_
      intro token lexeme hw hpre
      by_contra hne
      obtain ⟨following, hstep⟩ := Option.ne_none_iff_exists'.mp hne
      obtain ⟨d, letters, rfl, hd, -⟩ := ha.only token lexeme following hw hstep
      rw [(List.cons_prefix_cons.mp hpre).1] at hd
      exact hs hd

/-- A word that is read is cut off. -/
theorem exists_of_readWord (ha : state.Awaits starts later make next) {word : LocatedWord}
    (hp : Arrives initial text ⟨front, rest, tokens, last⟩ state)
    (hr : readWord starts later expected last (front.length + 1) rest = .ok word) :
    ∃ further, word.next = further.length + 1 ∧ Arrives initial text
      ⟨further, word.rest, tokens ++ [make word.letters], word.column⟩ next := by
  obtain ⟨further, hstart, hp'⟩ := hp.skipGap
  rw [readWord] at hr
  split at hr
  · cases hr
  · next place c more he =>
    rw [he] at hstart hp'
    split at hr
    · next hs =>
      cases hr
      obtain rfl : place = further.length + 1 := hstart
      have hall : ∀ d ∈ more.takeWhile later, later d = true :=
        fun d hd => List.all_eq_true.mp List.all_takeWhile d hd
      obtain ⟨hw, hstep⟩ := ha.follows c _ hs hall
      have hsplit : c :: more = (c :: more.takeWhile later) ++ more.dropWhile later := by
        rw [List.cons_append,List.takeWhile_append_dropWhile]
      change Arrives initial text ⟨further, c :: more, tokens, last⟩ state at hp'
      rw [hsplit] at hp'
      refine ⟨further ++ c :: more.takeWhile later, ?_, hp'.token hw hstep ?_⟩
      · change further.length + 1 + (c :: more.takeWhile later).length = _
        rw [List.length_append]
        omega
      · rintro other longer hw' hpre ⟨following, hs'⟩
        obtain ⟨d, letters, rfl, -, hl⟩ := ha.only other longer following hw' hs'
        rw [← hsplit] at hpre
        obtain ⟨behind, rfl⟩ := (List.cons_prefix_cons.mp hpre).2
        rw [List.takeWhile_append_of_pos hl,List.length_cons,List.length_cons,List.length_append]
        omega
    · cases hr

end Words

/-- Where no keyword begins a text, cutting ends. -/
theorem settles_of_readKeyword (hl : '\n' ∉ text) {fault : SyntaxFault}
    (hr : readKeyword text = .error fault) :
    Settles LineState.start.Accepts text (some fault.column) := by
  obtain ⟨further, hstart, hp⟩ := skipGap_first .start hl
  simp only [readKeyword] at hr
  split at hr
  · next place he =>
    cases hr
    rw [he] at hp
    exact hp.ends
  · next place c more he =>
    rw [he] at hstart hp
    obtain rfl : place = further.length + 1 := hstart
    split at hr
    · next hf =>
      cases hr
      refine hp.stops (isTokenGap_of_skipGap (congrArg Prod.snd he)) ?_
      intro token lexeme hw hpre
      by_contra hne
      obtain ⟨following, hstep⟩ := Option.ne_none_iff_exists'.mp hne
      obtain ⟨word, rfl, -⟩ := LineState.step_start_eq_some hstep
      rw [hw.eq_letters] at hpre
      have hnone := List.find?_eq_none.mp hf word word.mem_all
      exact hnone (List.isPrefixOf_iff_prefix.mpr hpre)
    · cases hr

/-- A keyword that is read is cut off. -/
theorem exists_of_readKeyword (hl : '\n' ∉ text) {keyword : Keyword} {word : LocatedWord}
    (hr : readKeyword text = .ok (keyword, word)) :
    ∃ further, word.next = further.length + 1 ∧ Arrives .start text
      ⟨further, word.rest, [.keyword keyword], word.column⟩ keyword.opens := by
  obtain ⟨further, hstart, hp⟩ := skipGap_first .start hl
  simp only [readKeyword] at hr
  split at hr
  · cases hr
  · next place c more he =>
    rw [he] at hstart hp
    obtain rfl : place = further.length + 1 := hstart
    split at hr
    · cases hr
    · next found hf =>
      cases hr
      obtain ⟨behind, hb⟩ : keyword.letters <+: c :: more :=
        List.isPrefixOf_iff_prefix.mp (by simpa using List.find?_some hf)
      change Arrives .start text ⟨further, c :: more, [], 1⟩ .start at hp
      rw [← hb] at hp ⊢
      rw [List.drop_left]
      refine ⟨further ++ keyword.letters, ?_, hp.token (.keyword keyword) rfl ?_⟩
      · change further.length + 1 + keyword.letters.length = _
        rw [List.length_append]
        omega
      · rintro other longer hw hpre ⟨following, hs⟩
        obtain ⟨word, rfl, -⟩ := LineState.step_start_eq_some hs
        rw [hw.eq_letters] at hpre ⊢
        -- A text begins with one keyword only.
        obtain ⟨more', hm⟩ := hpre
        have hfind := word.find?_letters more'
        rw [hm,keyword.find?_letters,Option.some.injEq] at hfind
        rw [hfind]

end Arrives

/-! ## Texts that are refused -/

/-- A line that matches the grammar is not refused for leaving it. -/
theorem WrittenCommand.value_ne_malformed (written : WrittenCommand) (stripped : String)
    (fault : SyntaxFault) : written.value ≠ .error (.malformed stripped fault) := by
  have hindex : ∀ digits, indexOfDigits digits ≠ .error (.malformed stripped fault) := by
    intro digits he
    rw [indexOfDigits] at he
    split at he <;> cases he
  cases written with
  | plain command =>
    intro he
    cases he
  | copy digits =>
    refine bind_ne_error (hindex digits) fun _ he => ?_
    cases he
  | rule name arguments =>
    refine bind_ne_error (mapM_ne_error ?_) ?_
    · intro argument _
      cases argument with
      | prop p =>
        intro he
        cases he
      | index digits =>
        refine bind_ne_error (hindex digits) fun _ he => ?_
        cases he
    · intro values he
      split at he <;> cases he

/-- What is made of a reading is refused at the same column. -/
theorem SyntaxFault.columnOf?_map {Result Made : Type} (reading : Except SyntaxFault Result)
    (make : Result → Made) :
    columnOf? (reading >>= fun result => pure (make result)) = columnOf? reading := by
  cases reading <;> rfl

/-- Cutting ends where two readings do, one behind the other. -/
theorem settles_bind {accepted : List LineToken → Prop} {text : List Char} {First Second : Type}
    {reading : Except SyntaxFault First} {later : First → Except SyntaxFault Second}
    (hf : ∀ fault, reading = .error fault → Settles accepted text (some fault.column))
    (hs : ∀ result, reading = .ok result →
      Settles accepted text (SyntaxFault.columnOf? (later result))) :
    Settles accepted text (SyntaxFault.columnOf? (reading >>= later)) := by
  cases hr : reading with
  | error fault => exact hf fault hr
  | ok result => exact hs result hr

/-- While a command is read, cutting ends where reading does. -/
theorem settles_of_readWritten {text : List Char} (hl : '\n' ∉ text) :
    Settles LineState.start.Accepts text (SyntaxFault.columnOf? (readWritten text)) := by
  rw [readWritten]
  refine settles_bind (fun fault hk => Arrives.settles_of_readKeyword hl hk) ?_
  rintro ⟨keyword, word⟩ hk
  obtain ⟨front, hnext, hp⟩ := Arrives.exists_of_readKeyword hl hk
  dsimp only
  rw [hnext]
  cases keyword with
  | premise | assume =>
    dsimp only
    rw [SyntaxFault.columnOf?_map]
    exact hp.settles_of_readFormulaText _
  | discharge | close | undo | display | latex | unused | quit | exit =>
    dsimp only
    rw [SyntaxFault.columnOf?_map]
    exact hp.settles_of_readEnd
  | copy =>
    refine settles_bind
      (fun fault hw => hp.settles_of_readWord LineState.awaits_index (fun _ => rfl) hw) ?_
    intro index hw
    obtain ⟨further, hn, hp'⟩ := hp.exists_of_readWord LineState.awaits_index hw
    rw [hn,SyntaxFault.columnOf?_map]
    exact hp'.settles_of_readEnd
  | rule =>
    refine settles_bind
      (fun fault hw => hp.settles_of_readWord LineState.awaits_name (fun _ => rfl) hw) ?_
    intro name hw
    obtain ⟨further, hn, hp'⟩ := hp.exists_of_readWord LineState.awaits_name hw
    rw [hn,SyntaxFault.columnOf?_map]
    exact hp'.settles_of_readArguments
  | help =>
    dsimp only
    split
    · next place he =>
      obtain ⟨further, -, hp'⟩ := hp.skipGap
      rw [he] at hp'
      exact hp'.ends
    · next hne =>
      refine settles_bind (fun fault hw => ?_) ?_
      · refine hp.settles_of_readWord LineState.awaits_topic (fun he => ?_) hw
        exact (hne _ (Prod.ext rfl he)).elim
      · intro name hw
        obtain ⟨further, hn, hp'⟩ := hp.exists_of_readWord LineState.awaits_topic hw
        rw [hn,SyntaxFault.columnOf?_map]
        exact hp'.settles_of_readEnd

/-- The column at which a text is refused as a formula, if it is. -/
def Proposition.faultColumn? (text : String) : Option Nat :=
  SyntaxFault.columnOf? (Proposition.read text)

/-- The column at which a line is refused for leaving the grammar of commands, if it is. -/
def Command.faultColumn? (text : String) : Option Nat :=
  match Command.read text with
  | .error (.malformed _ fault) => some fault.column
  | _ => none

/-- A line leaves the grammar of commands where matching it against the grammar fails. -/
theorem Command.faultColumn?_eq (text : String) :
    Command.faultColumn? text = SyntaxFault.columnOf? (readWritten text.toList) := by
  rw [Command.faultColumn?,Command.read]
  cases hw : readWritten text.toList with
  | error fault => rfl
  | ok written =>
    split
    · next stripped fault hv => exact absurd hv (written.value_ne_malformed stripped fault)
    · rfl

/-- A text without line feeds is refused, as a formula or as a command, exactly when it is not
accepted. The fault points at the first place where no token can follow the tokens in front of it,
or at the last token if the text ends too early. -/
theorem pinpoints_fault {text : String} (hl : '\n' ∉ text.toList) :
    Pinpoints IsFormulaLine text.toList (Proposition.faultColumn? text) ∧
      Pinpoints IsCommandLine text.toList (Command.faultColumn? text) := by
  have hformula : (LineState.formula .start).Accepts = IsFormulaLine :=
    funext fun _ => propext LineState.accepts_formula_iff
  have hcommand : LineState.start.Accepts = IsCommandLine :=
    funext fun _ => propext LineState.accepts_start_iff
  rw [← hformula,← hcommand]
  constructor
  · exact ((Arrives.first hl).settles_of_readFormulaText []).pinpoints
  · rw [Command.faultColumn?_eq]
    exact (settles_of_readWritten hl).pinpoints

/-- A name cannot follow a name in parentheses, nor a parenthesis the name of a formula. -/
theorem pinpoints_fault_second_name : '\n' ∉ "premise (p -> q r".toList ∧
    Pinpoints IsFormulaLine "premise (p -> q r".toList (some 9) ∧
      Pinpoints IsCommandLine "premise (p -> q r".toList (some 17) := by
  have hl : '\n' ∉ "premise (p -> q r".toList := by decide
  have hformula : Proposition.faultColumn? "premise (p -> q r" = some 9 := by decide +kernel
  have hcommand : Command.faultColumn? "premise (p -> q r" = some 17 := by decide +kernel
  have hp := pinpoints_fault hl
  rw [hformula,hcommand] at hp
  exact ⟨hl, hp⟩

end BoxedDeduction
