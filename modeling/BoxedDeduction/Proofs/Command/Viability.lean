import BoxedDeduction.Proofs.Command.Arguments

/-!
# Viable prefixes of lines

A line is a formula, or a command: a keyword and then nothing, a formula, an index, or the name of a
rule, perhaps with arguments that stand side by side. Tokens are viable when more tokens can make an
accepted line of them. What has been read of a line is a state, from which each token leads to the
next state or cannot follow. Every state can be completed, so the tokens that lead to a state are
exactly the viable ones.
-/

namespace BoxedDeduction

/-! ## Lines -/

/-- A token of a line. -/
inductive LineToken where
  /-- The word that begins a command. -/
  | keyword (word : Keyword)
  /-- The name of a rule. -/
  | ruleName (letters : List Char)
  /-- A token of a formula or of the arguments of a rule. -/
  | plain (token : Token)
  deriving DecidableEq

/-- How a token of a line is written. -/
inductive LineToken.Written : LineToken → List Char → Prop where
  /-- A keyword is written with its letters. -/
  | keyword (word : Keyword) : Written (.keyword word) word.letters
  /-- The name of a rule begins with no digit and holds neither blanks nor parentheses. -/
  | ruleName {first : Char} {later : List Char} (hf : isRuleNameStart first = true)
    (hl : ∀ c ∈ later, isRuleNameLetter c = true) :
    Written (.ruleName (first :: later)) (first :: later)
  /-- The other tokens are written as in a formula. -/
  | plain {token : Token} {lexeme : List Char} (h : token.Written lexeme) :
    Written (.plain token) lexeme

/-- The tokens of arguments that stand side by side. -/
inductive IsArguments : List Token → Prop where
  /-- There need not be any. -/
  | nil : IsArguments []
  /-- An index is an argument. -/
  | index {tokens : List Token} (digits : List Char) (h : IsArguments tokens) :
    IsArguments (tokens ++ [.index digits])
  /-- A formula is an argument. -/
  | prop {tokens later : List Token} {p : Proposition} (h : IsArguments tokens)
    (hd : Derives .prop later p) : IsArguments (tokens ++ later)

/-- The keywords that are commands by themselves. -/
def Keyword.bare : List Keyword :=
  [.discharge, .close, .undo, .display, .latex, .unused, .help, .quit, .exit]

/-- The tokens of a command. -/
inductive IsCommandLine : List LineToken → Prop where
  /-- A premise or an assumption is a formula. -/
  | formula {keyword : Keyword} {tokens : List Token} {p : Proposition}
    (hk : keyword = .premise ∨ keyword = .assume) (hd : Derives .prop tokens p) :
    IsCommandLine (.keyword keyword :: tokens.map .plain)
  /-- A line is copied by its index. -/
  | copy (digits : List Char) : IsCommandLine [.keyword .copy, .plain (.index digits)]
  /-- Some keywords need nothing behind them. -/
  | bare {keyword : Keyword} (hk : keyword ∈ Keyword.bare) : IsCommandLine [.keyword keyword]
  /-- Help may be asked for on a rule. -/
  | help (name : List Char) : IsCommandLine [.keyword .help, .ruleName name]
  /-- A rule is called by its name with arguments. -/
  | rule (name : List Char) {tokens : List Token} (ha : IsArguments tokens) :
    IsCommandLine (.keyword .rule :: .ruleName name :: tokens.map .plain)

/-- The tokens of a formula. -/
def IsFormulaLine (tokens : List LineToken) : Prop :=
  ∃ plain p, tokens = plain.map .plain ∧ Derives .prop plain p

/-- Whether more tokens, which can be written, make an accepted line of given ones. -/
def Viable (accepted : List LineToken → Prop) (tokens : List LineToken) : Prop :=
  ∃ more, (∀ token ∈ more, ∃ lexeme, LineToken.Written token lexeme) ∧ accepted (tokens ++ more)

/-! ## Completing a formula -/

namespace FormulaState

/-- What is left of a stack when a formula is finished is nothing or an open parenthesis. -/
theorem exists_finish_one (operand : Proposition) (stack : List Pending) :
    ∃ p, Pending.finish 1 operand stack = (p, []) ∨
      ∃ outer, Pending.finish 1 operand stack = (p, .group :: outer) ∧
        outer.length < stack.length := by
  induction stack generalizing operand with
  | nil => exact ⟨operand, Or.inl rfl⟩
  | cons top rest ih =>
    cases top with
    | group => exact ⟨operand, Or.inr ⟨rest, rfl, Nat.lt_succ_self _⟩⟩
    | negation | conjunction | disjunction | implication =>
      rw [Pending.finish_cons (by simp only [Pending.strength]; omega)]
      obtain ⟨p, hn | ⟨outer, ho, hl⟩⟩ := ih (Pending.fill operand _)
      · exact ⟨p, Or.inl hn⟩
      · exact ⟨p, Or.inr ⟨outer, ho, Nat.lt_succ_of_lt hl⟩⟩

/-- Whether a token may be needed to complete a formula: a name or a closing parenthesis. -/
def Completes (token : Token) : Prop := token = .name "x" ∨ token = .closeParen

/-- Behind an operand a formula is completed by closing its parentheses. -/
theorem exists_run_of_operand (stack : List Pending) (operand : Proposition) :
    ∃ more last, (∀ token ∈ more, Completes token) ∧
      run ⟨stack, some operand⟩ more = some last ∧ last.result?.isSome = true := by
  induction hn : stack.length using Nat.strong_induction_on generalizing stack operand with
  | _ size ih =>
    subst hn
    obtain ⟨p, hp | ⟨outer, ho, hl⟩⟩ := exists_finish_one operand stack
    · exact ⟨[], _, nofun, rfl, by simp only [result?, hp, Option.isSome_some]⟩
    · obtain ⟨more, last, hm, hr, hc⟩ := ih outer.length hl outer p rfl
      refine ⟨.closeParen :: more, last, List.forall_mem_cons.mpr ⟨Or.inr rfl, hm⟩, ?_, hc⟩
      rw [run_cons,step_closeParen ho]
      exact hr

/-- Whatever has been read of a formula, it can be completed. -/
theorem exists_run (state : FormulaState) :
    ∃ more last, (∀ token ∈ more, Completes token) ∧
      state.run more = some last ∧ last.result?.isSome = true := by
  obtain ⟨stack, operand⟩ := state
  cases operand with
  | some operand => exact exists_run_of_operand stack operand
  | none =>
    obtain ⟨more, last, hm, hr, hc⟩ := exists_run_of_operand stack (atom "x")
    exact ⟨.name "x" :: more, last, List.forall_mem_cons.mpr ⟨Or.inl rfl, hm⟩, hr, hc⟩

/-- What completes a formula can be written. -/
theorem Completes.exists_written {token : Token} (h : Completes token) :
    ∃ lexeme, token.Written lexeme := by
  rcases h with rfl | rfl
  · exact ⟨['x'], .name (by decide) nofun⟩
  · exact ⟨[')'], .sign (by decide)⟩

end FormulaState

/-! ## Arguments and their tokens -/

namespace ArgumentState

/-- The tokens that lead to a state: those of finished arguments, and those of the formula that is
being read. -/
def LeadsTo (tokens : List Token) (state : ArgumentState) : Prop :=
  ∃ before since, tokens = before ++ since ∧ IsArguments before ∧
    match state.formula with
    | none => since = []
    | some formula => formula.LeadsTo since

/-- A token that begins an argument leads on from finished arguments. -/
theorem leadsTo_of_beginArgument {tokens : List Token} (h : IsArguments tokens)
    {finished : List WrittenArgument} {token : Token} {next : ArgumentState}
    (hb : beginArgument finished token = some next) : LeadsTo (tokens ++ [token]) next := by
  cases token with
  | index digits =>
    cases hb
    exact ⟨tokens ++ [.index digits], [], (List.append_nil _).symm, h.index digits, rfl⟩
  | name | bottom | openParen | closeParen | neg | and | or | imply =>
    simp only [beginArgument] at hb
    obtain ⟨formula, hs, rfl⟩ := Option.map_eq_some_iff.mp hb
    have hl : FormulaState.LeadsTo [] .start := .start
    exact ⟨tokens, [_], rfl, h, hl.step hs⟩

/-- A token leads from state to state. -/
theorem LeadsTo.step {tokens : List Token} {state next : ArgumentState} {token : Token}
    (h : LeadsTo tokens state) (hs : state.step token = some next) :
    LeadsTo (tokens ++ [token]) next := by
  obtain ⟨finished, formula⟩ := state
  obtain ⟨before, since, rfl, hb, hf⟩ := h
  cases formula with
  | none =>
    have hn : since = [] := hf
    rw [hn,List.append_nil]
    exact leadsTo_of_beginArgument hb hs
  | some formula =>
    have hl : formula.LeadsTo since := hf
    rw [ArgumentState.step] at hs
    cases hstep : formula.step token with
    | some following =>
      simp only [hstep, Option.some.injEq] at hs
      rw [← hs,List.append_assoc]
      exact ⟨before, since ++ [token], rfl, hb, hl.step hstep⟩
    | none =>
      -- The formula is finished, and the token begins the next argument.
      simp only [hstep] at hs
      obtain ⟨p, hp, hbegin⟩ := Option.bind_eq_some_iff.mp hs
      exact leadsTo_of_beginArgument (hb.prop (hl.result? hp)) hbegin

/-- Tokens lead from state to state. -/
theorem LeadsTo.run {tokens later : List Token} {state last : ArgumentState}
    (h : LeadsTo tokens state) (hr : state.run later = some last) :
    LeadsTo (tokens ++ later) last :=
  leads_of_foldlM LeadsTo.step h hr

/-- The tokens that lead to complete arguments are those of arguments. -/
theorem LeadsTo.isArguments {tokens : List Token} {state : ArgumentState}
    (h : LeadsTo tokens state) (hr : state.result?.isSome = true) : IsArguments tokens := by
  obtain ⟨finished, formula⟩ := state
  obtain ⟨before, since, rfl, hb, hf⟩ := h
  cases formula with
  | none =>
    have hn : since = [] := hf
    rw [hn,List.append_nil]
    exact hb
  | some formula =>
    have hl : formula.LeadsTo since := hf
    rw [result?,Option.isSome_map] at hr
    obtain ⟨p, hp⟩ := Option.isSome_iff_exists.mp hr
    exact hb.prop (hl.result? hp)

/-- The tokens that are read as arguments are those of arguments. -/
theorem run_result?_iff {tokens : List Token} :
    (∃ last, start.run tokens = some last ∧ last.result?.isSome = true) ↔ IsArguments tokens := by
  constructor
  · rintro ⟨last, hr, hc⟩
    have hs : LeadsTo [] start := ⟨[], [], rfl, .nil, rfl⟩
    exact (hs.run hr).isArguments hc
  · intro h
    have hall : ∃ last arguments, start.run tokens = some last ∧
        last.result? = some arguments := by
      induction h with
      | nil => exact ⟨start, [], rfl, rfl⟩
      | index digits _ ih =>
        obtain ⟨last, arguments, hr, hc⟩ := ih
        obtain ⟨next, hn, hc'⟩ := run_index hc digits
        rw [run_append,hr]
        exact ⟨next, _, hn, hc'⟩
      | prop _ hd ih =>
        obtain ⟨last, arguments, hr, hc⟩ := ih
        obtain ⟨next, hn, hc'⟩ := run_prop hc hd
        rw [run_append,hr]
        exact ⟨next, _, hn, hc'⟩
    obtain ⟨last, arguments, hr, hc⟩ := hall
    exact ⟨last, hr, Option.isSome_iff_exists.mpr ⟨arguments, hc⟩⟩

/-- Whatever has been read of arguments, they can be completed. -/
theorem exists_run (state : ArgumentState) :
    ∃ more last, (∀ token ∈ more, FormulaState.Completes token) ∧
      state.run more = some last ∧ last.result?.isSome = true := by
  obtain ⟨finished, formula⟩ := state
  cases formula with
  | none => exact ⟨[], _, nofun, rfl, rfl⟩
  | some formula =>
    obtain ⟨more, last, hm, hr, hc⟩ := formula.exists_run
    refine ⟨more, _, hm, run_of_formula hr, ?_⟩
    rw [result?,Option.isSome_map]
    exact hc

end ArgumentState

/-! ## States of a line -/

/-- How far a line has been read. -/
inductive LineState where
  /-- A keyword must follow. -/
  | start
  /-- A formula is being read. -/
  | formula (state : FormulaState)
  /-- An index must follow. -/
  | index
  /-- The name of a rule must follow. -/
  | name
  /-- The name of a rule may follow. -/
  | topic
  /-- Arguments are being read. -/
  | arguments (state : ArgumentState)
  /-- Nothing may follow. -/
  | closed
  deriving DecidableEq

/-- What follows a keyword. -/
def Keyword.opens : Keyword → LineState
  | .premise | .assume => .formula .start
  | .copy => .index
  | .rule => .name
  | .help => .topic
  | .discharge | .close | .undo | .display | .latex | .unused | .quit | .exit => .closed

namespace LineState

/-- Read a token, if it can follow. -/
def step : LineState → LineToken → Option LineState
  | .start, .keyword word => some word.opens
  | .formula state, .plain token => (state.step token).map .formula
  | .index, .plain (.index _) => some .closed
  | .name, .ruleName _ => some (.arguments .start)
  | .topic, .ruleName _ => some .closed
  | .arguments state, .plain token => (state.step token).map .arguments
  | _, _ => none

/-- Whether a line may end. -/
def isComplete : LineState → Bool
  | .formula state => state.result?.isSome
  | .arguments state => state.result?.isSome
  | .topic | .closed => true
  | .start | .index | .name => false

/-- Read tokens one after the other, if each can follow. -/
def run (state : LineState) (tokens : List LineToken) : Option LineState :=
  tokens.foldlM step state

/-- One token is read before the others. -/
theorem run_cons (state : LineState) (token : LineToken) (tokens : List LineToken) :
    state.run (token :: tokens) = (state.step token).bind fun next => next.run tokens := rfl

/-- Tokens are read before those that follow them. -/
theorem run_append (state : LineState) (first later : List LineToken) :
    state.run (first ++ later) = (state.run first).bind fun next => next.run later :=
  List.foldlM_append

/-- One token is read behind others. -/
theorem run_concat {state next : LineState} {tokens : List LineToken}
    (h : state.run tokens = some next) (token : LineToken) :
    state.run (tokens ++ [token]) = next.step token := by
  rw [run_append,h,Option.bind_some,run_cons]
  exact Option.bind_fun_some _

/-- Whether a line of given tokens is read to its end. -/
def Accepts (state : LineState) (tokens : List LineToken) : Prop :=
  ∃ last, state.run tokens = some last ∧ last.isComplete = true

section Plain

variable {State : Type} {step' : State → Token → Option State} {embed : State → LineState}

/-- Tokens of a formula or of arguments are read inside a line as by themselves. -/
theorem run_map_plain
    (hstep : ∀ state token, (embed state).step (.plain token) = (step' state token).map embed)
    (state : State) (tokens : List Token) :
    (embed state).run (tokens.map .plain) = (tokens.foldlM step' state).map embed := by
  induction tokens generalizing state with
  | nil => rfl
  | cons token rest ih =>
    rw [List.map_cons,run_cons,hstep,List.foldlM_cons]
    cases step' state token with
    | none => rfl
    | some next => exact ih next

/-- Where only tokens of a formula or of arguments can follow, only such are read. -/
theorem exists_of_run
    (hstep : ∀ {state : State} {token : LineToken} {next : LineState},
      (embed state).step token = some next → ∃ plain following, token = .plain plain ∧
        step' state plain = some following ∧ next = embed following)
    {state : State} {tokens : List LineToken} {last : LineState}
    (h : (embed state).run tokens = some last) :
    ∃ (plain : List Token) (final : State), tokens = plain.map .plain ∧
      plain.foldlM step' state = some final ∧ last = embed final := by
  induction tokens generalizing state with
  | nil =>
    cases h
    exact ⟨[], state, rfl, rfl, rfl⟩
  | cons token rest ih =>
    rw [run_cons] at h
    obtain ⟨_, hs, hr⟩ := Option.bind_eq_some_iff.mp h
    obtain ⟨token, following, rfl, hn, rfl⟩ := hstep hs
    obtain ⟨plain, final, rfl, hf, hl⟩ := ih hr
    refine ⟨token :: plain, final, rfl, ?_, hl⟩
    rw [List.foldlM_cons,hn]
    exact hf

end Plain

/-- The tokens of a formula are read inside a line as by themselves. -/
theorem run_formula (state : FormulaState) (tokens : List Token) :
    (formula state).run (tokens.map .plain) = (state.run tokens).map formula :=
  run_map_plain (fun _ _ => rfl) state tokens

/-- The tokens of arguments are read inside a line as by themselves. -/
theorem run_arguments (state : ArgumentState) (tokens : List Token) :
    (arguments state).run (tokens.map .plain) = (state.run tokens).map arguments :=
  run_map_plain (fun _ _ => rfl) state tokens

/-- In a formula only its tokens can follow. -/
theorem step_formula_eq_some {state : FormulaState} {token : LineToken} {next : LineState}
    (h : (formula state).step token = some next) : ∃ plain following, token = .plain plain ∧
      state.step plain = some following ∧ next = .formula following := by
  cases token with
  | keyword | ruleName => cases h
  | plain token =>
    obtain ⟨following, hs, rfl⟩ := Option.map_eq_some_iff.mp h
    exact ⟨token, following, rfl, hs, rfl⟩

/-- In arguments only their tokens can follow. -/
theorem step_arguments_eq_some {state : ArgumentState} {token : LineToken} {next : LineState}
    (h : (arguments state).step token = some next) : ∃ plain following, token = .plain plain ∧
      state.step plain = some following ∧ next = .arguments following := by
  cases token with
  | keyword | ruleName => cases h
  | plain token =>
    obtain ⟨following, hs, rfl⟩ := Option.map_eq_some_iff.mp h
    exact ⟨token, following, rfl, hs, rfl⟩

/-- Where an index must follow only one can follow. -/
theorem step_index_eq_some {token : LineToken} {next : LineState}
    (h : index.step token = some next) :
    ∃ digits, token = .plain (.index digits) ∧ next = .closed := by
  cases token with
  | keyword | ruleName => cases h
  | plain token =>
    cases token with
    | index digits =>
      cases h
      exact ⟨digits, rfl, rfl⟩
    | name | bottom | openParen | closeParen | neg | and | or | imply => cases h

/-- Where the name of a rule must follow only one can follow. -/
theorem step_name_eq_some {token : LineToken} {next : LineState} (h : name.step token = some next) :
    ∃ letters, token = .ruleName letters ∧ next = .arguments .start := by
  cases token with
  | keyword | plain => cases h
  | ruleName letters =>
    cases h
    exact ⟨letters, rfl, rfl⟩

/-- Where the name of a rule may follow only one can follow. -/
theorem step_topic_eq_some {token : LineToken} {next : LineState}
    (h : topic.step token = some next) : ∃ letters, token = .ruleName letters ∧ next = .closed := by
  cases token with
  | keyword | plain => cases h
  | ruleName letters =>
    cases h
    exact ⟨letters, rfl, rfl⟩

/-- Where a keyword must follow only one can follow. -/
theorem step_start_eq_some {token : LineToken} {next : LineState}
    (h : start.step token = some next) : ∃ word, token = .keyword word ∧ next = word.opens := by
  cases token with
  | ruleName | plain => cases h
  | keyword word =>
    cases h
    exact ⟨word, rfl, rfl⟩

/-- Where nothing may follow nothing can follow. -/
theorem step_closed (token : LineToken) : closed.step token = none := by
  cases token <;> rfl

/-- A formula is accepted where its tokens are read. -/
theorem accepts_formula_iff {tokens : List LineToken} :
    (formula .start).Accepts tokens ↔ IsFormulaLine tokens := by
  constructor
  · rintro ⟨last, hr, hc⟩
    obtain ⟨plain, final, rfl, hf, rfl⟩ := exists_of_run step_formula_eq_some hr
    obtain ⟨p, hp⟩ := Option.isSome_iff_exists.mp hc
    exact ⟨plain, p, rfl, FormulaState.run_result?_iff.mp ⟨final, hf, hp⟩⟩
  · rintro ⟨plain, p, rfl, hd⟩
    obtain ⟨final, hf, hp⟩ := FormulaState.run_result?_iff.mpr hd
    refine ⟨.formula final, ?_, Option.isSome_iff_exists.mpr ⟨p, hp⟩⟩
    rw [run_formula,hf,Option.map_some]

/-- Arguments are accepted where their tokens are read. -/
theorem accepts_arguments_iff {tokens : List LineToken} :
    (arguments .start).Accepts tokens ↔ ∃ plain, tokens = plain.map .plain ∧ IsArguments plain := by
  constructor
  · rintro ⟨last, hr, hc⟩
    obtain ⟨plain, final, rfl, hf, rfl⟩ := exists_of_run step_arguments_eq_some hr
    exact ⟨plain, rfl, ArgumentState.run_result?_iff.mp ⟨final, hf, hc⟩⟩
  · rintro ⟨plain, rfl, ha⟩
    obtain ⟨final, hf, hc⟩ := ArgumentState.run_result?_iff.mpr ha
    refine ⟨.arguments final, ?_, hc⟩
    rw [run_arguments,hf,Option.map_some]

/-- A line is accepted when its first token can follow and then the others. -/
theorem accepts_cons_iff {state : LineState} {token : LineToken} {tokens : List LineToken} :
    state.Accepts (token :: tokens) ↔
      ∃ next, state.step token = some next ∧ next.Accepts tokens := by
  constructor
  · rintro ⟨last, hr, hc⟩
    rw [run_cons] at hr
    obtain ⟨next, hs, hr⟩ := Option.bind_eq_some_iff.mp hr
    exact ⟨next, hs, last, hr, hc⟩
  · rintro ⟨next, hs, last, hr, hc⟩
    refine ⟨last, ?_, hc⟩
    rw [run_cons,hs]
    exact hr

/-- Where a line may end without more tokens it is accepted without them. -/
theorem accepts_nil_iff {state : LineState} : state.Accepts [] ↔ state.isComplete = true := by
  constructor
  · rintro ⟨last, hr, hc⟩
    cases hr
    exact hc
  · intro hc
    exact ⟨state, rfl, hc⟩

/-- Where nothing may follow no more tokens are accepted. -/
theorem eq_nil_of_accepts_closed {tokens : List LineToken} (h : closed.Accepts tokens) :
    tokens = [] := by
  cases tokens with
  | nil => rfl
  | cons token rest =>
    obtain ⟨next, hs, -⟩ := accepts_cons_iff.mp h
    rw [step_closed] at hs
    cases hs

/-- A command is accepted where its tokens are read. -/
theorem accepts_start_iff {tokens : List LineToken} :
    start.Accepts tokens ↔ IsCommandLine tokens := by
  constructor
  · intro h
    cases tokens with
    | nil => cases accepts_nil_iff.mp h
    | cons first rest =>
      obtain ⟨next, hs, ha⟩ := accepts_cons_iff.mp h
      cases first with
      | ruleName | plain => cases hs
      | keyword word =>
        cases hs
        cases word with
        | premise | assume =>
          obtain ⟨plain, p, rfl, hd⟩ := accepts_formula_iff.mp ha
          exact .formula (by decide) hd
        | copy =>
          cases rest with
          | nil => cases accepts_nil_iff.mp ha
          | cons second later =>
            obtain ⟨_, hs, hl⟩ := accepts_cons_iff.mp ha
            obtain ⟨digits, rfl, rfl⟩ := step_index_eq_some hs
            rw [eq_nil_of_accepts_closed hl]
            exact .copy digits
        | rule =>
          cases rest with
          | nil => cases accepts_nil_iff.mp ha
          | cons second later =>
            obtain ⟨_, hs, hl⟩ := accepts_cons_iff.mp ha
            obtain ⟨name, rfl, rfl⟩ := step_name_eq_some hs
            obtain ⟨plain, rfl, hp⟩ := accepts_arguments_iff.mp hl
            exact .rule name hp
        | help =>
          cases rest with
          | nil => exact .bare (by decide)
          | cons second later =>
            obtain ⟨_, hs, hl⟩ := accepts_cons_iff.mp ha
            obtain ⟨name, rfl, rfl⟩ := step_topic_eq_some hs
            rw [eq_nil_of_accepts_closed hl]
            exact .help name
        | discharge | close | undo | display | latex | unused | quit | exit =>
          rw [eq_nil_of_accepts_closed ha]
          exact .bare (by decide)
  · intro h
    cases h with
    | formula hk hd =>
      refine accepts_cons_iff.mpr ⟨.formula .start, ?_, accepts_formula_iff.mpr ⟨_, _, rfl, hd⟩⟩
      rcases hk with rfl | rfl <;> rfl
    | copy digits => exact ⟨.closed, rfl, rfl⟩
    | bare hk =>
      have hall : ∀ keyword ∈ Keyword.bare, keyword.opens.isComplete = true := by decide
      exact accepts_cons_iff.mpr ⟨_, rfl, accepts_nil_iff.mpr (hall _ hk)⟩
    | help name => exact ⟨.closed, rfl, rfl⟩
    | rule name ha =>
      refine accepts_cons_iff.mpr ⟨.name, rfl, accepts_cons_iff.mpr ⟨.arguments .start, rfl, ?_⟩⟩
      exact accepts_arguments_iff.mpr ⟨_, rfl, ha⟩

/-- Every state can be completed with tokens that can be written. -/
theorem exists_accepts (state : LineState) :
    ∃ more, (∀ token ∈ more, ∃ lexeme, LineToken.Written token lexeme) ∧ state.Accepts more := by
  have hwritten : ∀ {more : List Token}, (∀ token ∈ more, FormulaState.Completes token) →
      ∀ token ∈ more.map LineToken.plain, ∃ lexeme, LineToken.Written token lexeme := by
    intro more hm token ht
    obtain ⟨plain, hp, rfl⟩ := List.mem_map.mp ht
    obtain ⟨lexeme, hw⟩ := (hm plain hp).exists_written
    exact ⟨lexeme, .plain hw⟩
  cases state with
  | start =>
    have hw : ∃ lexeme, LineToken.Written (.keyword .quit) lexeme := ⟨_, .keyword .quit⟩
    exact ⟨[.keyword .quit], List.forall_mem_singleton.mpr hw, .closed, rfl, rfl⟩
  | formula state =>
    obtain ⟨more, last, hm, hr, hc⟩ := state.exists_run
    refine ⟨_, hwritten hm, .formula last, ?_, hc⟩
    rw [run_formula,hr,Option.map_some]
  | index =>
    have hw : ∃ lexeme, LineToken.Written (.plain (.index ['1'])) lexeme :=
      ⟨_, .plain (.index (by decide) nofun)⟩
    exact ⟨_, List.forall_mem_singleton.mpr hw, .closed, rfl, rfl⟩
  | name =>
    have hw : ∃ lexeme, LineToken.Written (.ruleName ['x']) lexeme :=
      ⟨_, .ruleName (by decide) nofun⟩
    exact ⟨_, List.forall_mem_singleton.mpr hw, .arguments .start, rfl, rfl⟩
  | topic | closed => exact ⟨[], nofun, _, rfl, rfl⟩
  | arguments state =>
    obtain ⟨more, last, hm, hr, hc⟩ := state.exists_run
    refine ⟨_, hwritten hm, .arguments last, ?_, hc⟩
    rw [run_arguments,hr,Option.map_some]

/-- The viable tokens are those that lead to a state. -/
theorem viable_iff {initial : LineState} {tokens : List LineToken} :
    Viable initial.Accepts tokens ↔ ∃ state, initial.run tokens = some state := by
  constructor
  · rintro ⟨more, -, last, hr, -⟩
    rw [run_append] at hr
    obtain ⟨state, hs, -⟩ := Option.bind_eq_some_iff.mp hr
    exact ⟨state, hs⟩
  · rintro ⟨state, hs⟩
    obtain ⟨more, hw, last, hr, hc⟩ := state.exists_accepts
    refine ⟨more, hw, last, ?_, hc⟩
    rw [run_append,hs]
    exact hr

end LineState

end BoxedDeduction
