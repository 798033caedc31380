import BoxedDeduction.Command.Reading
import BoxedDeduction.Proofs.Command.Cutting

/-!
# Reading formulas by the grammar

What has been read of a formula is a stack of pending constructions, perhaps with an operand.
The tokens that lead to a stack end where its innermost construction waits for its operand, and
each construction waits for a formula of a certain nonterminal. Reading a derived formula on top
of a stack has the same effect on what follows as taking its proposition as operand, and
conversely the operand that is finished at a connective is derived from the tokens that were
read since. So a text is read as a proposition exactly when it spells the proposition.
-/

namespace BoxedDeduction

/-- What holds of the tokens that lead to a state, and is kept by each step, is kept by a run. -/
theorem leads_of_foldlM {State : Type} {step : State → Token → Option State}
    {Leads : List Token → State → Prop} (hstep : ∀ {tokens : List Token} {state next : State}
      {token : Token}, Leads tokens state → step state token = some next →
        Leads (tokens ++ [token]) next)
    {tokens later : List Token} {state last : State} (h : Leads tokens state)
    (hr : later.foldlM step state = some last) : Leads (tokens ++ later) last := by
  induction later generalizing tokens state with
  | nil =>
    cases hr
    rw [List.append_nil]
    exact h
  | cons token rest ih =>
    rw [List.foldlM_cons] at hr
    obtain ⟨next, hs, hr⟩ := Option.bind_eq_some_iff.mp hr
    have hl := ih (hstep h hs) hr
    rw [List.append_assoc] at hl
    exact hl

/-! ## Finishing constructions -/

namespace Pending

/-- Whether the innermost construction binds less tightly than a floor. -/
def Below (floor : Nat) (stack : List Pending) : Prop :=
  ∀ top ∈ stack.head?, top.strength < floor

/-- Nothing is pending. -/
theorem below_nil (floor : Nat) : Below floor [] := nofun

/-- The innermost construction decides. -/
theorem below_cons {floor : Nat} {top : Pending} {stack : List Pending} :
    Below floor (top :: stack) ↔ top.strength < floor := by
  simp only [Below, List.head?_cons, Option.mem_def, Option.some.injEq, forall_eq']

/-- What binds less tightly than a floor binds less tightly than a higher one. -/
theorem Below.mono {floor higher : Nat} {stack : List Pending} (h : Below floor stack)
    (hf : floor ≤ higher) : Below higher stack := by
  intro top ht
  have hl := h top ht
  omega

/-- Nothing binds as tightly as an atom. -/
theorem below_five (stack : List Pending) : Below 5 stack := by
  intro top _
  cases top <;> simp only [strength] <;> omega

/-- Constructions that bind less tightly are not finished. -/
theorem finish_of_below {floor : Nat} {stack : List Pending} (h : Below floor stack)
    (operand : Proposition) : finish floor operand stack = (operand, stack) := by
  cases stack with
  | nil => rfl
  | cons top rest =>
    have hl := below_cons.mp h
    rw [finish,if_neg (by omega)]

/-- A construction that binds at least as tightly is finished. -/
theorem finish_cons {floor : Nat} {top : Pending} (h : floor ≤ top.strength)
    (operand : Proposition) (stack : List Pending) :
    finish floor operand (top :: stack) = finish floor (top.fill operand) stack := by
  rw [finish,if_pos h]

end Pending

/-- The least strength that the tokens of a nonterminal finish outside of parentheses. It is out
of reach where there is no connective between two operands. -/
def Nonterminal.floor : Nonterminal → Nat
  | .prop | .orProp => 2
  | .andProp => 3
  | .negProp | .atom => 5

namespace FormulaState

/-- Read tokens one after the other, if each can follow. -/
def run (state : FormulaState) (tokens : List Token) : Option FormulaState :=
  tokens.foldlM step state

/-- Without tokens nothing changes. -/
theorem run_nil (state : FormulaState) : state.run [] = some state := rfl

/-- One token is read before the others. -/
theorem run_cons (state : FormulaState) (token : Token) (tokens : List Token) :
    state.run (token :: tokens) = (state.step token).bind fun next => next.run tokens := rfl

/-- Tokens are read before those that follow them. -/
theorem run_append (state : FormulaState) (first later : List Token) :
    state.run (first ++ later) = (state.run first).bind fun next => next.run later :=
  List.foldlM_append

section Steps

variable {inner outer : List Pending} {operand p : Proposition}

/-- A conjunction finishes what binds at least as tightly. -/
theorem step_and (h : Pending.finish 3 operand inner = (p, outer)) :
    step ⟨inner, some operand⟩ .and = some ⟨.conjunction p :: outer, none⟩ := by
  simp only [step, stepContinuation, h]

/-- A disjunction finishes what binds at least as tightly. -/
theorem step_or (h : Pending.finish 2 operand inner = (p, outer)) :
    step ⟨inner, some operand⟩ .or = some ⟨.disjunction p :: outer, none⟩ := by
  simp only [step, stepContinuation, h]

/-- An implication finishes what binds more tightly. -/
theorem step_imply (h : Pending.finish 2 operand inner = (p, outer)) :
    step ⟨inner, some operand⟩ .imply = some ⟨.implication p :: outer, none⟩ := by
  simp only [step, stepContinuation, h]

/-- A closing parenthesis finishes everything inside the parentheses. -/
theorem step_closeParen (h : Pending.finish 1 operand inner = (p, .group :: outer)) :
    step ⟨inner, some operand⟩ .closeParen = some ⟨outer, some p⟩ := by
  simp only [step, stepContinuation, h]

end Steps

/-! ## Derived formulas are read -/

/-- Whether reading tokens on top of constructions has the same effect on what is finished
afterwards, up to a strength, as a proposition that is taken as operand. -/
def Reads (stack : List Pending) (tokens : List Token) (p : Proposition) (strength : Nat) : Prop :=
  ∃ inner operand, run ⟨stack, none⟩ tokens = some ⟨inner, some operand⟩ ∧
    ∀ floor ≤ strength, Pending.finish floor operand inner = Pending.finish floor p stack

section Reads

variable {stack : List Pending} {tokens left right : List Token} {p q : Proposition}
  {strength : Nat}

/-- Less may be finished afterwards. -/
theorem Reads.mono (h : Reads stack tokens p strength) {lower : Nat} (hl : lower ≤ strength) :
    Reads stack tokens p lower := by
  obtain ⟨inner, operand, hr, hf⟩ := h
  exact ⟨inner, operand, hr, fun floor hle => hf floor (Nat.le_trans hle hl)⟩

/-- A single token may be the operand. -/
theorem Reads.single {token : Token} (h : step ⟨stack, none⟩ token = some ⟨stack, some p⟩) :
    Reads stack [token] p strength := by
  refine ⟨stack, p, ?_, fun _ _ => rfl⟩
  rw [run_cons,h]
  rfl

/-- What is finished up to a floor is the whole operand. -/
theorem Reads.finish (h : Reads stack tokens p strength) {floor : Nat} (hf : floor ≤ strength)
    (hb : Pending.Below floor stack) :
    ∃ inner operand, run ⟨stack, none⟩ tokens = some ⟨inner, some operand⟩ ∧
      Pending.finish floor operand inner = (p, stack) := by
  obtain ⟨inner, operand, hr, he⟩ := h
  refine ⟨inner, operand, hr, ?_⟩
  rw [he floor hf,Pending.finish_of_below hb]

/-- A connective between two operands is pending while its right operand is read. -/
theorem Reads.connective {floor : Nat} {token : Token} {top : Pending}
    (hl : Reads stack left p strength) (hf : floor ≤ strength) (hb : Pending.Below floor stack)
    (hs : ∀ {inner : List Pending} {operand : Proposition},
      Pending.finish floor operand inner = (p, stack) →
        step ⟨inner, some operand⟩ token = some ⟨top :: stack, none⟩)
    (hr : Reads (top :: stack) right q top.strength) :
    Reads stack (left ++ token :: right) (top.fill q) top.strength := by
  obtain ⟨inner, operand, hrun, hfin⟩ := hl.finish hf hb
  obtain ⟨inner', operand', hrun', hfin'⟩ := hr
  refine ⟨inner', operand', ?_, ?_⟩
  · rw [run_append,hrun,Option.bind_some,run_cons,hs hfin,Option.bind_some,hrun']
  · intro floor hle
    rw [hfin' floor hle,Pending.finish_cons hle]

end Reads

/-- A derived formula is read on top of constructions that wait for its nonterminal. -/
theorem reads_of_derives {kind : Nonterminal} {tokens : List Token} {p : Proposition}
    (h : Derives kind tokens p) {stack : List Pending} (hb : Pending.Below kind.floor stack) :
    Reads stack tokens p kind.strength := by
  induction h generalizing stack with
  | symbol hn => exact .single (by rw [step,stepOperand,atom,if_neg hn])
  | word | bottom => exact .single rfl
  | @group tokens p _ ih =>
    have hg : Pending.Below 1 (.group :: stack) := Pending.below_cons.mpr Nat.one_pos
    obtain ⟨inner, operand, hr, hf⟩ := (ih (hg.mono (Nat.le_succ 1))).finish (Nat.le_refl 1) hg
    have ho : run ⟨stack, none⟩ (.openParen :: tokens) = some ⟨inner, some operand⟩ := hr
    refine ⟨stack, p, ?_, fun _ _ => rfl⟩
    rw [run_append,ho,Option.bind_some,run_cons,step_closeParen hf]
    rfl
  | negation _ ih =>
    have hg : Pending.Below 5 (.negation :: stack) := Pending.below_cons.mpr (Nat.lt_succ_self 4)
    obtain ⟨inner, operand, hr, hf⟩ := ih hg
    refine ⟨inner, operand, hr, ?_⟩
    intro floor hl
    rw [hf floor hl,Pending.finish_cons hl]
    rfl
  | ofAtom _ ih => exact (ih hb).mono (by decide)
  | ofNeg _ ih => exact (ih (hb.mono (by decide))).mono (by decide)
  | ofAnd _ ih => exact (ih (hb.mono (by decide))).mono (by decide)
  | ofOr _ ih => exact (ih hb).mono (by decide)
  | @conjunction left right p q _ _ ihl ihr =>
    have hg : Pending.Below 5 (.conjunction p :: stack) :=
      Pending.below_cons.mpr (Nat.lt_succ_of_lt (Nat.lt_succ_self 3))
    exact (ihl hb).connective (Nat.le_refl 3) hb step_and ((ihr hg).mono (Nat.le_succ 3))
  | @disjunction left right p q _ _ ihl ihr =>
    have hg : Pending.Below 3 (.disjunction p :: stack) :=
      Pending.below_cons.mpr (Nat.lt_succ_self 2)
    exact (ihl hb).connective (Nat.le_refl 2) hb step_or ((ihr hg).mono (Nat.le_succ 2))
  | @implication left right p q _ _ ihl ihr =>
    have hg : Pending.Below 2 (.implication p :: stack) :=
      Pending.below_cons.mpr (Nat.lt_succ_self 1)
    exact (ihl hb).connective (Nat.le_refl 2) hb step_imply (ihr hg)

/-- A derived formula is read to its end as its proposition. -/
theorem result?_of_derives {tokens : List Token} {p : Proposition} (h : Derives .prop tokens p) :
    ∃ last, start.run tokens = some last ∧ last.result? = some p := by
  have hb : Pending.Below 1 [] := Pending.below_nil 1
  obtain ⟨inner, operand, hr, hf⟩ :=
    (reads_of_derives h (Pending.below_nil _)).finish (Nat.le_refl 1) hb
  refine ⟨⟨inner, some operand⟩, hr, ?_⟩
  simp only [result?, hf]

/-! ## What is read is derived -/

/-- The tokens that lead to a stack of constructions whose innermost one waits for its operand. -/
inductive Opens : List Token → List Pending → Prop where
  /-- Nothing has been read. -/
  | start : Opens [] []
  /-- A parenthesis has been opened. -/
  | group {tokens : List Token} {stack : List Pending} (h : Opens tokens stack) :
    Opens (tokens ++ [.openParen]) (.group :: stack)
  /-- A sign of negation has been read. -/
  | negation {tokens : List Token} {stack : List Pending} (h : Opens tokens stack) :
    Opens (tokens ++ [.neg]) (.negation :: stack)
  /-- The left side of a conjunction has been read, with its sign. -/
  | conjunction {tokens left : List Token} {stack : List Pending} {lhs : Proposition}
    (h : Opens tokens stack) (hb : Pending.Below 3 stack) (hl : Derives .andProp left lhs) :
    Opens (tokens ++ left ++ [.and]) (.conjunction lhs :: stack)
  /-- The left side of a disjunction has been read, with its sign. -/
  | disjunction {tokens left : List Token} {stack : List Pending} {lhs : Proposition}
    (h : Opens tokens stack) (hb : Pending.Below 2 stack) (hl : Derives .orProp left lhs) :
    Opens (tokens ++ left ++ [.or]) (.disjunction lhs :: stack)
  /-- The left side of an implication has been read, with its sign. -/
  | implication {tokens left : List Token} {stack : List Pending} {lhs : Proposition}
    (h : Opens tokens stack) (hb : Pending.Below 2 stack) (hl : Derives .orProp left lhs) :
    Opens (tokens ++ left ++ [.imply]) (.implication lhs :: stack)

/-- What is finished on top of a stack is derived from the last of the tokens read so far, and
the tokens before them lead to what is left of the stack. -/
def Finishes (tokens : List Token) (goal : Nonterminal) (finished : Proposition × List Pending) :
    Prop :=
  ∃ before since, tokens = before ++ since ∧ Opens before finished.2 ∧
    Pending.Below goal.strength finished.2 ∧ Derives goal since finished.1

/-- Where nothing is to be finished the operand itself is derived. -/
theorem finishes_of_below {tokens latest : List Token} {stack : List Pending}
    {goal : Nonterminal} {operand : Proposition} (h : Opens tokens stack)
    (hd : Derives goal latest operand) (hb : Pending.Below goal.strength stack) :
    Finishes (tokens ++ latest) goal (Pending.finish goal.strength operand stack) := by
  rw [Pending.finish_of_below hb]
  exact ⟨tokens, latest, rfl, h, hb, hd⟩

/-- An operand that the innermost construction waits for is finished to a derived formula. -/
theorem finishes_of_derives {tokens : List Token} {stack : List Pending} (h : Opens tokens stack)
    {kind goal : Nonterminal} {latest : List Token} {operand : Proposition}
    (hd : Derives kind latest operand) (hb : Pending.Below kind.floor stack)
    (hg : goal.strength ≤ kind.strength) :
    Finishes (tokens ++ latest) goal (Pending.finish goal.strength operand stack) := by
  have hone : 1 ≤ goal.strength := by cases goal <;> decide
  induction h generalizing kind latest operand with
  | start => exact finishes_of_below .start (hd.weaken hg) (Pending.below_nil _)
  | group h _ => exact finishes_of_below h.group (hd.weaken hg) (Pending.below_cons.mpr hone)
  | @negation tokens stack h ih =>
    by_cases hs : goal.strength ≤ 4
    · have hf : 4 < kind.floor := Pending.below_cons.mp hb
      have hn : Nonterminal.strength .negProp ≤ kind.strength := by cases kind <;> revert hf <;> decide
      rw [Pending.finish_cons hs,List.append_assoc]
      exact ih (hd.weaken hn).negation (Pending.below_five stack) hs
    · exact finishes_of_below h.negation (hd.weaken hg) (Pending.below_cons.mpr (Nat.lt_of_not_le hs))
  | @conjunction tokens left stack lhs h hb' hl ih =>
    by_cases hs : goal.strength ≤ 3
    · have hf : 3 < kind.floor := Pending.below_cons.mp hb
      have hn : Nonterminal.strength .negProp ≤ kind.strength := by cases kind <;> revert hf <;> decide
      rw [Pending.finish_cons hs,List.append_assoc,List.append_assoc]
      exact ih (hl.conjunction (hd.weaken hn)) hb' hs
    · exact finishes_of_below (h.conjunction hb' hl) (hd.weaken hg)
        (Pending.below_cons.mpr (Nat.lt_of_not_le hs))
  | @disjunction tokens left stack lhs h hb' hl ih =>
    by_cases hs : goal.strength ≤ 2
    · have hf : 2 < kind.floor := Pending.below_cons.mp hb
      have hn : Nonterminal.strength .andProp ≤ kind.strength := by cases kind <;> revert hf <;> decide
      rw [Pending.finish_cons hs,List.append_assoc,List.append_assoc]
      exact ih (hl.disjunction (hd.weaken hn)) hb' hs
    · exact finishes_of_below (h.disjunction hb' hl) (hd.weaken hg)
        (Pending.below_cons.mpr (Nat.lt_of_not_le hs))
  | @implication tokens left stack lhs h hb' hl ih =>
    by_cases hs : goal.strength ≤ 1
    · have hn : Nonterminal.strength .prop ≤ kind.strength := by cases kind <;> decide
      rw [Pending.finish_cons hs,List.append_assoc,List.append_assoc]
      exact ih (hl.implication (hd.weaken hn)) hb' hs
    · exact finishes_of_below (h.implication hb' hl) (hd.weaken hg)
        (Pending.below_cons.mpr (Nat.lt_of_not_le hs))

/-- The tokens that lead to a state: those that lead to its stack, and those of its operand. -/
def LeadsTo (tokens : List Token) (state : FormulaState) : Prop :=
  match state.operand with
  | none => Opens tokens state.stack
  | some operand => ∃ before latest, tokens = before ++ latest ∧ Opens before state.stack ∧
      Derives .atom latest operand

/-- What is finished of a state with an operand is derived. -/
theorem LeadsTo.finishes {tokens : List Token} {stack : List Pending} {operand : Proposition}
    (h : LeadsTo tokens ⟨stack, some operand⟩) (goal : Nonterminal) :
    Finishes tokens goal (Pending.finish goal.strength operand stack) := by
  obtain ⟨before, latest, rfl, ho, hd⟩ := h
  exact finishes_of_derives ho hd (Pending.below_five stack) (by cases goal <;> decide)

/-- A token leads from state to state. -/
theorem LeadsTo.step {tokens : List Token} {state next : FormulaState} {token : Token}
    (h : LeadsTo tokens state) (hs : state.step token = some next) :
    LeadsTo (tokens ++ [token]) next := by
  obtain ⟨stack, operand⟩ := state
  cases operand with
  | none =>
    have ho : Opens tokens stack := h
    cases token with
    | name text =>
      cases hs
      refine ⟨tokens, [.name text], rfl, ho, ?_⟩
      by_cases hn : text = "bottom"
      · rw [hn]
        exact .word
      · rw [atom,if_neg hn]
        exact .symbol hn
    | bottom =>
      cases hs
      exact ⟨tokens, [.bottom], rfl, ho, .bottom⟩
    | openParen =>
      cases hs
      exact ho.group
    | neg =>
      cases hs
      exact ho.negation
    | index digits | closeParen | and | or | imply => cases hs
  | some operand =>
    cases token with
    | name text | index digits | bottom | openParen | neg => cases hs
    | and =>
      obtain ⟨before, since, rfl, ho, hb, hd⟩ := h.finishes .andProp
      rw [step_and rfl] at hs
      cases hs
      exact ho.conjunction hb hd
    | or =>
      obtain ⟨before, since, rfl, ho, hb, hd⟩ := h.finishes .orProp
      rw [step_or rfl] at hs
      cases hs
      exact ho.disjunction hb hd
    | imply =>
      obtain ⟨before, since, rfl, ho, hb, hd⟩ := h.finishes .orProp
      rw [step_imply rfl] at hs
      cases hs
      exact ho.implication hb hd
    | closeParen =>
      have hf : Finishes tokens .prop (Pending.finish 1 operand stack) := h.finishes .prop
      simp only [FormulaState.step, stepContinuation] at hs
      split at hs
      · next inner outer he =>
        cases hs
        rw [he] at hf
        obtain ⟨_, since, rfl, ho, -, hd⟩ := hf
        cases ho with
        | @group before _ ho =>
          refine ⟨before, .openParen :: since ++ [.closeParen], ?_, ho, .group hd⟩
          simp only [List.append_assoc, List.cons_append, List.nil_append]
      · cases hs

/-- Tokens lead from state to state. -/
theorem LeadsTo.run {tokens later : List Token} {state last : FormulaState}
    (h : LeadsTo tokens state) (hr : state.run later = some last) :
    LeadsTo (tokens ++ later) last :=
  leads_of_foldlM LeadsTo.step h hr

/-- A formula that is read to its end is derived. -/
theorem LeadsTo.result? {tokens : List Token} {state : FormulaState} {p : Proposition}
    (h : LeadsTo tokens state) (hr : state.result? = some p) : Derives .prop tokens p := by
  obtain ⟨stack, operand⟩ := state
  cases operand with
  | none => cases hr
  | some operand =>
    have hf : Finishes tokens .prop (Pending.finish 1 operand stack) := h.finishes .prop
    simp only [FormulaState.result?] at hr
    split at hr
    · next inner he =>
      cases hr
      rw [he] at hf
      obtain ⟨_, since, rfl, ho, -, hd⟩ := hf
      cases ho
      exact hd
    · cases hr

/-- The tokens that are read as a proposition are those from which it is derived. -/
theorem run_result?_iff {tokens : List Token} {p : Proposition} :
    (∃ last, start.run tokens = some last ∧ last.result? = some p) ↔ Derives .prop tokens p := by
  constructor
  · rintro ⟨last, hr, hp⟩
    have hs : LeadsTo [] start := .start
    exact (hs.run hr).result? hp
  · exact result?_of_derives

end FormulaState

/-! ## Reading a text -/

/-- The tokens that are looked for in a state. -/
def FormulaState.mode (state : FormulaState) : ScanMode :=
  if state.operand = none then .operand else .continuation

/-- A token that is read is looked for, and then those that may follow in the next state. -/
theorem FormulaState.admits_of_step {state next : FormulaState} {token : Token}
    (h : state.step token = some next) :
    state.mode.admits token = true ∧ token.nextMode = next.mode := by
  obtain ⟨stack, operand⟩ := state
  cases operand with
  | none =>
    cases token with
    | name | bottom | openParen | neg =>
      cases h
      exact ⟨rfl, rfl⟩
    | index | closeParen | and | or | imply => cases h
  | some operand =>
    refine ⟨rfl, ?_⟩
    cases token with
    | name | index | bottom | openParen | neg => cases h
    | and | or | imply =>
      cases h
      rfl
    | closeParen =>
      simp only [step, stepContinuation] at h
      split at h
      · cases h
        rfl
      · cases h

/-- Tokens that are read one after the other may follow each other. -/
theorem FormulaState.admits_of_run {state last : FormulaState} {tokens : List Token}
    (h : state.run tokens = some last) : state.mode.Admits tokens :=
  ScanMode.admits_of_foldlM mode admits_of_step h

/-- A formula is read when the text is scanned to its end and the tokens make a formula. -/
theorem readFormula_eq_ok_iff {outside : List Expected} {ending : ScanEnd} {column : Nat}
    {state : FormulaState} {tokens : List LocatedToken} {p : Proposition} :
    readFormula outside ending column state tokens = .ok p ↔
      ending = .complete ∧ ∃ last, state.run (tokens.map LocatedToken.token) = some last ∧
        last.result? = some p := by
  induction tokens generalizing column state with
  | nil =>
    cases ending with
    | stuck place mode => simp [readFormula]
    | complete => cases hp : state.result? <;> simp [readFormula, FormulaState.run_nil, hp]
  | cons next rest ih =>
    rw [readFormula,List.map_cons,FormulaState.run_cons]
    cases hs : state.step next.token with
    | none => simp
    | some following => exact ih

/-- A text is read as the formula that it spells, whatever may stand around it. -/
theorem readFormulaText_eq_ok_iff {outside : List Expected} {lastColumn column : Nat}
    {cs : List Char} {p : Proposition} :
    readFormulaText outside lastColumn column cs = .ok p ↔ Spells cs p := by
  rw [readFormulaText,readFormula_eq_ok_iff]
  constructor
  · rintro ⟨he, hr⟩
    exact ⟨_, cut_of_tokenize he, FormulaState.run_result?_iff.mp hr⟩
  · rintro ⟨tokens, hc, hd⟩
    obtain ⟨last, hr, hp⟩ := FormulaState.run_result?_iff.mpr hd
    obtain ⟨ht, he⟩ := hc.tokenize (FormulaState.admits_of_run hr) column
    refine ⟨he, last, ?_, hp⟩
    have ht' : (tokenize .operand column cs).tokens.map LocatedToken.token = tokens := ht
    rw [ht',hr]

/-- No text spells two propositions. -/
theorem Spells.unique {cs : List Char} {p q : Proposition} (hp : Spells cs p) (hq : Spells cs q) :
    p = q := by
  have hr : readFormulaText [] 1 1 cs = .ok p := readFormulaText_eq_ok_iff.mpr hp
  rw [readFormulaText_eq_ok_iff.mpr hq] at hr
  cases hr
  rfl

namespace Proposition

/-- A text is read as a proposition exactly when it is cut into tokens from which the grammar
derives the proposition. No text spells two propositions, and every text that spells none is
reported as faulty. -/
theorem read_eq_ok_iff_spells (text : String) :
    (∀ p, read text = .ok p ↔ Spells text.toList p) ∧
      (∀ p q, Spells text.toList p → Spells text.toList q → p = q) ∧
      ((∀ p, ¬Spells text.toList p) → ∃ fault, read text = .error fault) := by
  have hiff : ∀ p, read text = .ok p ↔ Spells text.toList p := fun _ => readFormulaText_eq_ok_iff
  refine ⟨hiff, ?_, ?_⟩
  · intro p q hp hq
    have hr := (hiff p).mpr hp
    rw [(hiff q).mpr hq] at hr
    cases hr
    rfl
  · intro hn
    cases hr : read text with
    | ok p => exact absurd ((hiff p).mp hr) (hn p)
    | error fault => exact ⟨fault, rfl⟩

/-- A minus in front of an angle is no negation. -/
example : (read "p->-q|bottom").toOption =
    some (.imply (.symbol "p") (.or (negated (.symbol "q")) .bottom)) := by
  decide +kernel

end Proposition

end BoxedDeduction
