import BoxedDeduction.Proofs.Command.Viability
import BoxedDeduction.Proofs.Command.Writing
import Mathlib.Logic.Relation

/-!
# Cutting a line with an eye to what is accepted

A text is cut from left to right, and at each place the longest token is cut off with which the
tokens stay viable. Of the tokens that can follow only one has given letters, so there is one way
to cut a text. It ends at the end of the text or at a place where no such token is written. This is
where a reader should report a fault.
-/

namespace BoxedDeduction

/-! ## Places in a text -/

/-- How far a text has been cut into tokens. -/
structure Place where
  /-- What has been cut. -/
  front : List Char
  /-- What is left. -/
  rest : List Char
  /-- The tokens in front. -/
  tokens : List LineToken
  /-- The column at which the last token starts, or the first column. -/
  last : Nat

namespace Place

/-- The place at the beginning of a text. -/
def first (text : List Char) : Place := ⟨[], text, [], 1⟩

/-- Whether a token is written at a place with which the tokens stay viable. -/
structure Extends (accepted : List LineToken → Prop) (place : Place) (token : LineToken)
    (lexeme : List Char) : Prop where
  /-- These are letters of the token. -/
  written : token.Written lexeme
  /-- They stand at the place. -/
  here : lexeme <+: place.rest
  /-- More tokens make an accepted line. -/
  viable : Viable accepted (place.tokens ++ [token])

/-- How a text is cut further. -/
inductive Next (accepted : List LineToken → Prop) : Place → Place → Prop where
  /-- A blank between tokens is skipped. -/
  | gap {front rest : List Char} {tokens : List LineToken} {last : Nat} {c : Char}
    (hc : Blank.isTokenGap c = true) :
    Next accepted ⟨front, c :: rest, tokens, last⟩ ⟨front ++ [c], rest, tokens, last⟩
  /-- The longest token with which the tokens stay viable is cut off. -/
  | token {front lexeme rest : List Char} {tokens : List LineToken} {last : Nat} {token : LineToken}
    (h : Extends accepted ⟨front, lexeme ++ rest, tokens, last⟩ token lexeme)
    (hl : ∀ other longer, Extends accepted ⟨front, lexeme ++ rest, tokens, last⟩ other longer →
      longer.length ≤ lexeme.length) :
    Next accepted ⟨front, lexeme ++ rest, tokens, last⟩
      ⟨front ++ lexeme, rest, tokens ++ [token], front.length + 1⟩

/-- Whether a place is reached by cutting a text. -/
def Reached (accepted : List LineToken → Prop) (text : List Char) (place : Place) : Prop :=
  Relation.ReflTransGen (Next accepted) (first text) place

/-- What has been cut and what is left make up the text. -/
theorem Reached.front_append_rest {accepted : List LineToken → Prop} {text : List Char}
    {place : Place} (h : Reached accepted text place) : place.front ++ place.rest = text := by
  induction h with
  | refl => rfl
  | tail _ hn ih =>
    cases hn with
    | gap | token =>
      rw [← ih]
      exact List.append_assoc ..

/-- Whether a text cannot be cut further at a place although there is more of it. -/
structure IsStuck (accepted : List LineToken → Prop) (place : Place) : Prop where
  /-- What is left does not begin with a blank. -/
  visible : ∃ c more, place.rest = c :: more ∧ Blank.isTokenGap c = false
  /-- No token is written there with which the tokens stay viable. -/
  blocked : ∀ token lexeme, ¬place.Extends accepted token lexeme

end Place

/-- Whether the outcome of reading a text, the column at which it is refused or nothing, is what
cutting it into the tokens of accepted lines asks for. -/
structure Pinpoints (accepted : List LineToken → Prop) (text : List Char) (outcome : Option Nat) :
    Prop where
  /-- The text is not refused when all of it is cut into the tokens of an accepted line. -/
  accepts : outcome = none ↔
    ∃ tokens last, Place.Reached accepted text ⟨text, [], tokens, last⟩ ∧ accepted tokens
  /-- If it is refused and not cut to its end, the tokens in front of the column are viable, and no
  token with which they stay viable is written there. -/
  inside : ∀ column, outcome = some column →
    (∀ tokens last, ¬Place.Reached accepted text ⟨text, [], tokens, last⟩) →
      ∃ place : Place, place.Reached accepted text ∧ column = place.front.length + 1 ∧
        Viable accepted place.tokens ∧ place.IsStuck accepted
  /-- If it is refused and cut to its end, its tokens are viable but not accepted, and the column is
  that of the last one. -/
  ending : ∀ column, outcome = some column →
    ∀ tokens last, Place.Reached accepted text ⟨text, [], tokens, last⟩ →
      Viable accepted tokens ∧ ¬accepted tokens ∧ column = last

/-! ## Tokens that can follow -/

/-- What is written for a token does not begin with a blank between tokens. -/
theorem LineToken.Written.exists_head {token : LineToken} {lexeme : List Char}
    (h : token.Written lexeme) : ∃ c later, lexeme = c :: later ∧ Blank.isTokenGap c = false := by
  have hvisible : ∀ {c : Char}, Blank.isBlank c = false → Blank.isTokenGap c = false := by
    intro c hb
    by_contra hg
    rw [Bool.not_eq_false] at hg
    rw [Blank.isBlank_of_isTokenGap hg] at hb
    cases hb
  cases h with
  | keyword word =>
    obtain ⟨c, later, hl, hb, -⟩ := word.exists_letters
    exact ⟨c, later, hl, hvisible hb⟩
  | @ruleName first later hf hl =>
    simp only [isRuleNameStart, isRuleNameLetter, Bool.and_eq_true, Bool.not_eq_true'] at hf
    exact ⟨first, later, rfl, hvisible hf.1.1.1⟩
  | @plain token lexeme h =>
    have hs := h.scan?_eq
    cases lexeme with
    | nil => cases hs
    | cons c later =>
      refine ⟨c, later, rfl, ?_⟩
      by_contra hg
      rw [Bool.not_eq_false] at hg
      rw [scan?_of_isTokenGap hg] at hs
      cases hs

/-- A keyword is written with its letters only. -/
theorem LineToken.Written.eq_letters {word : Keyword} {lexeme : List Char}
    (h : LineToken.Written (.keyword word) lexeme) : lexeme = word.letters := by
  cases h
  rfl

/-- The name of a rule is written with its letters only. -/
theorem LineToken.Written.eq_name {letters lexeme : List Char}
    (h : LineToken.Written (.ruleName letters) lexeme) : lexeme = letters := by
  cases h
  rfl

/-- A token of a formula or of arguments is written as such. -/
theorem LineToken.Written.of_plain {token : Token} {lexeme : List Char}
    (h : LineToken.Written (.plain token) lexeme) : token.Written lexeme := by
  cases h with
  | plain h => exact h

/-- The tokens that can follow in a state are of one sort. -/
theorem LineState.sort_of_step {state next next' : LineState} {token other : LineToken}
    (hs : state.step token = some next) (hs' : state.step other = some next') :
    (∃ word word', token = .keyword word ∧ other = .keyword word') ∨
      (∃ letters letters', token = .ruleName letters ∧ other = .ruleName letters') ∨
        ∃ plain plain', token = .plain plain ∧ other = .plain plain' := by
  cases token with
  | keyword word =>
    obtain rfl : state = .start := by cases state <;> first | rfl | cases hs
    obtain ⟨word', h, -⟩ := step_start_eq_some hs'
    exact Or.inl ⟨word, word', rfl, h⟩
  | ruleName letters =>
    have ho : ∃ letters', other = .ruleName letters' := by
      cases state with
      | name =>
        obtain ⟨letters', h, -⟩ := step_name_eq_some hs'
        exact ⟨letters', h⟩
      | topic =>
        obtain ⟨letters', h, -⟩ := step_topic_eq_some hs'
        exact ⟨letters', h⟩
      | start | formula | index | arguments | closed => cases hs
    obtain ⟨letters', rfl⟩ := ho
    exact Or.inr (Or.inl ⟨letters, letters', rfl, rfl⟩)
  | plain token =>
    have ho : ∃ token', other = .plain token' := by
      cases state with
      | formula state =>
        obtain ⟨token', _, h, -⟩ := step_formula_eq_some hs'
        exact ⟨token', h⟩
      | arguments state =>
        obtain ⟨token', _, h, -⟩ := step_arguments_eq_some hs'
        exact ⟨token', h⟩
      | index =>
        obtain ⟨digits, h, -⟩ := step_index_eq_some hs'
        exact ⟨.index digits, h⟩
      | start | name | topic | closed => cases hs
    obtain ⟨token', rfl⟩ := ho
    exact Or.inr (Or.inr ⟨token, token', rfl, rfl⟩)

/-- Of the tokens that can follow only one is written with given letters. -/
theorem LineState.token_eq_of_step {state next next' : LineState} {token other : LineToken}
    {lexeme : List Char} (hs : state.step token = some next) (hw : token.Written lexeme)
    (hs' : state.step other = some next') (hw' : other.Written lexeme) : token = other := by
  rcases sort_of_step hs hs' with ⟨word, word', rfl, rfl⟩ | ⟨letters, letters', rfl, rfl⟩ |
    ⟨plain, plain', rfl, rfl⟩
  · have hl : word.letters = word'.letters := hw.eq_letters.symm.trans hw'.eq_letters
    have hp : word.letters <+: word'.letters := ⟨[], (List.append_nil _).trans hl⟩
    rw [Keyword.prefixFree word word.mem_all word' word'.mem_all hp]
  · rw [← hw.eq_name,← hw'.eq_name]
  · rw [hw.of_plain.unique hw'.of_plain]

/-! ## Cutting is determined -/

section Cutting

variable {accepted : List LineToken → Prop} {initial : LineState} {text : List Char}

/-- What extends viable tokens is written at the place and can follow in their state. -/
theorem Place.extends_iff {place : Place} {state : LineState}
    (hr : initial.run place.tokens = some state) {token : LineToken}
    {lexeme : List Char} : place.Extends initial.Accepts token lexeme ↔
      token.Written lexeme ∧ lexeme <+: place.rest ∧ ∃ next, state.step token = some next := by
  have hv : Viable initial.Accepts (place.tokens ++ [token]) ↔
      ∃ next, state.step token = some next := by
    rw [LineState.viable_iff,LineState.run_concat hr]
  constructor
  · intro he
    exact ⟨he.written, he.here, hv.mp he.viable⟩
  · rintro ⟨hw, hp, hs⟩
    exact ⟨hw, hp, hv.mpr hs⟩

/-- Only one token with given letters extends viable tokens. -/
theorem Place.Extends.unique {place : Place} {token other : LineToken} {lexeme : List Char}
    (he : place.Extends initial.Accepts token lexeme)
    (he' : place.Extends initial.Accepts other lexeme) : token = other := by
  obtain ⟨last, hr⟩ := LineState.viable_iff.mp he.viable
  rw [LineState.run_append] at hr
  obtain ⟨state, hr, -⟩ := Option.bind_eq_some_iff.mp hr
  obtain ⟨hw, -, _, hs⟩ := (extends_iff hr).mp he
  obtain ⟨hw', -, _, hs'⟩ := (extends_iff hr).mp he'
  exact LineState.token_eq_of_step hs hw hs' hw'

/-- A text is cut further in at most one way. -/
theorem Place.Next.unique {place next next' : Place} (hn : place.Next initial.Accepts next)
    (hn' : place.Next initial.Accepts next') : next = next' := by
  have hmixed : ∀ {front rest lexeme more : List Char} {tokens : List LineToken} {last : Nat}
      {token : LineToken} {c : Char}, Blank.isTokenGap c = true →
        Extends initial.Accepts ⟨front, lexeme ++ rest, tokens, last⟩ token lexeme →
          lexeme ++ rest ≠ c :: more := by
    intro front rest lexeme more tokens last token c hc he heq
    obtain ⟨d, later, rfl, hd⟩ := he.written.exists_head
    rw [List.cons_append] at heq
    rw [(List.cons.inj heq).1,hc] at hd
    cases hd
  generalize hp : place = before at hn'
  cases hn with
  | @gap front rest tokens last c hc =>
    cases hn' with
    | @gap front' rest' tokens' last' c' hc' =>
      cases hp
      rfl
    | @token front' lexeme' rest' tokens' last' token' he' hl' =>
      obtain ⟨rfl, hrest, rfl, rfl⟩ := Place.mk.inj hp
      exact absurd hrest.symm (hmixed hc he')
  | @token front lexeme rest tokens last token he hl =>
    cases hn' with
    | @gap front' rest' tokens' last' c' hc' =>
      obtain ⟨rfl, hrest, rfl, rfl⟩ := Place.mk.inj hp
      exact absurd hrest (hmixed hc' he)
    | @token front' lexeme' rest' tokens' last' token' he' hl' =>
      obtain ⟨rfl, hrest, rfl, rfl⟩ := Place.mk.inj hp
      rw [hrest] at he hl
      have hlen : lexeme.length = lexeme'.length :=
        Nat.le_antisymm (hl' _ _ he) (hl _ _ he')
      obtain ⟨rfl, rfl⟩ := List.append_inj hrest hlen
      rw [he.unique he']

/-- At the end of a text nothing is cut further. -/
theorem Place.not_next_of_nil {front : List Char} {tokens : List LineToken} {last : Nat}
    (next : Place) : ¬Place.Next accepted ⟨front, [], tokens, last⟩ next := by
  intro hn
  generalize hp : Place.mk front [] tokens last = place at hn
  cases hn with
  | gap hc => cases (Place.mk.inj hp).2.1
  | token he hl =>
    obtain ⟨c, later, rfl, -⟩ := he.written.exists_head
    cases (Place.mk.inj hp).2.1

/-- Where a text cannot be cut further nothing is. -/
theorem Place.IsStuck.not_next {place : Place} (hs : place.IsStuck accepted) (next : Place) :
    ¬place.Next accepted next := by
  intro hn
  cases hn with
  | gap hc =>
    obtain ⟨c, more, he, hg⟩ := hs.visible
    cases he
    rw [hc] at hg
    cases hg
  | token he hl => exact hs.blocked _ _ he

/-- Only one place is reached at which a text is not cut further. -/
theorem Place.Reached.unique {place place' : Place} (hr : place.Reached initial.Accepts text)
    (hf : ∀ next, ¬place.Next initial.Accepts next) (hr' : place'.Reached initial.Accepts text)
    (hf' : ∀ next, ¬place'.Next initial.Accepts next) : place = place' := by
  have hu : Relator.RightUnique (Next initial.Accepts) := fun _ _ _ hn hn' => hn.unique hn'
  rcases Relation.ReflTransGen.total_of_right_unique hu hr hr' with ht | ht
  · rcases ht.cases_head with he | ⟨next, hn, -⟩
    · exact he
    · exact absurd hn (hf next)
  · rcases ht.cases_head with he | ⟨next, hn, -⟩
    · exact he.symm
    · exact absurd hn (hf' next)

/-- The tokens in front of a place that is reached are viable. -/
theorem Place.Reached.viable {place : Place} (hr : place.Reached initial.Accepts text) :
    Viable initial.Accepts place.tokens := by
  induction hr with
  | refl => exact LineState.viable_iff.mpr ⟨initial, rfl⟩
  | tail _ hn ih =>
    cases hn with
    | gap => exact ih
    | token he => exact he.viable

/-- How cutting a text ends, with the column at which it should be refused, if it should. -/
inductive Settles (accepted : List LineToken → Prop) (text : List Char) : Option Nat → Prop where
  /-- It ends in front of more text. -/
  | stuck {place : Place} (h : place.Reached accepted text) (hs : place.IsStuck accepted) :
    Settles accepted text (some (place.front.length + 1))
  /-- It ends at the end of the text, and the tokens are not accepted. -/
  | refused {tokens : List LineToken} {last : Nat}
    (h : Place.Reached accepted text ⟨text, [], tokens, last⟩) (hn : ¬accepted tokens) :
    Settles accepted text (some last)
  /-- It ends at the end of the text, and the tokens are accepted. -/
  | accepted {tokens : List LineToken} {last : Nat}
    (h : Place.Reached accepted text ⟨text, [], tokens, last⟩) (ha : accepted tokens) :
    Settles accepted text none

/-- The way in which cutting ends is what the outcome of reading should be. -/
theorem Settles.pinpoints {outcome : Option Nat} (hs : Settles initial.Accepts text outcome) :
    Pinpoints initial.Accepts text outcome := by
  have hends : ∀ {tokens tokens' : List LineToken} {last last' : Nat},
      Place.Reached initial.Accepts text ⟨text, [], tokens, last⟩ →
        Place.Reached initial.Accepts text ⟨text, [], tokens', last'⟩ →
          tokens = tokens' ∧ last = last' := by
    intro tokens tokens' last last' hr hr'
    have he := hr.unique Place.not_next_of_nil hr' Place.not_next_of_nil
    exact (Place.mk.inj he).2.2
  cases hs with
  | @stuck place hr hs =>
    have hnone : ∀ tokens last, ¬Place.Reached initial.Accepts text ⟨text, [], tokens, last⟩ := by
      intro tokens last hr'
      obtain ⟨c, more, he, -⟩ := hs.visible
      rw [hr.unique hs.not_next hr' Place.not_next_of_nil] at he
      cases he
    refine ⟨⟨nofun, fun ⟨tokens, last, hr', _⟩ => absurd hr' (hnone tokens last)⟩, ?_, ?_⟩
    · rintro column ho -
      cases ho
      exact ⟨place, hr, rfl, hr.viable, hs⟩
    · intro column _ tokens last hr'
      exact absurd hr' (hnone tokens last)
  | @refused tokens last hr hn =>
    refine ⟨⟨nofun, ?_⟩, fun column _ hnone => absurd hr (hnone tokens last), ?_⟩
    · rintro ⟨tokens', last', hr', ha⟩
      rw [← (hends hr hr').1] at ha
      exact absurd ha hn
    · intro column ho tokens' last' hr'
      cases ho
      obtain ⟨rfl, rfl⟩ := hends hr hr'
      exact ⟨hr.viable, hn, rfl⟩
  | @accepted tokens last hr ha =>
    exact ⟨⟨fun _ => ⟨tokens, last, hr, ha⟩, fun _ => rfl⟩, nofun, nofun⟩

end Cutting

end BoxedDeduction
