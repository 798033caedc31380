import BoxedDeduction.Proofs.Command.Printing
import Mathlib.Tactic.IntervalCases

/-!
# Reading the arguments of rules

The arguments of a rule stand side by side: indices in decimal digits and formulas. No token that
begins an argument can continue a complete formula, so each argument ends where the next one
begins, and a list of arguments is read back from its printed form. Conversely, every argument
that is read can be written.
-/

namespace BoxedDeduction

/-! ## Indices -/

namespace WholeNumber

/-- A decimal digit stands for its distance from zero. -/
theorem digitIn?_of_isDigit {c : Char} (h : c.isDigit = true) :
    digitIn? 10 c = some (c.toNat - '0'.toNat) := by
  obtain ⟨hl, hu⟩ := range_of_isDigit h
  have hc : c = Char.ofNat c.toNat := (Char.ofNat_toNat c).symm
  generalize c.toNat = number at hc hl hu
  subst hc
  interval_cases number <;> decide

/-- Decimal digits are read one by one. -/
theorem digits?_of_isDigit {cs : List Char} (hn : cs ≠ []) (h : ∀ c ∈ cs, c.isDigit = true) :
    digits? 10 cs = some (cs.map fun c => c.toNat - '0'.toNat) := by
  fun_induction digits? 10 cs with
  | case1 => exact absurd rfl hn
  | case2 c => rw [digitIn?_of_isDigit (h c List.mem_cons_self)]; rfl
  | case3 c rest ih => exact absurd (h '_' (by simp)) (by decide)
  | case4 c rest h1 h2 ih =>
    rw [digitIn?_of_isDigit (h c List.mem_cons_self), ih h1 fun d hd => h d (List.mem_cons_of_mem _ hd)]
    rfl

/-- Decimal digits have no mark of a base in front. -/
theorem withoutMark_ten (cs : List Char) : withoutMark 10 cs = cs := by
  unfold withoutMark
  split
  · rfl
  · rfl

/-- Digits denote a number below the next power of ten. -/
theorem foldl_lt_pow {digits : List Nat} (h : ∀ digit ∈ digits, digit < 10) (value : Nat) :
    digits.foldl (fun value digit => 10 * value + digit) value <
      (value + 1) * 10 ^ digits.length := by
  induction digits generalizing value with
  | nil => simp
  | cons digit rest ih =>
    have hd : digit < 10 := h digit List.mem_cons_self
    have hle : 10 * value + digit + 1 ≤ (value + 1) * 10 := by omega
    calc
      rest.foldl (fun value digit => 10 * value + digit) (10 * value + digit)
          < (10 * value + digit + 1) * 10 ^ rest.length :=
        ih (fun other ho => h other (List.mem_cons_of_mem _ ho)) _
      _ ≤ (value + 1) * 10 * 10 ^ rest.length := Nat.mul_le_mul_right _ hle
      _ = (value + 1) * 10 ^ (digit :: rest).length := by
        rw [List.length_cons,Nat.pow_succ',Nat.mul_assoc]

/-- What is read as a digit is below the base. -/
theorem lt_of_mem_digits? {base : Nat} {cs : List Char} {digits : List Nat}
    (h : digits? base cs = some digits) : ∀ digit ∈ digits, digit < base := by
  have hcons : ∀ {c : Char} {digit : Nat} {later : List Nat}, digitIn? base c = some digit →
      (∀ other ∈ later, other < base) → ∀ other ∈ digit :: later, other < base := by
    intro c digit later hd hl
    rw [digitIn?,Option.filter_eq_some_iff] at hd
    exact List.forall_mem_cons.mpr ⟨of_decide_eq_true hd.2, hl⟩
  fun_induction digits? base cs generalizing digits with
  | case1 => cases h
  | case2 c =>
    obtain ⟨digit, hd, rfl⟩ := Option.map_eq_some_iff.mp h
    exact hcons hd fun _ ho => absurd ho List.not_mem_nil
  | case3 c rest ih =>
    obtain ⟨digit, hd, later, hl, rfl⟩ := by simpa [Option.bind_eq_some_iff] using h
    exact hcons hd (ih hl)
  | case4 c rest h1 h2 ih =>
    obtain ⟨digit, hd, later, hl, rfl⟩ := by simpa [Option.bind_eq_some_iff] using h
    exact hcons hd (ih hl)

/-- A number that is read in decimal digits has no more digits than are read. -/
theorem lt_of_natural? {cs : List Char} {value : Nat} (h : natural? 10 cs = some value) :
    value < 10 ^ digitLimit := by
  simp only [natural?, Option.bind_eq_bind, Option.bind_eq_some_iff] at h
  obtain ⟨digits, hd, hv⟩ := h
  split at hv
  · next hl =>
    have hle : digits.length ≤ digitLimit := by
      rcases hl with hl | hl
      · exact hl
      · exact absurd hl (by decide)
    have hlt : ofDigits 10 digits < (0 + 1) * 10 ^ digits.length :=
      foldl_lt_pow (lt_of_mem_digits? hd) 0
    rw [Option.some.injEq] at hv
    rw [← hv]
    rw [Nat.zero_add,Nat.one_mul] at hlt
    exact Nat.lt_of_lt_of_le hlt (Nat.pow_le_pow_right (by decide) hle)
  · cases hv

/-- A number is read back from its decimal digits, if they are not too many. -/
theorem natural?_toDigits {value : Nat} (h : value < 10 ^ digitLimit) :
    natural? 10 (Nat.toDigits 10 value) = some value := by
  have hd : digits? 10 (Nat.toDigits 10 value) =
      some ((Nat.toDigits 10 value).map fun c => c.toNat - '0'.toNat) :=
    digits?_of_isDigit Nat.toDigits_ne_nil fun c hc =>
      Nat.isDigit_of_mem_toDigits (by decide) (by decide) hc
  have hl : (Nat.toDigits 10 value).length ≤ digitLimit :=
    (Nat.length_toDigits_le_iff (by decide) (by decide)).mpr h
  have hv : ofDigits 10 ((Nat.toDigits 10 value).map fun c => c.toNat - '0'.toNat) = value := by
    rw [ofDigits,List.foldl_map,← Nat.ofDigitChars_eq_foldl]
    exact Nat.ofDigitChars_ten_toDigits
  rw [natural?,withoutMark_ten,hd]
  simp only [Option.bind_eq_bind, Option.bind_some, List.length_map, hl, true_or, if_true, hv]

end WholeNumber

/-! ## Arguments that can be written -/

namespace Argument

/-- Whether an argument can be written: an index that is a natural number with no more digits than
are read, or a formula whose symbols have names that can be read. -/
def IsWritable : Argument → Prop
  | .index i => ∃ value : Nat, value < 10 ^ WholeNumber.digitLimit ∧ i = value
  | .prop p => p.IsWritable

/-- The argument as it is written. -/
def written : Argument → WrittenArgument
  | .index i => .index (toString i).toList
  | .prop p => .prop p

/-- A written index is the text of its digits. -/
theorem toList_toString (value : Nat) : (toString (value : Int)).toList = Nat.toDigits 10 value := by
  rw [← Nat.toList_repr]
  rfl

/-- An argument that can be written has the value that is written. -/
theorem IsWritable.value_written {argument : Argument} (h : argument.IsWritable) :
    argument.written.value = .ok argument := by
  cases argument with
  | index i =>
    obtain ⟨value, hv, rfl⟩ := h
    rw [written,toList_toString,WrittenArgument.value,indexOfDigits,
      WholeNumber.natural?_toDigits hv]
    rfl
  | prop p => rfl

end Argument

/-- The value of digits is an index that can be written. -/
theorem isWritable_of_indexOfDigits {digits : List Char} {index : Int}
    (h : indexOfDigits digits = .ok index) : (Argument.index index).IsWritable := by
  rw [indexOfDigits] at h
  split at h
  · next value hv =>
    cases h
    exact ⟨value, WholeNumber.lt_of_natural? hv, rfl⟩
  · cases h

/-! ## Reading argument by argument -/

namespace ArgumentState

/-- Read tokens one after the other, if each can follow. -/
def run (state : ArgumentState) (tokens : List Token) : Option ArgumentState :=
  tokens.foldlM step state

/-- Without tokens nothing changes. -/
theorem run_nil (state : ArgumentState) : state.run [] = some state := rfl

/-- One token is read before the others. -/
theorem run_cons (state : ArgumentState) (token : Token) (tokens : List Token) :
    state.run (token :: tokens) = (state.step token).bind fun next => next.run tokens := rfl

/-- Tokens are read before those that follow them. -/
theorem run_append (state : ArgumentState) (first later : List Token) :
    state.run (first ++ later) = (state.run first).bind fun next => next.run later :=
  List.foldlM_append

variable {state : ArgumentState} {arguments finished : List WrittenArgument}

/-- What begins a formula begins an argument. -/
theorem beginArgument_of_step {token : Token} {formula : FormulaState}
    (h : FormulaState.start.step token = some formula) :
    beginArgument finished token = some ⟨finished, some formula⟩ := by
  cases token with
  | index digits => cases h
  | _ => simp only [beginArgument, h, Option.map_some]

/-- A token with which an argument begins does not continue the argument before it. -/
theorem step_of_result? (h : state.result? = some arguments) {token : Token}
    {next : ArgumentState} (hb : beginArgument arguments.reverse token = some next) :
    state.step token = some next := by
  obtain ⟨finished, formula⟩ := state
  cases formula with
  | none =>
    cases h
    rw [List.reverse_reverse] at hb
    exact hb
  | some formula =>
    obtain ⟨prop, hp, rfl⟩ := Option.map_eq_some_iff.mp h
    rw [List.reverse_reverse] at hb
    obtain ⟨stack, operand⟩ := formula
    cases operand with
    | none => cases hp
    | some operand =>
      -- The operand is complete, so only connectives and parentheses could continue it.
      have hn : FormulaState.step ⟨stack, some operand⟩ token = none := by
        cases token with
        | and | or | imply | closeParen => cases hb
        | name | index | bottom | openParen | neg => rfl
      simp only [step, hn, hp, Option.bind_some, hb]

/-- A formula is read as the latest argument. -/
theorem run_of_formula {formula last : FormulaState} {tokens : List Token}
    (h : formula.run tokens = some last) :
    run ⟨finished, some formula⟩ tokens = some ⟨finished, some last⟩ := by
  induction tokens generalizing formula with
  | nil =>
    cases h
    rfl
  | cons token rest ih =>
    rw [FormulaState.run_cons] at h
    obtain ⟨next, hs, hr⟩ := Option.bind_eq_some_iff.mp h
    have ha : step ⟨finished, some formula⟩ token = some ⟨finished, some next⟩ := by
      simp only [step, hs]
    rw [run_cons,ha]
    exact ih hr

/-- An index is read behind other arguments. -/
theorem run_index (h : state.result? = some arguments) (digits : List Char) :
    ∃ last, state.run [.index digits] = some last ∧
      last.result? = some (arguments ++ [.index digits]) := by
  refine ⟨⟨.index digits :: arguments.reverse, none⟩, ?_, by simp [result?]⟩
  rw [run_cons,step_of_result? h rfl]
  rfl

/-- A formula is read behind other arguments. -/
theorem run_prop (h : state.result? = some arguments) {tokens : List Token} {prop : Proposition}
    (hd : Derives .prop tokens prop) :
    ∃ last, state.run tokens = some last ∧ last.result? = some (arguments ++ [.prop prop]) := by
  obtain ⟨formula, hr, hp⟩ := FormulaState.result?_of_derives hd
  refine ⟨⟨arguments.reverse, some formula⟩, ?_, by simp [result?, hp]⟩
  cases tokens with
  | nil =>
    cases hr
    cases hp
  | cons first later =>
    rw [FormulaState.run_cons] at hr
    obtain ⟨next, hs, hl⟩ := Option.bind_eq_some_iff.mp hr
    rw [run_cons,step_of_result? h (beginArgument_of_step hs)]
    exact run_of_formula hl

/-- The tokens that are looked for in a state. -/
def mode (state : ArgumentState) : ScanMode :=
  match state.formula with
  | none => .argument
  | some formula => formula.mode

/-- A token with which an argument begins is looked for where one may begin. -/
theorem admits_of_beginArgument {token : Token} {next : ArgumentState}
    (h : beginArgument finished token = some next) :
    ScanMode.argument.admits token = true ∧ token.nextMode = next.mode := by
  cases token with
  | index digits =>
    cases h
    exact ⟨rfl, rfl⟩
  | name | bottom | openParen | neg =>
    cases h
    exact ⟨rfl, rfl⟩
  | closeParen | and | or | imply => cases h

/-- A token that is read is looked for, and then those that may follow in the next state. -/
theorem admits_of_step {next : ArgumentState} {token : Token} (h : state.step token = some next) :
    state.mode.admits token = true ∧ token.nextMode = next.mode := by
  obtain ⟨finished, formula⟩ := state
  cases formula with
  | none => exact admits_of_beginArgument h
  | some formula =>
    rw [step] at h
    cases hs : formula.step token with
    | some following =>
      simp only [hs, Option.some.injEq] at h
      rw [← h]
      exact FormulaState.admits_of_step hs
    | none =>
      simp only [hs] at h
      obtain ⟨prop, hp, hb⟩ := Option.bind_eq_some_iff.mp h
      obtain ⟨-, hn⟩ := admits_of_beginArgument hb
      obtain ⟨stack, operand⟩ := formula
      cases operand with
      | none => cases hp
      | some operand => exact ⟨rfl, hn⟩

/-- Tokens that are read one after the other may follow each other. -/
theorem admits_of_run {last : ArgumentState} {tokens : List Token}
    (h : state.run tokens = some last) : state.mode.Admits tokens :=
  ScanMode.admits_of_foldlM mode admits_of_step h

end ArgumentState

/-- Arguments are read when the text is scanned to its end and the tokens make the arguments. -/
theorem readArguments_eq_ok_iff {ending : ScanEnd} {column : Nat} {state : ArgumentState}
    {tokens : List LocatedToken} {arguments : List WrittenArgument} :
    readArguments ending column state tokens = .ok arguments ↔
      ending = .complete ∧ ∃ last, state.run (tokens.map LocatedToken.token) = some last ∧
        last.result? = some arguments := by
  induction tokens generalizing column state with
  | nil =>
    cases ending with
    | stuck place mode => simp [readArguments]
    | complete => cases hp : state.result? <;> simp [readArguments, ArgumentState.run_nil, hp]
  | cons next rest ih =>
    rw [readArguments,List.map_cons,ArgumentState.run_cons]
    cases hs : state.step next.token with
    | none => simp
    | some following => exact ih

/-! ## Printed arguments are read back -/

/-- An index is cut off where it ends. -/
theorem spelled_index {digits : List Char} (hn : digits ≠ [])
    (hd : ∀ c ∈ digits, c.isDigit = true) : Spelled digits [.index digits] := by
  intro cs more hc he
  cases digits with
  | nil => exact absurd rfl hn
  | cons first later =>
    have ht : cs.takeWhile Char.isDigit = [] := by
      cases cs with
      | nil => rfl
      | cons c rest =>
        have hl := ends_cons.mp he
        simp only [isNameLetter, Char.isAlphanum, Bool.or_eq_false_iff] at hl
        rw [List.takeWhile_cons,hl.1.2]
        rfl
    have hs := @scan?_index .continuation ScanMode.noConfusion _ _ (hd first List.mem_cons_self)
      (fun c hm => hd c (List.mem_cons_of_mem _ hm)) cs
    rw [ht,List.append_nil] at hs
    exact hc.of_scan? hs

/-- An argument that can be written is read back behind other arguments. -/
theorem Argument.IsWritable.exists_spelled {table : Connectives} (ht : table.IsReadable)
    {argument : Argument} (h : argument.IsWritable) :
    ∃ tokens, Spelled (argument.print table).toList tokens ∧
      ∀ (state : ArgumentState) (before : List WrittenArgument), state.result? = some before →
        ∃ last, state.run tokens = some last ∧
          last.result? = some (before ++ [argument.written]) := by
  cases argument with
  | index i =>
    obtain ⟨value, -, rfl⟩ := h
    refine ⟨[.index (toString (value : Int)).toList], ?_, fun state before hs => ?_⟩
    · rw [print,toList_toString]
      exact spelled_index Nat.toDigits_ne_nil fun c hc =>
        Nat.isDigit_of_mem_toDigits (by decide) (by decide) hc
    · exact ArgumentState.run_index hs _
  | prop p =>
    obtain ⟨tokens, hs, hd⟩ := Proposition.spelledBy_print ht h
    exact ⟨tokens, hs, fun state before hr =>
      ArgumentState.run_prop hr (hd .prop p.one_le_strength)⟩

/-- The letters of arguments with a blank in front of each. -/
def argumentLetters (table : Connectives) (arguments : List Argument) : List Char :=
  arguments.flatMap fun argument => ' ' :: (argument.print table).toList

/-- Nothing in front of arguments goes on with them. -/
theorem ends_argumentLetters (table : Connectives) (arguments : List Argument) :
    Ends (argumentLetters table arguments) := by
  cases arguments with
  | nil => exact ends_nil
  | cons first rest =>
    rw [argumentLetters,List.flatMap_cons,List.cons_append]
    exact ends_cons.mpr (by decide)

/-- Arguments that can be written are cut into tokens from which they are read back one by one. -/
theorem exists_cut_argumentLetters {table : Connectives} (ht : table.IsReadable)
    {arguments : List Argument} (h : ∀ argument ∈ arguments, argument.IsWritable) :
    ∃ tokens, Cut (argumentLetters table arguments) tokens ∧
      ∀ (state : ArgumentState) (before : List WrittenArgument), state.result? = some before →
        ∃ last, state.run tokens = some last ∧
          last.result? = some (before ++ arguments.map Argument.written) := by
  induction arguments with
  | nil =>
    refine ⟨[], .done, fun state before hs => ⟨state, rfl, ?_⟩⟩
    rw [List.map_nil,List.append_nil]
    exact hs
  | cons first rest ih =>
    obtain ⟨later, hc, hl⟩ := ih fun argument hm => h argument (List.mem_cons_of_mem _ hm)
    obtain ⟨tokens, hs, hf⟩ := (h first List.mem_cons_self).exists_spelled ht
    refine ⟨tokens ++ later, ?_, fun state before hr => ?_⟩
    · have hg : Blank.isTokenGap ' ' = true := by decide
      rw [argumentLetters,List.flatMap_cons,List.cons_append]
      exact .gap hg (hs _ _ hc (ends_argumentLetters table rest))
    · obtain ⟨middle, hrun, hmid⟩ := hf state before hr
      obtain ⟨last, hrun', hlast⟩ := hl middle _ hmid
      refine ⟨last, ?_, ?_⟩
      · rw [ArgumentState.run_append,hrun,Option.bind_some,hrun']
      · rw [hlast,List.append_assoc,List.map_cons,List.singleton_append]

/-- Printed arguments are read back, wherever they stand in the line. -/
theorem readArguments_argumentLetters {table : Connectives} (ht : table.IsReadable)
    {arguments : List Argument} (h : ∀ argument ∈ arguments, argument.IsWritable)
    (lastColumn column : Nat) :
    readArguments (tokenize .argument column (argumentLetters table arguments)).ending lastColumn
        .start (tokenize .argument column (argumentLetters table arguments)).tokens =
      .ok (arguments.map Argument.written) := by
  obtain ⟨tokens, hc, hr⟩ := exists_cut_argumentLetters ht h
  obtain ⟨last, hrun, hlast⟩ := hr .start [] rfl
  obtain ⟨hp, he⟩ := hc.tokenize (ArgumentState.admits_of_run hrun : ScanMode.argument.Admits _) column
  refine readArguments_eq_ok_iff.mpr ⟨he, last, ?_, hlast⟩
  rw [← hp] at hrun
  exact hrun

/-! ## What is read can be written -/

/-- Whether a written argument is an index or a formula that can be written. -/
def WrittenArgument.IsWritable : WrittenArgument → Prop
  | .index _ => True
  | .prop p => p.IsWritable

/-- The value of a written argument can be written. -/
theorem WrittenArgument.IsWritable.value {written : WrittenArgument} (h : written.IsWritable)
    {argument : Argument} (hv : written.value = .ok argument) : argument.IsWritable := by
  cases written with
  | index digits =>
    rw [WrittenArgument.value] at hv
    cases hi : indexOfDigits digits with
    | error cause =>
      rw [hi] at hv
      cases hv
    | ok index =>
      rw [hi] at hv
      cases hv
      exact isWritable_of_indexOfDigits hi
  | prop p =>
    cases hv
    exact h

namespace ArgumentState

/-- Whether the arguments that have been read can be written and the names in the formula that is
being read can be read. -/
structure IsWritable (state : ArgumentState) : Prop where
  /-- The finished arguments can be written. -/
  finished : ∀ argument ∈ state.finished, argument.IsWritable
  /-- The tokens of the unfinished formula have names that can be read. -/
  formula : ∀ formula ∈ state.formula, ∃ tokens, formula.LeadsTo tokens ∧
    ∀ text, .name text ∈ tokens → isName text = true

variable {state next : ArgumentState} {token : Token}

/-- A formula that is complete can be written with the arguments before it. -/
theorem IsWritable.result? (h : state.IsWritable) {arguments : List WrittenArgument}
    (hr : state.result? = some arguments) : ∀ argument ∈ arguments, argument.IsWritable := by
  obtain ⟨finished, formula⟩ := state
  cases formula with
  | none =>
    cases hr
    exact fun argument hm => h.finished argument (List.mem_reverse.mp hm)
  | some formula =>
    obtain ⟨prop, hp, rfl⟩ := Option.map_eq_some_iff.mp hr
    obtain ⟨tokens, hl, hn⟩ := h.formula formula rfl
    have hw : prop.IsWritable := (hl.result? hp).isWritable hn
    intro argument hm
    rcases List.mem_cons.mp (List.mem_reverse.mp hm) with rfl | hm
    · exact hw
    · exact h.finished argument hm

/-- A token whose name can be read leads to a formula of such tokens. -/
theorem isName_of_mem_concat {tokens : List Token}
    (h : ∀ text, .name text ∈ tokens → isName text = true)
    (ht : ∀ text, token = .name text → isName text = true) :
    ∀ text, .name text ∈ tokens ++ [token] → isName text = true := by
  intro text hm
  rcases List.mem_append.mp hm with hm | hm
  · exact h text hm
  · exact ht text (List.mem_singleton.mp hm).symm

/-- An argument may begin behind arguments that can be written. -/
theorem isWritable_of_beginArgument {finished : List WrittenArgument}
    (hf : ∀ argument ∈ finished, argument.IsWritable)
    (ht : ∀ text, token = .name text → isName text = true)
    (h : beginArgument finished token = some next) : next.IsWritable := by
  cases token with
  | index digits =>
    cases h
    refine ⟨?_, nofun⟩
    intro argument hm
    rcases List.mem_cons.mp hm with rfl | hm
    · trivial
    · exact hf argument hm
  | name | bottom | openParen | neg | closeParen | and | or | imply =>
    simp only [beginArgument] at h
    obtain ⟨formula, hs, rfl⟩ := Option.map_eq_some_iff.mp h
    have hl : FormulaState.start.LeadsTo [] := .start
    refine ⟨hf, fun _ hm => ?_⟩
    cases hm
    exact ⟨_, hl.step hs, isName_of_mem_concat nofun ht⟩

/-- Reading a token whose name can be read keeps up that everything can be written. -/
theorem IsWritable.step (h : state.IsWritable)
    (ht : ∀ text, token = .name text → isName text = true) (hs : state.step token = some next) :
    next.IsWritable := by
  obtain ⟨finished, formula⟩ := state
  cases formula with
  | none => exact isWritable_of_beginArgument h.finished ht hs
  | some formula =>
    rw [ArgumentState.step] at hs
    cases hf : formula.step token with
    | some following =>
      simp only [hf, Option.some.injEq] at hs
      obtain ⟨tokens, hl, hn⟩ := h.formula formula rfl
      rw [← hs]
      refine ⟨h.finished, fun _ hm => ?_⟩
      cases hm
      exact ⟨_, hl.step hf, isName_of_mem_concat hn ht⟩
    | none =>
      simp only [hf] at hs
      obtain ⟨prop, hp, hb⟩ := Option.bind_eq_some_iff.mp hs
      refine isWritable_of_beginArgument ?_ ht hb
      have hr : ArgumentState.result? ⟨finished, some formula⟩ = some (.prop prop :: finished).reverse := by
        simp only [ArgumentState.result?, hp, Option.map_some]
      intro argument hm
      exact h.result? hr argument (List.mem_reverse.mpr hm)

/-- Reading tokens whose names can be read keeps up that everything can be written. -/
theorem IsWritable.run {last : ArgumentState} {tokens : List Token} (h : state.IsWritable)
    (ht : ∀ text, .name text ∈ tokens → isName text = true) (hr : state.run tokens = some last) :
    last.IsWritable := by
  induction tokens generalizing state with
  | nil =>
    cases hr
    exact h
  | cons token rest ih =>
    rw [run_cons] at hr
    obtain ⟨next, hs, hr⟩ := Option.bind_eq_some_iff.mp hr
    refine ih (h.step ?_ hs) (fun text hm => ht text (List.mem_cons_of_mem _ hm)) hr
    rintro text rfl
    exact ht text List.mem_cons_self

end ArgumentState

/-- Arguments that are read can be written. -/
theorem isWritable_of_readArguments {column lastColumn : Nat} {cs : List Char}
    {arguments : List WrittenArgument}
    (h : readArguments (tokenize .argument column cs).ending lastColumn .start
      (tokenize .argument column cs).tokens = .ok arguments) :
    ∀ argument ∈ arguments, argument.IsWritable := by
  obtain ⟨he, last, hr, hl⟩ := readArguments_eq_ok_iff.mp h
  have hs : ArgumentState.start.IsWritable := ⟨nofun, nofun⟩
  have hc : Cut cs (tokenize .argument column cs).plain := cut_of_tokenize he
  exact (hs.run (fun text hm => hc.isName_of_mem hm) hr).result? hl

end BoxedDeduction
