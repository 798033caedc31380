import BoxedDeduction.Rule.Rulebook

/-!
# Names in the rulebook

Capital letters are replaced before a name is looked up. The names and aliases of the sixteen
rules consist of characters that have no other small form, no two rules share a name and no
alias is the name of a rule, so every rule is found under its own name. A rule that is made from
a name and arguments has these arguments.
-/

namespace BoxedDeduction

/-! ## Small letters -/

namespace LetterCase

/-- Whether the code point of a character lies where there are no capital letters: below them,
between those of the basic alphabet and those with accents, or among the mathematical signs. -/
def isSmall (c : Char) : Bool :=
  c.toNat < 0x41 || (0x5A < c.toNat && c.toNat < 0xC0) || (0x2190 ≤ c.toNat && c.toNat < 0x24B6)

/-- No run of capital letters reaches into these places. -/
theorem capitalRuns_apart : ∀ run ∈ capitalRuns,
    (run.first = 0x41 ∧ run.last = 0x5A ∨ 0xC0 ≤ run.first) ∧
      (run.last < 0x2190 ∨ 0x24B6 ≤ run.first) := by
  decide +kernel

variable {c : Char}

/-- A character that is no capital letter is small already. -/
theorem lowerLetter_of_isSmall (h : isSmall c = true) : lowerLetter c = [c] := by
  simp only [isSmall, Bool.or_eq_true, Bool.and_eq_true, decide_eq_true_eq] at h
  have hd : c ≠ '\u0130' := by
    rintro rfl
    revert h
    decide
  have hr : capitalRuns.find? (fun run => run.first ≤ c.toNat && c.toNat ≤ run.last &&
      (c.toNat - run.first) % run.stride == 0) = none := by
    rw [List.find?_eq_none]
    intro run hm
    have ha := capitalRuns_apart run hm
    simp only [Bool.and_eq_true, decide_eq_true_eq]
    rintro ⟨⟨hf, hl⟩, -⟩
    omega
  rw [lowerLetter,if_neg hd,hr]

/-- Letters that are small already stay as they are. -/
theorem lowerAfter_of_isSmall {cs : List Char} (h : ∀ c ∈ cs, isSmall c = true)
    (before : List Char) : lowerAfter before cs = cs := by
  induction cs generalizing before with
  | nil => rfl
  | cons c rest ih =>
    have hc : isSmall c = true := h c List.mem_cons_self
    have hs : c ≠ 'Σ' := by
      rintro rfl
      revert hc
      decide
    rw [lowerAfter,if_neg hs,lowerLetter_of_isSmall hc,
      ih (fun d hd => h d (List.mem_cons_of_mem _ hd)),List.singleton_append]

/-- A text in small letters stays as it is. -/
theorem lower_of_isSmall {text : String} (h : ∀ c ∈ text.toList, isSmall c = true) :
    lower text = text := by
  rw [lower,lowerAfter_of_isSmall h,String.ofList_toList]

end LetterCase

namespace RuleKind

/-- The names of rules are in small letters. -/
theorem lower_name (kind : RuleKind) : LetterCase.lower kind.name = kind.name := by
  have hall : ∀ kind ∈ all, kind.name.toList.all LetterCase.isSmall = true := by decide +kernel
  exact LetterCase.lower_of_isSmall (List.all_eq_true.mp (hall kind kind.mem_all))

/-- The aliases of rules are in small letters. -/
theorem lower_alias {kind : RuleKind} {also : String} (h : also ∈ kind.aliases) :
    LetterCase.lower also = also := by
  have hall : ∀ kind ∈ all, ∀ also ∈ kind.aliases, also.toList.all LetterCase.isSmall = true := by
    decide +kernel
  exact LetterCase.lower_of_isSmall (List.all_eq_true.mp (hall kind kind.mem_all also h))

/-- No two rules have the same name. -/
theorem eq_of_name_eq {kind other : RuleKind} (h : kind.name = other.name) : kind = other := by
  have hall : ∀ kind ∈ all, ∀ other ∈ all, kind.name = other.name → kind = other := by
    decide +kernel
  exact hall kind kind.mem_all other other.mem_all h

/-- No alias is the name of a rule. -/
theorem name_ne_alias (kind : RuleKind) {other : RuleKind} {also : String}
    (h : also ∈ other.aliases) : also ≠ kind.name := by
  have hall : ∀ kind ∈ all, ∀ other ∈ all, ∀ also ∈ other.aliases, also ≠ kind.name := by
    decide +kernel
  exact hall kind kind.mem_all other other.mem_all also h

end RuleKind

/-! ## Looking up names -/

/-- Whether a text in small letters is one of the further names of an entry. -/
def RuleEntry.isKnownAs (key : String) (entry : RuleEntry) : Bool :=
  entry.aliases.any fun also => LetterCase.lower also == key

namespace Rulebook

variable {book : Rulebook} {entry : RuleEntry} {key : String}

/-- Entering a rule puts it under its name and changes no other name. -/
theorem find?_rules_register (book : Rulebook) (entry : RuleEntry) (key : String) :
    (book.register entry).rules.find? key =
      if LetterCase.lower entry.name = key then some entry else book.rules.find? key :=
  KeyedList.find?_insert _ _ _ _

/-- Entering a rule puts its name under its aliases and changes no other alias. -/
theorem find?_aliases_register (book : Rulebook) (entry : RuleEntry) (key : String) :
    (book.register entry).aliases.find? key =
      if entry.isKnownAs key then some (LetterCase.lower entry.name)
      else book.aliases.find? key := by
  rw [register,RuleEntry.isKnownAs]
  generalize LetterCase.lower entry.name = name
  generalize book.aliases = before
  induction entry.aliases generalizing before with
  | nil => rfl
  | cons first rest ih =>
    rw [List.foldl_cons,ih,KeyedList.find?_insert,List.any_cons]
    -- An alias that is written twice is put under the same name twice.
    by_cases hf : LetterCase.lower first = key
    · rw [if_pos hf,beq_iff_eq.mpr hf,Bool.true_or,if_pos rfl,ite_self]
    · rw [if_neg hf,beq_eq_false_iff_ne.mpr hf,Bool.false_or]

variable {kinds : List RuleKind} {kind : RuleKind}

/-- Of the rules that are entered one is found under its own name. -/
theorem find?_rules_foldl (kinds : List RuleKind) (kind : RuleKind) (book : Rulebook) :
    ((kinds.map .ofKind).foldl register book).rules.find? kind.name =
      if kind ∈ kinds then some (.ofKind kind) else book.rules.find? kind.name := by
  induction kinds generalizing book with
  | nil => rfl
  | cons first rest ih =>
    rw [List.map_cons,List.foldl_cons,ih,find?_rules_register]
    have hl : LetterCase.lower (RuleEntry.ofKind first).name = first.name := first.lower_name
    rw [hl]
    by_cases hr : kind ∈ rest
    · rw [if_pos hr,if_pos (List.mem_cons_of_mem _ hr)]
    · by_cases hf : kind = first
      · subst hf
        rw [if_neg hr,if_pos rfl,if_pos List.mem_cons_self]
      · have hn : first.name ≠ kind.name := fun hn => hf (RuleKind.eq_of_name_eq hn).symm
        have hm : kind ∉ first :: rest := by
          rw [List.mem_cons,not_or]
          exact ⟨hf, hr⟩
        rw [if_neg hr,if_neg hn,if_neg hm]

/-- The name of a rule is an alias of none that is entered. -/
theorem find?_aliases_foldl (kinds : List RuleKind) (kind : RuleKind) (book : Rulebook) :
    ((kinds.map .ofKind).foldl register book).aliases.find? kind.name =
      book.aliases.find? kind.name := by
  induction kinds generalizing book with
  | nil => rfl
  | cons first rest ih =>
    have hk : RuleEntry.isKnownAs kind.name (.ofKind first) = false := by
      rw [RuleEntry.isKnownAs,List.any_eq_false]
      intro also hm
      have ha : also ∈ first.aliases := hm
      rw [RuleKind.lower_alias ha,beq_iff_eq]
      exact kind.name_ne_alias ha
    rw [List.map_cons,List.foldl_cons,ih,find?_aliases_register,hk,if_neg Bool.false_ne_true]

/-- A name in small letters that is no alias denotes the entry under it. -/
theorem resolve_of_find? {name : String} (hl : LetterCase.lower name = name)
    (ha : book.aliases.find? name = none) (hr : book.rules.find? name = some entry) :
    book.resolve name = .ok entry := by
  simp only [resolve, hl, ha, Option.getD_none, hr]

/-- A rule is found under its own name. -/
theorem resolve_name (kind : RuleKind) : standard.resolve kind.name = .ok (.ofKind kind) := by
  refine resolve_of_find? kind.lower_name ?_ ?_
  · rw [standard,find?_aliases_foldl]
    rfl
  · rw [standard,find?_rules_foldl,if_pos kind.mem_all]

/-! ## Making rules -/

/-- A rule is made from its own name and its arguments. -/
theorem create_arguments (rule : Rule) :
    standard.create rule.kind.name rule.arguments = .ok rule := by
  have hb := rule.build?_arguments
  rw [create,resolve_name]
  simp only [bind, Except.bind, RuleEntry.instantiate, RuleEntry.ofKind, hb]

/-- A rule that is built from arguments has these arguments. -/
theorem arguments_of_build? {arguments : List Argument} {rule : Rule}
    (h : kind.build? arguments = some rule) : rule.arguments = arguments := by
  fun_cases RuleKind.build? kind arguments with
  | case17 kind arguments =>
    rw [RuleKind.build?] at h
    · cases h
    all_goals assumption
  | _ =>
    cases h
    rfl

/-- A rule that is made from arguments has these arguments. -/
theorem arguments_of_create {name : String} {arguments : List Argument} {rule : Rule}
    (h : book.create name arguments = .ok rule) : rule.arguments = arguments := by
  rw [create] at h
  cases hr : book.resolve name with
  | error cause =>
    rw [hr] at h
    cases h
  | ok entry =>
    rw [hr] at h
    simp only [bind, Except.bind, RuleEntry.instantiate] at h
    split at h
    · next made hb =>
      cases h
      exact arguments_of_build? hb
    · split at h
      · split at h <;> cases h
      · cases h

end Rulebook

end BoxedDeduction
