import Mathlib.Data.List.Nodup
import BoxedDeduction.Proofs.Rule.Rulebook

/-!
# Entering rules

A rulebook that rules are entered into finds what was entered last: under a name the last rule of
this name, under an alias the last rule of the name for which the alias was entered last. So a rule
is found under each of its aliases from the moment it is entered, and its name is listed once.
Under its name it is found unless this name is an alias that was last entered for another name,
since an alias is looked up before a name and a new name takes nothing from the aliases.
-/

namespace BoxedDeduction

namespace RuleEntry

/-- Whether a text in small letters is the name of an entry. -/
def isNamed (key : String) (entry : RuleEntry) : Bool := LetterCase.lower entry.name == key

/-- The last one of some entries that has a property. -/
def latest? (property : RuleEntry → Bool) (history : List RuleEntry) : Option RuleEntry :=
  history.reverse.find? property

section Latest

variable {property : RuleEntry → Bool} {entry : RuleEntry} {history : List RuleEntry}

/-- The last entry with a property is among the later ones, or else the first one. -/
theorem latest?_cons (property : RuleEntry → Bool) (entry : RuleEntry) (later : List RuleEntry) :
    latest? property (entry :: later) =
      (latest? property later).or (if property entry then some entry else none) := by
  rw [latest?,List.reverse_cons,List.find?_append,List.find?_cons]
  cases property entry <;> rfl

/-- An entry with the property that is made last is the last one. -/
theorem latest?_concat (h : property entry = true) :
    latest? property (history ++ [entry]) = some entry := by
  rw [latest?,List.reverse_append,List.reverse_singleton,List.singleton_append,
    List.find?_cons_of_pos h]

/-- The last entry with a property has it. -/
theorem of_latest? (h : latest? property history = some entry) : property entry = true :=
  List.find?_some h

/-- The last entry with a property was made. -/
theorem mem_of_latest? (h : latest? property history = some entry) : entry ∈ history :=
  List.mem_reverse.mp (List.mem_of_find?_eq_some h)

/-- Where an entry has the property there is a last one. -/
theorem exists_latest? (hm : entry ∈ history) (hp : property entry = true) :
    ∃ last, latest? property history = some last := by
  refine Option.isSome_iff_exists.mp ?_
  rw [latest?,List.find?_isSome]
  exact ⟨entry, List.mem_reverse.mpr hm, hp⟩

/-- Every entry has its own name. -/
theorem isNamed_self (entry : RuleEntry) : entry.isNamed (LetterCase.lower entry.name) = true :=
  beq_self_eq_true _

/-- Every entry is known by each of its aliases. -/
theorem isKnownAs_alias {also : String} (h : also ∈ entry.aliases) :
    entry.isKnownAs (LetterCase.lower also) = true :=
  List.any_eq_true.mpr ⟨also, h, beq_self_eq_true _⟩

end Latest

end RuleEntry

namespace Rulebook

open RuleEntry

/-! ## The two lists -/

section Lists

variable {key text : String}

/-- Under a name stands the last entry of this name. -/
theorem find?_rules_entries (key : String) (entries : List RuleEntry) (book : Rulebook) :
    (entries.foldl register book).rules.find? key =
      (latest? (isNamed key) entries).or (book.rules.find? key) := by
  induction entries generalizing book with
  | nil => rfl
  | cons first rest ih =>
    rw [List.foldl_cons,ih,find?_rules_register,latest?_cons,Option.or_assoc,isNamed]
    by_cases hf : LetterCase.lower first.name = key
    · rw [if_pos hf,beq_iff_eq.mpr hf,if_pos rfl,Option.some_or]
    · rw [if_neg hf,beq_eq_false_iff_ne.mpr hf,if_neg Bool.false_ne_true,Option.none_or]

/-- Under an alias stands the name of the last entry with this alias. -/
theorem find?_aliases_entries (key : String) (entries : List RuleEntry) (book : Rulebook) :
    (entries.foldl register book).aliases.find? key =
      ((latest? (isKnownAs key) entries).map fun entry => LetterCase.lower entry.name).or
        (book.aliases.find? key) := by
  induction entries generalizing book with
  | nil => rfl
  | cons first rest ih =>
    rw [List.foldl_cons,ih,find?_aliases_register,latest?_cons,Option.map_or,Option.or_assoc]
    cases first.isKnownAs key with
    | true => rw [if_pos rfl,if_pos rfl,Option.map_some,Option.some_or]
    | false =>
      rw [if_neg Bool.false_ne_true,if_neg Bool.false_ne_true,Option.map_none,Option.none_or]

/-- The aliases of a built-in rule are known as they are written. -/
theorem isKnownAs_ofKind (kind : RuleKind) (key : String) :
    (ofKind kind).isKnownAs key = kind.aliases.contains key := by
  have ha : ∀ also ∈ kind.aliases, LetterCase.lower also = also := fun _ => RuleKind.lower_alias
  rw [isKnownAs,ofKind,Bool.eq_iff_iff,List.any_eq_true,List.contains_iff_mem]
  constructor
  · rintro ⟨also, hm, he⟩
    rw [ha also hm,beq_iff_eq] at he
    exact he ▸ hm
  · intro hm
    exact ⟨key, hm, beq_iff_eq.mpr (ha key hm)⟩

/-- An alias in the built-in rulebook denotes the last rule that has it. -/
theorem find?_aliases_standard (key : String) : standard.aliases.find? key =
    (RuleKind.all.reverse.find? fun kind => kind.aliases.contains key).map RuleKind.name := by
  have hk : isKnownAs key ∘ ofKind = fun kind => kind.aliases.contains key :=
    funext fun kind => isKnownAs_ofKind kind key
  have hn : (fun entry => LetterCase.lower entry.name) ∘ ofKind = RuleKind.name :=
    funext RuleKind.lower_name
  rw [standard,find?_aliases_entries,latest?,← List.map_reverse,List.find?_map,hk,Option.map_map,
    hn]
  exact Option.or_none

/-- The name in small letters that a text in small letters stands for after some entries. -/
def target (history : List RuleEntry) (key : String) : String :=
  ((latest? (isKnownAs key) history).map fun entry => LetterCase.lower entry.name).getD key

/-- A text denotes the last entry of the name that it stands for. -/
theorem resolve_entries (history : List RuleEntry) (text : String) :
    (history.foldl register empty).resolve text =
      (latest? (isNamed (target history (LetterCase.lower text))) history).elim
        (.error (.unknown text)) .ok := by
  have hr : empty.rules = [] := rfl
  have ha : empty.aliases = [] := rfl
  simp only [resolve, find?_rules_entries, find?_aliases_entries, hr, ha, KeyedList.find?,
    Option.or_none]
  rw [← target]
  cases latest? (isNamed (target history (LetterCase.lower text))) history <;> rfl

/-- A text that stands for the name of a rule that was entered denotes the last one of this name. -/
theorem exists_resolve_of_target {history : List RuleEntry} {other : RuleEntry}
    (hm : other ∈ history)
    (ht : target history (LetterCase.lower text) = LetterCase.lower other.name) :
    ∃ last, latest? (isNamed (LetterCase.lower other.name)) history = some last ∧
      (history.foldl register empty).resolve text = .ok last := by
  obtain ⟨last, hl⟩ := exists_latest? hm other.isNamed_self
  refine ⟨last, hl, ?_⟩
  rw [resolve_entries,ht,hl,Option.elim_some]

end Lists

/-! ## The list of names -/

section Names

variable {book : Rulebook} {entry : RuleEntry}

/-- A new name is listed behind the others, and a known one keeps its place. -/
theorem names_register (book : Rulebook) (entry : RuleEntry) :
    (book.register entry).names =
      if LetterCase.lower entry.name ∈ book.names then book.names
      else book.names ++ [LetterCase.lower entry.name] :=
  KeyedList.map_fst_insert _ _ _

/-- The name of a rule is listed after it is entered. -/
theorem mem_names_register (book : Rulebook) (entry : RuleEntry) :
    LetterCase.lower entry.name ∈ (book.register entry).names := by
  rw [names_register]
  split
  · assumption
  · exact List.mem_concat_self

/-- Entering a rule lists no name twice. -/
theorem nodup_names_register (h : book.names.Nodup) (entry : RuleEntry) :
    (book.register entry).names.Nodup := by
  rw [names_register]
  split
  · exact h
  · next hm =>
    rw [← List.concat_eq_append]
    exact List.Nodup.concat hm h

/-- However many rules are entered, no name is listed twice. -/
theorem nodup_names_entries (h : book.names.Nodup) (entries : List RuleEntry) :
    (entries.foldl register book).names.Nodup := by
  induction entries generalizing book with
  | nil => exact h
  | cons first rest ih => exact ih (nodup_names_register h first)

end Names

/-! ## What is found of the last entry -/

/-- Whether a name is an alias that was last entered for a rule of another name. -/
def IsHidden (history : List RuleEntry) (name : String) : Prop :=
  ∃ other, latest? (isKnownAs (LetterCase.lower name)) history = some other ∧
    LetterCase.lower other.name ≠ LetterCase.lower name

/-- What a rulebook shows of an entry, the last one of a history. -/
structure Shows (book : Rulebook) (history : List RuleEntry) (entry : RuleEntry) : Prop where
  /-- Each of its aliases denotes it, in capital and small letters. -/
  byAlias : ∀ also ∈ entry.aliases, ∀ text, LetterCase.lower text = LetterCase.lower also →
    book.resolve text = .ok entry
  /-- Its name denotes it, in capital and small letters, exactly when it is not hidden. -/
  byName : ∀ text, LetterCase.lower text = LetterCase.lower entry.name →
    (book.resolve text = .ok entry ↔ ¬ IsHidden history entry.name)
  /-- A name that is an alias denotes the last rule of the name that it was last entered for. -/
  asAlias : ∀ text other, LetterCase.lower text = LetterCase.lower entry.name →
    latest? (isKnownAs (LetterCase.lower entry.name)) history = some other →
      ∃ last, latest? (isNamed (LetterCase.lower other.name)) history = some last ∧
        book.resolve text = .ok last
  /-- Its name in small letters is listed once. -/
  listed : book.names.count (LetterCase.lower entry.name) = 1

section Last

variable {history : List RuleEntry} {entry : RuleEntry} {text : String}

/-- A text that stands for the name of the last entry denotes this entry. -/
theorem resolve_concat (ht : target (history ++ [entry]) (LetterCase.lower text) =
      LetterCase.lower entry.name) :
    ((history ++ [entry]).foldl register empty).resolve text = .ok entry := by
  rw [resolve_entries,ht,latest?_concat entry.isNamed_self,Option.elim_some]

/-- Each alias of the last entry stands for its name. -/
theorem target_alias {also : String} (h : also ∈ entry.aliases) :
    target (history ++ [entry]) (LetterCase.lower also) = LetterCase.lower entry.name := by
  rw [target,latest?_concat (isKnownAs_alias h),Option.map_some,Option.getD_some]

/-- A name that is not hidden stands for itself. -/
theorem target_of_not_hidden {name : String} (h : ¬ IsHidden history name) :
    target history (LetterCase.lower name) = LetterCase.lower name := by
  rw [target]
  cases hl : latest? (isKnownAs (LetterCase.lower name)) history with
  | none => rfl
  | some other => exact Decidable.of_not_not fun hne => h ⟨other, hl, hne⟩

/-- A name that was entered as an alias stands for the name of the last rule with this alias. -/
theorem target_of_latest? {key : String} {other : RuleEntry}
    (h : latest? (isKnownAs key) history = some other) :
    target history key = LetterCase.lower other.name := by
  rw [target,h,Option.map_some,Option.getD_some]

/-- A name that is hidden does not denote the last entry. -/
theorem resolve_ne_of_hidden (hn : LetterCase.lower text = LetterCase.lower entry.name)
    (hh : IsHidden history entry.name) :
    (history.foldl register empty).resolve text ≠ .ok entry := by
  obtain ⟨other, hl, hne⟩ := hh
  have ht : target history (LetterCase.lower text) = LetterCase.lower other.name := by
    rw [hn]
    exact target_of_latest? hl
  obtain ⟨last, hlast, hr⟩ := exists_resolve_of_target (mem_of_latest? hl) ht
  rw [hr]
  rintro ⟨⟩
  have hname := of_latest? hlast
  rw [isNamed,beq_iff_eq] at hname
  exact hne hname.symm

/-- A name that is an alias denotes the entry under the name that the alias stands for. -/
theorem resolve_of_alias {book : Rulebook} {name : String}
    (ha : book.aliases.find? (LetterCase.lower text) = some name)
    (hr : book.rules.find? name = some entry) : book.resolve text = .ok entry := by
  simp only [resolve, ha, Option.getD_some, hr]

/-- An entry under a name that is an alias of a built-in rule leaves this rule there. -/
theorem resolve_register_of_alias {kind : RuleKind}
    (hk : entry.isKnownAs (LetterCase.lower entry.name) = false)
    (ha : standard.aliases.find? (LetterCase.lower entry.name) = some kind.name)
    (hn : LetterCase.lower entry.name ≠ kind.name) :
    (standard.register entry).resolve entry.name = .ok (.ofKind kind) := by
  have halias : (standard.register entry).aliases.find? (LetterCase.lower entry.name) =
      some kind.name := by
    rw [find?_aliases_register,hk,if_neg Bool.false_ne_true,ha]
  have hname : (standard.register entry).rules.find? kind.name = some (.ofKind kind) := by
    rw [find?_rules_register,if_neg hn,standard,find?_rules_foldl,if_pos kind.mem_all]
  exact resolve_of_alias halias hname

/-- A rule that is entered last, after any others and the sixteen rules, is found under its aliases,
and under its name unless this is an alias of a rule with another name. It is listed once. -/
theorem shows_registered (entries : List RuleEntry) (entry : RuleEntry) :
    Shows ((entries.foldl register standard).register entry)
      (RuleKind.all.map ofKind ++ entries ++ [entry]) entry := by
  have hb : (entries.foldl register standard).register entry =
      (RuleKind.all.map ofKind ++ entries ++ [entry]).foldl register empty := by
    rw [List.foldl_append,List.foldl_append,List.foldl_cons,List.foldl_nil,standard]
  have hnone : empty.names.Nodup := List.nodup_nil
  refine ⟨?_, ?_, ?_, ?_⟩
  · intro also hm text ht
    rw [hb]
    refine resolve_concat ?_
    rw [ht]
    exact target_alias hm
  · intro text ht
    rw [hb]
    constructor
    · exact fun hr hh => resolve_ne_of_hidden ht hh hr
    · intro hh
      refine resolve_concat ?_
      rw [ht]
      exact target_of_not_hidden hh
  · intro text other ht hl
    rw [hb]
    refine exists_resolve_of_target (mem_of_latest? hl) ?_
    rw [ht]
    exact target_of_latest? hl
  · refine List.count_eq_one_of_mem ?_ (mem_names_register _ entry)
    rw [hb]
    exact nodup_names_entries hnone _

/-- A rule that is entered under an alias of a built-in rule is not found under its own name. -/
theorem resolve_name_under_alias :
    let entry : RuleEntry := ⟨.negE, "mt", []⟩
    (standard.register entry).resolve entry.name = .ok (.ofKind .modusTollens) ∧
      RuleEntry.ofKind .modusTollens ≠ entry := by
  intro entry
  have hs : entry.name.toList.all LetterCase.isSmall = true := by decide
  have hl : LetterCase.lower entry.name = "mt" :=
    LetterCase.lower_of_isSmall (List.all_eq_true.mp hs)
  have ha : standard.aliases.find? "mt" = some (RuleKind.name .modusTollens) := by
    rw [find?_aliases_standard]
    rfl
  refine ⟨resolve_register_of_alias rfl ?_ ?_, by decide⟩
  · exact hl.symm ▸ ha
  · rw [hl]
    decide

end Last

end Rulebook

end BoxedDeduction
