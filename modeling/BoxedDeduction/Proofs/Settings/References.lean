import Mathlib.Data.List.Forall2
import BoxedDeduction.Settings.Expansion

/-!
# References in settings

A text in which literals without dollar signs alternate with references is loaded with the value of
each variable in the place of the reference to it. What is put in may look like a reference and is
not replaced again. Lists keep their lengths, objects their keys and the order of them, and values
other than texts stay as they are. A file that holds nothing that counts as true is loaded as the
object without fields.
-/

namespace BoxedDeduction

/-! ## Texts with references -/

namespace EnvReference

/-- The characters with which the name of a variable may begin. -/
def starts : List Char := "ABCDEFGHIJKLMNOPQRSTUVWXYZabcdefghijklmnopqrstuvwxyz_".toList

/-- The characters that may follow in the name of a variable. -/
def letters : List Char := starts ++ "0123456789".toList

/-- Each of these characters begins a name. -/
theorem isStart_of_mem {c : Char} (h : c ∈ starts) : isStart c = true := by
  have hall : starts.all isStart = true := by decide
  exact List.all_eq_true.mp hall c h

/-- Each of these characters continues a name. -/
theorem isLetter_of_mem {c : Char} (h : c ∈ letters) : isLetter c = true := by
  have hall : letters.all isLetter = true := by decide
  exact List.all_eq_true.mp hall c h

end EnvReference

/-- A reference to a variable as it is written. -/
structure WrittenReference where
  /-- The first character of the name. -/
  first : Char
  /-- The other characters of the name. -/
  others : List Char
  /-- The default, if one is written. -/
  default? : Option String
  /-- The first character may begin a name. -/
  first_mem : first ∈ EnvReference.starts
  /-- The others may follow in a name. -/
  others_mem : ∀ c ∈ others, c ∈ EnvReference.letters
  /-- The default does not hold the end of the reference. -/
  braceFree : ∀ text, default? = some text → '\x7d' ∉ text.toList

/-- A text without dollar signs. -/
structure Literal where
  /-- The text. -/
  text : String
  /-- It holds no dollar sign. -/
  dollarFree : '$' ∉ text.toList

/-- A literal, and any number of references with a literal behind each. -/
structure SettingTemplate where
  /-- The literal in front. -/
  front : Literal
  /-- The references and the literals behind them. -/
  pieces : List (WrittenReference × Literal)

namespace WrittenReference

/-- The name of the variable. -/
def name (reference : WrittenReference) : String :=
  String.ofList (reference.first :: reference.others)

/-- What stands between the name and the end of the reference. -/
def suffix (reference : WrittenReference) : String :=
  match reference.default? with
  | some text => ":" ++ text
  | none => ""

/-- The reference in text. -/
def written (reference : WrittenReference) : String :=
  "$\x7b" ++ reference.name ++ reference.suffix ++ "\x7d"

/-- What the environment has for the variable, or else the default, or else nothing. -/
def value (environment : Environment) (reference : WrittenReference) : String :=
  match environment.find? reference.name with
  | some text => text
  | none => reference.default?.getD ""

end WrittenReference

namespace SettingTemplate

/-- The template in text. -/
def written (template : SettingTemplate) : String :=
  template.front.text ++
    String.join (template.pieces.map fun (reference, literal) => reference.written ++ literal.text)

/-- The text in which each reference has given way to its value. -/
def value (environment : Environment) (template : SettingTemplate) : String :=
  template.front.text ++
    String.join (template.pieces.map fun (reference, literal) =>
      reference.value environment ++ literal.text)

end SettingTemplate

/-! ## One pass -/

section Pass

variable {environment : Environment}

/-- A reference is read up to its end, whatever stands behind it. -/
theorem read?_written (reference : WrittenReference) (after : List Char) :
    EnvReference.read? (reference.name.toList ++ (reference.suffix.toList ++ '\x7d' :: after)) =
      some (⟨reference.name, reference.default?.getD ""⟩, after) := by
  obtain ⟨first, others, default?, hf, ho, hb⟩ := reference
  have hn : WrittenReference.name ⟨first, others, default?, hf, ho, hb⟩ =
    String.ofList (first :: others) := rfl
  have hl : ∀ c ∈ others, EnvReference.isLetter c = true := fun c hc =>
    EnvReference.isLetter_of_mem (ho c hc)
  rw [hn,String.toList_ofList,List.cons_append,EnvReference.read?,
    if_pos (EnvReference.isStart_of_mem hf),List.takeWhile_append_of_pos hl,
    List.dropWhile_append_of_pos hl]
  cases default? with
  | none =>
    have hs : WrittenReference.suffix ⟨first, others, none, hf, ho, hb⟩ = "" := rfl
    have hq : EnvReference.isLetter '\x7d' ≠ true := by decide
    rw [hs,String.toList_empty,List.nil_append,List.dropWhile_cons_of_neg hq,
      List.takeWhile_cons_of_neg hq,List.append_nil]
    rfl
  | some text =>
    have hs : WrittenReference.suffix ⟨first, others, some text, hf, ho, hb⟩ = ":" ++ text := rfl
    have hc : (":" ++ text).toList = ':' :: text.toList := by
      rw [String.toList_append]
      rfl
    have hq : EnvReference.isLetter ':' ≠ true := by decide
    have hd : ∀ c ∈ text.toList, decide (c ≠ '\x7d') = true := by
      intro c hc
      refine decide_eq_true ?_
      rintro rfl
      exact hb text rfl hc
    have he : ('\x7d' :: after).dropWhile (fun c => decide (c ≠ '\x7d')) = '\x7d' :: after := rfl
    have ht : ('\x7d' :: after).takeWhile (fun c => decide (c ≠ '\x7d')) = [] := rfl
    rw [hs,hc,List.cons_append,List.dropWhile_cons_of_neg hq,List.takeWhile_cons_of_neg hq,
      List.append_nil]
    simp only [List.dropWhile_append_of_pos hd, List.takeWhile_append_of_pos hd, he, ht,
      List.append_nil, String.ofList_toList, Option.getD_some]

/-- A literal stays as it is. -/
theorem expandLetters_literal (literal : Literal) (rest : List Char) :
    expandLetters environment (literal.text.toList ++ rest) =
      literal.text.toList ++ expandLetters environment rest := by
  obtain ⟨text, hd⟩ := literal
  dsimp only
  generalize text.toList = cs at hd ⊢
  induction cs with
  | nil => rfl
  | cons c tail ih =>
    have hc : c ≠ '$' := fun hc => hd (hc ▸ List.mem_cons_self)
    rw [List.cons_append,expandLetters,ih (fun hm => hd (List.mem_cons_of_mem _ hm)),
      List.cons_append]
    exact fun _ hq _ => hc hq

/-- A reference gives way to its value, and the pass goes on behind it. -/
theorem expandLetters_written (reference : WrittenReference) (rest : List Char) :
    expandLetters environment (reference.written.toList ++ rest) =
      (reference.value environment).toList ++ expandLetters environment rest := by
  have hw : reference.written.toList ++ rest = '$' :: '\x7b' ::
      (reference.name.toList ++ (reference.suffix.toList ++ '\x7d' :: rest)) := by
    rw [WrittenReference.written,String.toList_append,String.toList_append,String.toList_append,
      List.append_assoc,List.append_assoc,List.append_assoc]
    rfl
  have hv : EnvReference.value environment ⟨reference.name, reference.default?.getD ""⟩ =
      reference.value environment := by
    rw [EnvReference.value,WrittenReference.value]
    cases environment.find? reference.name <;> rfl
  rw [hw,expandLetters]
  split
  · next found after hr =>
    rw [read?_written] at hr
    cases hr
    rw [hv]
  · next hr =>
    rw [read?_written] at hr
    cases hr

/-- The references of a template are replaced in one pass, and nothing else is. -/
theorem expandText_written (environment : Environment) (template : SettingTemplate) :
    expandText environment template.written = template.value environment := by
  obtain ⟨front, pieces⟩ := template
  refine String.toList_inj.mp ?_
  rw [expandText,String.toList_ofList,SettingTemplate.written,SettingTemplate.value,
    String.toList_append,String.toList_append,expandLetters_literal]
  congr 1
  induction pieces with
  | nil =>
    rw [List.map_nil,List.map_nil]
    exact expandLetters.eq_1 environment
  | cons piece rest ih =>
    obtain ⟨reference, literal⟩ := piece
    rw [List.map_cons,List.map_cons,String.join_cons,String.join_cons,String.toList_append,
      String.toList_append,String.toList_append,String.toList_append,List.append_assoc,
      expandLetters_written,expandLetters_literal,ih,List.append_assoc]

end Pass

/-! ## Nested values -/

/-- What becomes of a value when the references in it are replaced. -/
inductive Expands (environment : Environment) : Value → Value → Prop
  /-- A text becomes the value of every template that it is. -/
  | text {before after : String} (h : ∀ template : SettingTemplate, template.written = before →
      after = template.value environment) : Expands environment (.text before) (.text after)
  /-- Another plain value stays as it is. -/
  | plain {value : PlainValue} (h : ∀ text, value ≠ .text text) :
      Expands environment (.plain value) (.plain value)
  /-- The items of a list become what they become each. -/
  | list {before after : List Value} (h : List.Forall₂ (Expands environment) before after) :
      Expands environment (.list before) (.list after)
  /-- The keys of an object stay as they are, and the values in its fields become what they become
  each. -/
  | object {before after : List (PlainValue × Value)}
      (hk : after.map Prod.fst = before.map Prod.fst)
      (hv : List.Forall₂ (Expands environment) (before.map Prod.snd) (after.map Prod.snd)) :
      Expands environment (.object before) (.object after)
  /-- A pair stays as it is. -/
  | pair {first second : Value} : Expands environment (.pair first second) (.pair first second)
  /-- A set stays as it is. -/
  | members {items : List PlainValue} : Expands environment (.members items) (.members items)
  /-- A value around its place stays as it is. -/
  | again {kind : HolderKind} : Expands environment (.again kind) (.again kind)

namespace Value

variable {environment : Environment}

/-- The keys of fields stay as they are. -/
theorem map_fst_expandFields (fields : List (PlainValue × Value)) :
    (expandFields environment fields).map Prod.fst = fields.map Prod.fst := by
  induction fields with
  | nil => rfl
  | cons field rest ih =>
    obtain ⟨key, value⟩ := field
    rw [expandFields,List.map_cons,List.map_cons,ih]

mutual

/-- The references in a value are replaced. -/
theorem expands_expand : ∀ value, Expands environment value (value.expand environment)
  | .plain (.text before) => by
    rw [expand]
    refine .text ?_
    rintro template rfl
    exact expandText_written environment template
  | .plain .null => .plain nofun
  | .plain (.bool _) => .plain nofun
  | .plain (.int _) => .plain nofun
  | .plain (.fraction _) => .plain nofun
  | .plain (.bytes _) => .plain nofun
  | .plain (.date _) => .plain nofun
  | .plain (.moment _) => .plain nofun
  | .list items => by
    rw [expand]
    exact .list (expands_expandItems items)
  | .object fields => by
    rw [expand]
    exact .object (map_fst_expandFields fields) (expands_expandFields fields)
  | .pair _ _ => .pair
  | .members _ => .members
  | .again _ => .again

/-- The references in the items of a list are replaced. -/
theorem expands_expandItems : ∀ items,
    List.Forall₂ (Expands environment) items (expandItems environment items)
  | [] => .nil
  | item :: rest => .cons (expands_expand item) (expands_expandItems rest)

/-- The references in the values in fields are replaced. -/
theorem expands_expandFields : ∀ fields : List (PlainValue × Value),
    List.Forall₂ (Expands environment) (fields.map Prod.snd)
      ((expandFields environment fields).map Prod.snd)
  | [] => .nil
  | (_, value) :: rest => .cons (expands_expand value) (expands_expandFields rest)

end

/-- Settings are loaded with the references in their texts replaced in one pass, and with nothing
else changed. What does not count as true is loaded as the object without fields. -/
theorem load_expands (environment : Environment) (stored : Value) :
    (stored.isTruthy = true ∧ Expands environment stored (stored.load environment)) ∨
      (stored.isTruthy = false ∧ stored.load environment = .object []) := by
  rw [load]
  cases stored.isTruthy with
  | true => exact Or.inl ⟨rfl, expands_expand stored⟩
  | false => exact Or.inr ⟨rfl, rfl⟩

/-- A list without items is not loaded as a list, but as the object without fields. -/
theorem not_expands_load_empty_list :
    load [] (.list []) = .object [] ∧ ¬Expands [] (.list []) (load [] (.list [])) := by
  have hl : load [] (.list []) = .object [] := rfl
  refine ⟨hl, ?_⟩
  intro he
  rw [hl] at he
  cases he

end Value

end BoxedDeduction
