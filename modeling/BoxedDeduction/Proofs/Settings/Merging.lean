import BoxedDeduction.Settings.Merge

/-!
# Merged settings

An update is merged into settings field by field, and what becomes of it is read by dotted names. A
name that leads the update to a value other than an object shows this value, and below it nothing
is found. A name that leads it to an object shows what the settings held there with that object
merged into it. A name that leaves the update at an object shows what it showed before. An update
fails exactly where it has fields for a value that is no object, and merging it once more changes
nothing.
-/

namespace BoxedDeduction

/-- Whether a plain value is a text. -/
def PlainValue.isText : PlainValue → Bool
  | .text _ => true
  | _ => false

namespace Value

/-! ## Objects with names -/

mutual

/-- Whether the keys of an object, and those of the objects in its fields, are texts and no key
stands twice. -/
def hasNames : Value → Bool
  | .object fields => fieldsHaveNames fields
  | _ => true

/-- Whether fields stand under different texts, and the objects in them have such fields too. -/
def fieldsHaveNames : List (PlainValue × Value) → Bool
  | [] => true
  | (key, value) :: rest =>
    key.isText && (KeyedList.find? key rest).isNone && hasNames value && fieldsHaveNames rest

end

mutual

/-- What holds of all values but objects, and of an object when it holds of the values in its
fields, holds of every value. -/
theorem objectInduction {motive : Value → Prop}
    (other : ∀ value, value.isObject = false → motive value)
    (object : ∀ fields, (∀ field ∈ fields, motive field.2) → motive (.object fields)) :
    ∀ value, motive value
  | .object fields => object fields (fieldsInduction other object fields)
  | .plain value => other (.plain value) rfl
  | .list items => other (.list items) rfl
  | .pair first second => other (.pair first second) rfl
  | .members items => other (.members items) rfl
  | .again kind => other (.again kind) rfl

/-- What holds of every value holds of the values in fields. -/
theorem fieldsInduction {motive : Value → Prop}
    (other : ∀ value, value.isObject = false → motive value)
    (object : ∀ fields, (∀ field ∈ fields, motive field.2) → motive (.object fields)) :
    ∀ fields : List (PlainValue × Value), ∀ field ∈ fields, motive field.2
  | [] => nofun
  | (key, value) :: rest => by
    intro field hf
    rcases List.mem_cons.mp hf with rfl | hf
    · exact objectInduction other object value
    · exact fieldsInduction other object rest field hf

end

section Names

variable {key : PlainValue} {value : Value} {rest fields : List (PlainValue × Value)}

/-- Fields with names are those with a new text in front of fields with names. -/
theorem fieldsHaveNames_cons : fieldsHaveNames ((key, value) :: rest) = true ↔
    key.isText = true ∧ KeyedList.find? key rest = none ∧ value.hasNames = true ∧
      fieldsHaveNames rest = true := by
  simp only [fieldsHaveNames, Bool.and_eq_true, Option.isNone_iff_eq_none, and_assoc]

/-- What is found in fields stands there. -/
theorem mem_of_find? (h : KeyedList.find? key fields = some value) : (key, value) ∈ fields := by
  induction fields with
  | nil => cases h
  | cons field later ih =>
    obtain ⟨first, old⟩ := field
    rw [KeyedList.find?] at h
    by_cases hf : first = key
    · rw [if_pos hf] at h
      cases h
      rw [hf]
      exact List.mem_cons_self
    · rw [if_neg hf] at h
      exact List.mem_cons_of_mem _ (ih h)

/-- A field with a name stands under a text, and its value has names. -/
theorem exists_name_of_find? (hn : fieldsHaveNames fields = true)
    (h : KeyedList.find? key fields = some value) :
    ∃ name, key = .text name ∧ value.hasNames = true := by
  have hm := mem_of_find? h
  clear h
  induction fields with
  | nil => cases hm
  | cons field later ih =>
    obtain ⟨first, old⟩ := field
    obtain ⟨ht, -, ho, hl⟩ := fieldsHaveNames_cons.mp hn
    rcases List.mem_cons.mp hm with he | hm
    · cases he
      cases key with
      | text name => exact ⟨name, rfl, ho⟩
      | _ => cases ht
    · exact ih hl hm

end Names

/-! ## Paths -/

section Paths

variable {value : Value} {key : String} {front back path : List String}

/-- The value in a field, if the value is an object with this field. -/
def field? (key : String) : Value → Option Value
  | .object fields => KeyedList.find? (.text key) fields
  | _ => none

/-- A path leads through the field under its first key. -/
theorem find?_cons (key : String) (path : List String) (value : Value) :
    value.find? (key :: path) = (value.field? key).bind (find? path) := by
  cases value <;> rfl

/-- A path is followed key by key. -/
theorem find?_append (front back : List String) (value : Value) :
    value.find? (front ++ back) = (value.find? front).bind (find? back) := by
  induction front generalizing value with
  | nil => rfl
  | cons key rest ih =>
    rw [List.cons_append,find?_cons,find?_cons,Option.bind_assoc]
    exact congrArg _ (funext ih)

/-- A value that is no object has no fields. -/
theorem field?_of_not_object (h : value.isObject = false) : value.field? key = none := by
  cases value with
  | object fields => cases h
  | _ => rfl

/-- A value with fields is an object. -/
theorem exists_object (h : value.isObject = true) : ∃ fields, value = .object fields := by
  cases value with
  | object fields => exact ⟨fields, rfl⟩
  | _ => cases h

/-- A path on which a field is found begins at an object that has the field under its first key. -/
theorem exists_field_of_find? {found : Value} (h : value.find? (key :: path) = some found) :
    ∃ fields inner, value = .object fields ∧ KeyedList.find? (.text key) fields = some inner ∧
      inner.find? path = some found := by
  rw [find?_cons] at h
  obtain ⟨inner, hf, hi⟩ := Option.bind_eq_some_iff.mp h
  cases value with
  | object fields => exact ⟨fields, inner, rfl, hf, hi⟩
  | _ => cases hf

/-- Whether keys make up a dotted name from which they are read again. -/
structure IsNamePath (keys : List String) : Prop where
  /-- There is a key. -/
  ne_nil : keys ≠ []
  /-- No key holds a dot. -/
  dotFree : ∀ key ∈ keys, '.' ∉ key.toList

/-- The dotted name of a path. -/
def dotted (keys : List String) : String := ".".intercalate keys

/-- A dotted name is cut into its keys. -/
theorem keysOf_dotted (h : IsNamePath path) : keysOf (dotted path) = path := by
  have hd : ∀ letters ∈ path.map String.toList, '.' ∉ letters := by
    intro letters hl
    obtain ⟨key, hk, rfl⟩ := List.mem_map.mp hl
    exact h.dotFree key hk
  have hl : (dotted path).toList = ['.'].intercalate (path.map String.toList) :=
    String.toList_intercalate
  have hn : path.map String.toList ≠ [] := fun he => h.ne_nil (List.map_eq_nil_iff.mp he)
  rw [keysOf,hl,List.splitOn_intercalate '.' hd hn,List.map_map]
  exact (List.map_congr_left fun _ _ => String.ofList_toList).trans (List.map_id path)

/-- A dotted name shows what its path leads to. -/
theorem get_dotted (h : IsNamePath path) (settings default : Value) :
    settings.get (dotted path) default = (settings.find? path).getD default := by
  rw [get,keysOf_dotted h]

end Paths

/-! ## One field after the other -/

section Merging

variable {key : PlainValue} {update target merged : Value} {old : Option Value}
  {fields rest updates : List (PlainValue × Value)} {cause : MergeError}

/-- A value other than an object replaces what was there. -/
theorem mergeOver_of_not_object (h : update.isObject = false) :
    mergeOver old update = (update, none) := by
  cases update with
  | object updates => cases h
  | _ => rfl

/-- An object is merged into what was there, or into a new object. -/
theorem mergeOver_object :
    mergeOver old (.object updates) = mergeFields (old.getD (.object [])) updates := by
  rw [mergeOver]

/-- A field that was merged is put in its place before the next one. -/
theorem mergeFields_cons_of_merged
    (h : mergeOver (KeyedList.find? key fields) update = (merged, none)) :
    mergeFields (.object fields) ((key, update) :: rest) =
      mergeFields (.object (KeyedList.insert key merged fields)) rest := by
  rw [mergeFields,h]

/-- A known field that cannot be merged is the last one, and keeps what was merged into it. -/
theorem mergeFields_cons_of_failed {before : Value}
    (hb : KeyedList.find? key fields = some before)
    (h : mergeOver (some before) update = (merged, some cause)) :
    mergeFields (.object fields) ((key, update) :: rest) =
      (.object (KeyedList.insert key merged fields), some cause) := by
  rw [mergeFields,hb,h]

/-- A new field that cannot be merged is the last one, and is not kept. -/
theorem mergeFields_cons_of_refused (hb : KeyedList.find? key fields = none)
    (h : mergeOver none update = (merged, some cause)) :
    mergeFields (.object fields) ((key, update) :: rest) = (.object fields, some cause) := by
  rw [mergeFields,hb,h]

/-- A field that cannot be merged is the last one, and leaves the other fields as they were. -/
theorem mergeFields_cons_of_error
    (h : mergeOver (KeyedList.find? key fields) update = (merged, some cause)) :
    ∃ after, mergeFields (.object fields) ((key, update) :: rest) = (.object after, some cause) ∧
      ∀ other, key ≠ other → KeyedList.find? other after = KeyedList.find? other fields := by
  cases hb : KeyedList.find? key fields with
  | none =>
    rw [hb] at h
    exact ⟨fields, mergeFields_cons_of_refused hb h, fun _ _ => rfl⟩
  | some before =>
    rw [hb] at h
    refine ⟨_, mergeFields_cons_of_failed hb h, fun other ho => ?_⟩
    rw [KeyedList.find?_insert,if_neg ho]

/-- No field is merged into a value that is no object, which stays as it was. -/
theorem mergeFields_of_not_object (ht : target.isObject = false) (hu : updates ≠ []) :
    ∃ cause, mergeFields target updates = (target, some cause) := by
  cases updates with
  | nil => exact absurd rfl hu
  | cons field later =>
    cases target with
    | object fields => cases ht
    | _ => exact ⟨_, rfl⟩

/-- A field that the update does not have stays as it was, whether the update fails or not. -/
theorem find?_mergeFields_of_none (fields : List (PlainValue × Value))
    (h : KeyedList.find? key updates = none) :
    ∃ after, (mergeFields (.object fields) updates).1 = .object after ∧
      KeyedList.find? key after = KeyedList.find? key fields := by
  induction updates generalizing fields with
  | nil => exact ⟨fields, rfl, rfl⟩
  | cons field later ih =>
    obtain ⟨first, update⟩ := field
    rw [KeyedList.find?] at h
    by_cases hf : first = key
    · rw [if_pos hf] at h
      cases h
    rw [if_neg hf] at h
    rcases hm : mergeOver (KeyedList.find? first fields) update with ⟨merged, _ | cause⟩
    · rw [mergeFields_cons_of_merged hm]
      obtain ⟨after, ha, hk⟩ := ih (KeyedList.insert first merged fields) h
      rw [KeyedList.find?_insert,if_neg hf] at hk
      exact ⟨after, ha, hk⟩
    · obtain ⟨after, he, hkept⟩ := mergeFields_cons_of_error hm
      rw [he]
      exact ⟨after, rfl, hkept key hf⟩

/-- What becomes of each field when no field fails: a field of the update is merged over what was
there, and the others stay. -/
theorem find?_mergeFields (hn : fieldsHaveNames updates = true)
    (hs : (mergeFields (.object fields) updates).2 = none) :
    ∃ after, (mergeFields (.object fields) updates).1 = .object after ∧
      ∀ key, KeyedList.find? key after =
          ((KeyedList.find? key updates).map fun update =>
            (mergeOver (KeyedList.find? key fields) update).1).or (KeyedList.find? key fields) ∧
        ∀ update, KeyedList.find? key updates = some update →
          (mergeOver (KeyedList.find? key fields) update).2 = none := by
  induction updates generalizing fields with
  | nil => exact ⟨fields, rfl, fun key => ⟨rfl, nofun⟩⟩
  | cons field later ih =>
    obtain ⟨first, update⟩ := field
    obtain ⟨-, hd, -, hl⟩ := fieldsHaveNames_cons.mp hn
    rcases hm : mergeOver (KeyedList.find? first fields) update with ⟨merged, _ | cause⟩
    · rw [mergeFields_cons_of_merged hm] at hs ⊢
      obtain ⟨after, ha, hall⟩ := ih hl hs
      refine ⟨after, ha, fun key => ?_⟩
      obtain ⟨hk, hr⟩ := hall key
      rw [KeyedList.find?_insert] at hk hr
      rw [KeyedList.find?]
      by_cases hf : first = key
      · -- The first field is not merged a second time.
        subst hf
        rw [hd,if_pos rfl] at hk
        rw [if_pos rfl]
        refine ⟨hk.trans ?_, ?_⟩
        · rw [Option.map_some,hm]
          rfl
        · intro other ho
          cases ho
          rw [hm]
      · rw [if_neg hf] at hk hr ⊢
        exact ⟨hk, hr⟩
    · obtain ⟨after, he, -⟩ := mergeFields_cons_of_error hm
      rw [he] at hs
      cases hs

/-- When fields fail to be merged into an object, one of them fails by itself. -/
theorem exists_failing_field (hn : fieldsHaveNames updates = true)
    (hs : (mergeFields (.object fields) updates).2 ≠ none) :
    ∃ key update, KeyedList.find? key updates = some update ∧
      (mergeOver (KeyedList.find? key fields) update).2 ≠ none := by
  induction updates generalizing fields with
  | nil => exact absurd rfl hs
  | cons field later ih =>
    obtain ⟨first, update⟩ := field
    obtain ⟨-, hd, -, hl⟩ := fieldsHaveNames_cons.mp hn
    rcases hm : mergeOver (KeyedList.find? first fields) update with ⟨merged, _ | cause⟩
    · rw [mergeFields_cons_of_merged hm] at hs
      obtain ⟨key, other, hf, hne⟩ := ih hl hs
      have hk : first ≠ key := by
        rintro rfl
        rw [hd] at hf
        cases hf
      rw [KeyedList.find?_insert,if_neg hk] at hne
      exact ⟨key, other, by rw [KeyedList.find?,if_neg hk,hf], hne⟩
    · refine ⟨first, update, by rw [KeyedList.find?,if_pos rfl], ?_⟩
      rw [hm]
      exact Option.some_ne_none cause

/-! ## One object into another -/

/-- Fields are merged into the object that was there, into a new one, or over another value. -/
theorem target_cases (old : Option Value) :
    (∃ fields, old.getD (.object []) = .object fields ∧
      ∀ key, KeyedList.find? (.text key) fields = old.bind (field? key)) ∨
    ∃ value, old = some value ∧ value.isObject = false := by
  cases old with
  | none => exact Or.inl ⟨[], rfl, fun _ => rfl⟩
  | some value =>
    cases ho : value.isObject with
    | false => exact Or.inr ⟨value, rfl, ho⟩
    | true =>
      obtain ⟨fields, rfl⟩ := exists_object ho
      exact Or.inl ⟨fields, rfl, fun _ => rfl⟩

/-- An object that was merged shows in each field what became of it, and no field failed. -/
theorem field?_mergeOver (hn : fieldsHaveNames updates = true)
    (hs : (mergeOver old (.object updates)).2 = none) (key : String) :
    (mergeOver old (.object updates)).1.field? key =
        ((KeyedList.find? (.text key) updates).map fun update =>
          (mergeOver (old.bind (field? key)) update).1).or (old.bind (field? key)) ∧
      ∀ update, KeyedList.find? (.text key) updates = some update →
        (mergeOver (old.bind (field? key)) update).2 = none := by
  rw [mergeOver_object] at hs ⊢
  rcases target_cases old with ⟨fields, ht, hf⟩ | ⟨value, rfl, hv⟩
  · rw [ht] at hs ⊢
    obtain ⟨after, ha, hall⟩ := find?_mergeFields hn hs
    rw [ha,← hf key]
    exact hall (.text key)
  · -- Only an object without fields is merged over a value that is no object.
    by_cases hu : updates = []
    · subst hu
      refine ⟨?_, nofun⟩
      rw [mergeFields]
      rfl
    · obtain ⟨cause, he⟩ := mergeFields_of_not_object hv hu
      rw [Option.getD_some,he] at hs
      cases hs

end Merging

/-! ## Along a path -/

section Along

variable {update : Value} {old : Option Value}

/-- What a path finds in a value with names has names. -/
theorem hasNames_of_find? {value found : Value} {path : List String}
    (hn : value.hasNames = true) (hf : value.find? path = some found) : found.hasNames = true := by
  induction path generalizing value with
  | nil =>
    cases hf
    exact hn
  | cons key rest ih =>
    obtain ⟨fields, inner, rfl, hi, hr⟩ := exists_field_of_find? hf
    rw [hasNames] at hn
    obtain ⟨-, -, hni⟩ := exists_name_of_find? hn hi
    exact ih hni hr

/-- Where a path leads in an update that was merged, what the path leads to in the update is merged
over what it led to before, and does not fail. -/
theorem find?_mergeOver {found : Value} {path : List String} (hn : update.hasNames = true)
    (hs : (mergeOver old update).2 = none) (hf : update.find? path = some found) :
    (mergeOver old update).1.find? path = some (mergeOver (old.bind (find? path)) found).1 ∧
      (mergeOver (old.bind (find? path)) found).2 = none := by
  induction path generalizing old update with
  | nil =>
    cases hf
    have ho : old.bind (find? []) = old := by cases old <;> rfl
    rw [ho]
    exact ⟨rfl, hs⟩
  | cons key rest ih =>
    obtain ⟨fields, inner, rfl, hi, hr⟩ := exists_field_of_find? hf
    rw [hasNames] at hn
    obtain ⟨-, -, hni⟩ := exists_name_of_find? hn hi
    obtain ⟨hk, hall⟩ := field?_mergeOver hn hs key
    have hb : old.bind (find? (key :: rest)) = (old.bind (field? key)).bind (find? rest) := by
      rw [Option.bind_assoc]
      exact congrArg _ (funext (find?_cons key rest))
    rw [hi,Option.map_some,Option.some_or] at hk
    rw [find?_cons,hk,hb]
    exact ih hni (hall inner hi) hr

/-- An update fails to be merged over a value exactly when a path leads it to an object with fields
and the value to one that is no object. -/
theorem mergeOver_fails_iff (old : Option Value) (hn : update.hasNames = true) :
    (mergeOver old update).2 ≠ none ↔ ∃ path fields value,
      update.find? path = some (.object fields) ∧ fields ≠ [] ∧
        old.bind (find? path) = some value ∧ value.isObject = false := by
  constructor
  · intro hs
    induction update using objectInduction generalizing old with
    | other value ho =>
      rw [mergeOver_of_not_object ho] at hs
      exact absurd rfl hs
    | object fields ih =>
      rw [mergeOver_object] at hs
      rcases target_cases old with ⟨target, ht, hf⟩ | ⟨value, rfl, hv⟩
      · rw [ht] at hs
        rw [hasNames] at hn
        obtain ⟨key, inner, hi, hne⟩ := exists_failing_field hn hs
        obtain ⟨name, rfl, hni⟩ := exists_name_of_find? hn hi
        obtain ⟨path, below, value, hp, hb, hv, hvo⟩ := ih _ (mem_of_find? hi) _ hni hne
        refine ⟨name :: path, below, value, ?_, hb, ?_, hvo⟩
        · rw [find?_cons,field?,hi,Option.bind_some,hp]
        · rw [hf name,Option.bind_assoc] at hv
          rw [← hv]
          exact congrArg _ (funext (find?_cons name path))
      · refine ⟨[], fields, value, rfl, ?_, rfl, hv⟩
        rintro rfl
        rw [mergeFields] at hs
        exact hs rfl
  · rintro ⟨path, fields, value, hp, hne, hv, ho⟩ hs
    obtain ⟨-, hr⟩ := find?_mergeOver hn hs hp
    obtain ⟨cause, he⟩ := mergeFields_of_not_object ho hne
    rw [hv,mergeOver_object,Option.getD_some,he] at hr
    cases hr

/-- An update does not fail where there was nothing. -/
theorem mergeOver_none (hn : update.hasNames = true) : (mergeOver none update).2 = none := by
  cases hs : (mergeOver none update).2 with
  | none => rfl
  | some cause =>
    have hne : (mergeOver none update).2 ≠ none := by
      rw [hs]
      exact Option.some_ne_none cause
    obtain ⟨path, fields, value, -, -, hv, -⟩ := (mergeOver_fails_iff none hn).mp hne
    cases hv

/-! ## Merging once more -/

/-- Fields of which each may be merged once more may be merged once more together. -/
theorem mergeFields_again {updates : List (PlainValue × Value)}
    (hn : fieldsHaveNames updates = true) (ha : ∀ field ∈ updates, ∀ old, field.2.hasNames = true →
      mergeOver (some (mergeOver old field.2).1) field.2 = mergeOver old field.2) (target : Value) :
    mergeFields (mergeFields target updates).1 updates = mergeFields target updates := by
  induction updates generalizing target with
  | nil => rfl
  | cons field later ih =>
    obtain ⟨key, update⟩ := field
    obtain ⟨-, hd, hu, hl⟩ := fieldsHaveNames_cons.mp hn
    cases ht : target.isObject with
    | false =>
      obtain ⟨cause, he⟩ := mergeFields_of_not_object ht (List.cons_ne_nil (key, update) later)
      rw [he]
      exact he
    | true =>
      obtain ⟨fields, rfl⟩ := exists_object ht
      have hagain := ha _ List.mem_cons_self (KeyedList.find? key fields) hu
      rcases hm : mergeOver (KeyedList.find? key fields) update with ⟨merged, _ | cause⟩
      · -- What was merged first is found again under its key and merged into itself.
        rw [hm] at hagain
        rw [mergeFields_cons_of_merged hm]
        obtain ⟨after, he, hk⟩ :=
          find?_mergeFields_of_none (KeyedList.insert key merged fields) hd
        rw [KeyedList.find?_insert,if_pos rfl] at hk
        have hnext := ih hl (fun other ho => ha other (List.mem_cons_of_mem _ ho))
          (.object (KeyedList.insert key merged fields))
        rw [he] at hnext ⊢
        rw [mergeFields_cons_of_merged (hk.symm ▸ hagain),KeyedList.insert_of_find? hk]
        exact hnext
      · cases hb : KeyedList.find? key fields with
        | none =>
          rw [hb] at hm
          have hnone : (mergeOver none update).2 = none := mergeOver_none hu
          rw [hm] at hnone
          cases hnone
        | some before =>
          rw [hm] at hagain
          rw [hb] at hm
          rw [mergeFields_cons_of_failed hb hm]
          have hk : KeyedList.find? key (KeyedList.insert key merged fields) = some merged := by
            rw [KeyedList.find?_insert,if_pos rfl]
          rw [mergeFields_cons_of_failed hk hagain,KeyedList.insert_of_find? hk]

/-- An update that is merged over its own outcome has this outcome. -/
theorem mergeOver_again (old : Option Value) (hn : update.hasNames = true) :
    mergeOver (some (mergeOver old update).1) update = mergeOver old update := by
  induction update using objectInduction generalizing old with
  | other value ho => rw [mergeOver_of_not_object ho,mergeOver_of_not_object ho]
  | object fields ih =>
    rw [hasNames] at hn
    rw [mergeOver_object,mergeOver_object,Option.getD_some]
    exact mergeFields_again hn (fun field hf => ih field hf) _

end Along

/-! ## What dotted names show -/

/-- What dotted names show after an update was merged, in terms of the update and of what was there
before. -/
structure ShowsMerge (before update after : Value) : Prop where
  /-- A path that leads the update to a value other than an object shows this value. -/
  replaced : ∀ keys value default, IsNamePath keys → update.find? keys = some value →
    value.isObject = false → after.get (dotted keys) default = value
  /-- Nothing is found below such a value. -/
  hidden : ∀ keys front value default, IsNamePath keys → front <+: keys → front ≠ keys →
    update.find? front = some value → value.isObject = false →
      after.get (dotted keys) default = default
  /-- A path that leads the update to an object shows this object merged into the one that was
  there, or into a new one. -/
  merged : ∀ keys fields default, IsNamePath keys → update.find? keys = some (.object fields) →
    (∀ value, before.find? keys = some value → value.isObject = true ∨ fields = []) ∧
      after.get (dotted keys) default =
        (((before.find? keys).getD (.object [])).update (.object fields)).1
  /-- An object without fields leaves the value that was there as it was. -/
  untouched : ∀ keys value default, IsNamePath keys → update.find? keys = some (.object []) →
    before.find? keys = some value → after.get (dotted keys) default = value
  /-- A path that leaves the update at an object shows what it showed before. -/
  kept : ∀ front key rest fields default, IsNamePath (front ++ key :: rest) →
    update.find? front = some (.object fields) → KeyedList.find? (.text key) fields = none →
      after.get (dotted (front ++ key :: rest)) default =
        before.get (dotted (front ++ key :: rest)) default

section Updating

variable {settings : Value} {fields : List (PlainValue × Value)}

/-- An update merges an object over the settings. -/
theorem update_object (settings : Value) (fields : List (PlainValue × Value)) :
    settings.update (.object fields) = mergeOver (some settings) (.object fields) := by
  rw [update,mergeOver_object,Option.getD_some]

/-- A path that leaves an update at an object finds what it found before. -/
theorem find?_mergeOver_of_left {update : Value} {old : Option Value} {front rest : List String}
    {key : String} (hn : update.hasNames = true) (hs : (mergeOver old update).2 = none)
    (hf : update.find? front = some (.object fields))
    (hk : KeyedList.find? (.text key) fields = none) :
    (mergeOver old update).1.find? (front ++ key :: rest) =
      old.bind (find? (front ++ key :: rest)) := by
  have hb : old.bind (find? (front ++ key :: rest)) =
      ((old.bind (find? front)).bind (field? key)).bind (find? rest) := by
    rw [Option.bind_assoc,Option.bind_assoc]
    refine congrArg _ (funext fun value => ?_)
    rw [find?_append]
    exact congrArg _ (funext (find?_cons key rest))
  obtain ⟨hfront, hr⟩ := find?_mergeOver hn hs hf
  have hnf : fieldsHaveNames fields = true := by
    have h := hasNames_of_find? hn hf
    rwa [hasNames] at h
  obtain ⟨hfield, -⟩ := field?_mergeOver hnf hr key
  rw [hk,Option.map_none,Option.none_or] at hfield
  rw [hb,find?_append,hfront,Option.bind_some,find?_cons,hfield]

/-- An update that was merged is shown by dotted names. -/
theorem showsMerge_of_update (hn : hasNames (.object fields) = true)
    (hs : (settings.update (.object fields)).2 = none) :
    ShowsMerge settings (.object fields) (settings.update (.object fields)).1 := by
  rw [update_object] at hs ⊢
  have hobject : ∀ keys inner, find? keys (.object fields) = some (.object inner) →
      find? keys (mergeOver (some settings) (.object fields)).1 =
        some (((settings.find? keys).getD (.object [])).update (.object inner)).1 := by
    intro keys inner hf
    obtain ⟨hm, -⟩ := find?_mergeOver hn hs hf
    rw [hm,Option.bind_some,mergeOver_object,update]
  refine ⟨?_, ?_, ?_, ?_, ?_⟩
  · intro keys value default hp hf ho
    obtain ⟨hm, -⟩ := find?_mergeOver hn hs hf
    rw [get_dotted hp,hm,mergeOver_of_not_object ho]
    rfl
  · rintro keys front value default hp ⟨back, rfl⟩ hne hf ho
    obtain ⟨hm, -⟩ := find?_mergeOver hn hs hf
    cases back with
    | nil => exact absurd (List.append_nil front).symm hne
    | cons key rest =>
      rw [get_dotted hp,find?_append,hm,mergeOver_of_not_object ho,Option.bind_some,find?_cons,
        field?_of_not_object ho]
      rfl
  · intro keys inner default hp hf
    refine ⟨?_, ?_⟩
    · intro value hv
      by_cases hi : inner = []
      · exact Or.inr hi
      · refine Or.inl (Bool.of_not_eq_false fun ho => ?_)
        have hfails := (mergeOver_fails_iff (some settings) hn).mpr
          ⟨keys, inner, value, hf, hi, hv, ho⟩
        exact hfails hs
    · rw [get_dotted hp,hobject keys inner hf]
      rfl
  · intro keys value default hp hf hv
    rw [get_dotted hp,hobject keys [] hf,hv]
    rfl
  · intro front key rest inner default hp hf hk
    rw [get_dotted hp,get_dotted hp,find?_mergeOver_of_left hn hs hf hk]
    rfl

/-- An update of settings fails exactly when it has fields for a value that is no object. One that
does not fail is merged in depth, as dotted names show. An update that is made twice does what it
does once, whether it fails or not. -/
theorem update_merges (settings : Value) (hn : hasNames (.object fields) = true) :
    let outcome := settings.update (.object fields)
    (outcome.2 ≠ none ↔ ∃ path inner value, find? path (.object fields) = some (.object inner) ∧
        inner ≠ [] ∧ settings.find? path = some value ∧ value.isObject = false) ∧
      (outcome.2 = none → ShowsMerge settings (.object fields) outcome.1) ∧
      outcome.1.update (.object fields) = outcome := by
  intro outcome
  refine ⟨?_, showsMerge_of_update hn, ?_⟩
  · have hf := mergeOver_fails_iff (some settings) hn
    rw [← update_object] at hf
    exact hf
  · have ha := mergeOver_again (some settings) hn
    rw [← update_object,← update_object] at ha
    exact ha

/-- An object is merged into another one, one without fields over no value, and a new one is
made. -/
theorem update_merges_of_nested_objects :
    let settings := ofFields [("display", ofFields [("width", .int 70), ("unicode", .bool true)]),
      ("latex", .null)]
    let fields : List (PlainValue × Value) := [(.text "display", ofFields [("width", .int 90)]),
      (.text "latex", .object []), (.text "repl", ofFields [("prompt", .text "> ")])]
    let outcome := settings.update (.object fields)
    hasNames (.object fields) = true ∧ outcome.2 = none ∧
      ShowsMerge settings (.object fields) outcome.1 ∧
      outcome.1.update (.object fields) = outcome := by
  intro settings fields outcome
  have hn : hasNames (.object fields) = true := by decide
  have hs : outcome.2 = none := by decide
  obtain ⟨-, hm, ha⟩ := update_merges settings hn
  exact ⟨hn, hs, hm hs, ha⟩

end Updating

end Value

end BoxedDeduction
