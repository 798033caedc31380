import BoxedDeduction.Settings.Value

/-!
# Changing settings

An update is an object that is merged into the settings field by field. Where
the update holds an object, it is merged into the object that the settings hold
under the same key, or into a new one; any other value replaces what was there.
An update fails where it would set a field of a value that is not an object.
What was merged before the failure stays merged, apart from objects that the
update was about to create.
-/

namespace BoxedDeduction

/-- Why an update fails. -/
inductive MergeError where
  /-- A field would be looked up in a value that is not an object. -/
  | noFields
  /-- A plain value would be put into a field of a value that is not an object. -/
  | cannotStore
  deriving DecidableEq

namespace Value

/-- Put a value into a field. -/
def put (key : PlainValue) (value : Value) : Value → Except MergeError Value
  | .object fields => .ok (.object (KeyedList.insert key value fields))
  | _ => .error .cannotStore

mutual

/-- What an update makes of the value under a key, with the failure if there is one. -/
def mergeOver (old : Option Value) : Value → Value × Option MergeError
  | .object updates => mergeFields (old.getD (.object [])) updates
  | value => (value, none)

/-- Merge fields into a value one after the other, up to the first failure. -/
def mergeFields (target : Value) : List (PlainValue × Value) → Value × Option MergeError
  | [] => (target, none)
  | (key, update) :: rest =>
    match target with
    | .object fields =>
      match KeyedList.find? key fields, mergeOver (KeyedList.find? key fields) update with
      | _, (merged, none) => mergeFields (.object (KeyedList.insert key merged fields)) rest
      | some _, (merged, some cause) => (.object (KeyedList.insert key merged fields), some cause)
      | none, (_, some cause) => (target, some cause)
    | _ => (target, some (if update.isObject then .noFields else .cannotStore))

end

/-- Merge an update into settings. Only an object can be merged. -/
def update (settings : Value) : Value → Value × Option MergeError
  | .object updates => mergeFields settings updates
  | _ => (settings, some .noFields)

end Value

/-- A value handed out under a dotted name. An object stays connected with the settings: as long
as an object stands in its place, it shows the fields of that object. -/
structure SettingView where
  /-- The keys under which the value was found. -/
  path : List String
  /-- What the value shows. -/
  value : Value

namespace SettingView

/-- The view of the value under a dotted name. -/
def open? (settings : Value) (name : String) : Option SettingView :=
  (settings.find? (Value.keysOf name)).map fun value => ⟨Value.keysOf name, value⟩

/-- The view after the settings have changed. -/
def refresh (settings : Value) (view : SettingView) : SettingView :=
  match view.value, settings.find? view.path with
  | .object _, some (.object fields) => { view with value := .object fields }
  | _, _ => view

end SettingView

end BoxedDeduction
