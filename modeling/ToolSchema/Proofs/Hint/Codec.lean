/-
What is written of a hint is read back.

The tag tells the hints without parts, as a string, from those with parts, as the one key of an object. A missing type is
written as null, and no hint is (`toJson_ne_null`); the values of a literal are written as they are, under their tag, so
that it does not matter what they look like. Each form reads back its parts if the hints inside are read back, and these
are smaller: so `ofJson?_toJson` reads back every hint.
-/
import ToolSchema.Hint.Codec
import ToolSchema.Proofs.Resolve.Free

namespace ToolSchema.Hint

/-! ## Parts of hints -/

/-- no hint is written as null, which stands for a missing one -/
theorem toJson_ne_null (h : Hint) : h.toJson ≠ .null := by
  cases h <;> (intro hnull; cases hnull)

/-- null is no hint, and a hint is not null -/
theorem orNull?_optionToJson {item : Option Hint} (hread : ∀ h, item = some h → ofJson? h.toJson = some h) :
    orNull? (optionToJson item) = some item := by
  cases item with
  | none => rw [optionToJson, orNull?]
  | some h =>
    rw [optionToJson, orNull?, hread h rfl]
    · rfl
    · exact h.toJson_ne_null

theorem mapping?_parts {key value : Option Hint} (hkey : orNull? (optionToJson key) = some key)
    (hvalue : orNull? (optionToJson value) = some value) :
    mapping? [("key", optionToJson key), ("value", optionToJson value)] = some (.map key value) := by
  have hfirst : List.lookup "key" [("key", optionToJson key), ("value", optionToJson value)] = some (optionToJson key) :=
    rfl
  have hsecond :
      List.lookup "value" [("key", optionToJson key), ("value", optionToJson value)] = some (optionToJson value) := rfl
  rw [mapping?, hfirst, hsecond, part?, part?, hkey, hvalue]
  rfl

theorem all?_allToJson {hints : List Hint} (hread : ∀ h ∈ hints, ofJson? h.toJson = some h) :
    all? (allToJson hints) = some hints := by
  induction hints with
  | nil => rw [allToJson, all?]
  | cons h rest ih =>
    rw [List.forall_mem_cons] at hread
    rw [allToJson, all?, hread.1, ih hread.2]
    rfl

/-! ## Records -/

theorem field?_toJson {h : Hint} (name : String) (required : Bool) (hread : ofJson? h.toJson = some h) :
    field? (.object [("name", .string name), ("hint", h.toJson), ("required", .bool required)]) =
      some ⟨name, h, required⟩ := by
  have hmembers : (Json.object [("name", .string name), ("hint", h.toJson), ("required", .bool required)]).members?
      ["name", "hint", "required"] = some [some (.string name), some h.toJson, some (.bool required)] := rfl
  rw [field?]
  split
  · next heq =>
    rw [hmembers] at heq
    cases heq
    rw [hread]
    rfl
  · next hother => exact absurd hmembers (hother _ _ _)

theorem fields?_fieldsToJson {fields : List (Field Hint)} (hread : ∀ f ∈ fields, ofJson? f.hint.toJson = some f.hint) :
    fields? (fieldsToJson fields) = some fields := by
  induction fields with
  | nil => rw [fieldsToJson, fields?]
  | cons f rest ih =>
    rw [List.forall_mem_cons] at hread
    rw [fieldsToJson, fields?, field?_toJson f.name f.required hread.1, ih hread.2]
    rfl

/-- a name that is null is no name, and any string is one -/
theorem record?_recordJson {fields : List (Field Hint)} (name : Option String) (closed : Bool)
    (hread : fields? (fieldsToJson fields) = some fields) :
    record? (recordJson name (fieldsToJson fields) closed) = some ⟨name, fields, closed⟩ := by
  have hmembers : (recordJson name (fieldsToJson fields) closed).members? ["name", "fields", "closed"] =
      some [some (.ofString? name), some (.array (fieldsToJson fields)), some (.bool closed)] := rfl
  have hname : name? (some (.ofString? name)) = some name := by cases name <;> rfl
  rw [record?]
  split
  · next heq =>
    rw [hmembers] at heq
    cases heq
    rw [hname, hread]
    rfl
  · next hother => exact absurd hmembers (hother _ _ _)

/-! ## Hints -/

/-- **Nothing is lost in the JSON form.** Every hint is read back from what is written of it, whatever its names are and
whatever the values of its literals look like. -/
theorem ofJson?_toJson (h : Hint) : ofJson? h.toJson = some h := by
  induction h using weight_induct with
  | step h smaller =>
  cases h with
  | array item =>
    have hitem : ∀ h, item = some h → ofJson? h.toJson = some h := by
      rintro h rfl
      exact smaller h (weight_item_lt h)
    rw [toJson, Json.tagged, ofJson?, tagged?, orNull?_optionToJson hitem]
    rfl
  | map key value =>
    have hkey : ∀ h, key = some h → ofJson? h.toJson = some h := by
      rintro h rfl
      exact smaller h (weight_key_lt h value)
    have hvalue : ∀ h, value = some h → ofJson? h.toJson = some h := by
      rintro h rfl
      exact smaller h (weight_value_lt key h)
    rw [toJson, Json.tagged, ofJson?, tagged?]
    exact mapping?_parts (orNull?_optionToJson hkey) (orNull?_optionToJson hvalue)
  | optional inner =>
    have hinner := smaller inner (weight_inner_lt inner)
    rw [toJson, Json.tagged, ofJson?, tagged?, hinner]
    rfl
  | union hints =>
    have hmembers : ∀ m ∈ hints, ofJson? m.toJson = some m :=
      fun m hm => smaller m (weight_alternative_lt hm)
    rw [toJson, Json.tagged, ofJson?, tagged?, all?_allToJson hmembers]
    rfl
  | literal values => rw [toJson, Json.tagged, ofJson?, tagged?]
  | record record =>
    obtain ⟨name, fields, closed⟩ := record
    have hfields : ∀ f ∈ fields, ofJson? f.hint.toJson = some f.hint :=
      fun f hf => smaller f.hint (weight_field_lt hf)
    rw [toJson, Json.tagged, ofJson?, tagged?, record?_recordJson name closed (fields?_fieldsToJson hfields)]
    rfl
  | named name => rw [toJson, Json.tagged, ofJson?, tagged?]
  | unsupported label => rw [toJson, Json.tagged, ofJson?, tagged?]
  | _ =>
    rw [toJson, ofJson?]
    rfl

/-- a value that is written like a hint stays a value -/
example : ofJson? (.object [("literal", .array [.object [("array", .null)], .string "null"])]) =
    some (.literal [.object [("array", .null)], .string "null"]) := by cbv

end ToolSchema.Hint
