/-
Entries of one name.

Entries go into the parameters one after another. What the parameters say about a name is what the entries of that name
add to it, in their order (`docOf_addEntries`): the first type that is given and the first text with any word
(`foldl_merge_eq`). The parameters are the known names, each where it came first (`keys_addEntries`).
- `params_of_toModel?`: so the parameters of a model are read off the entries name by name.
-/
import ToolSchema.Proofs.Docstring.Restrict
import ToolSchema.Proofs.Text.Parts
import ToolSchema.Proofs.Writes

namespace ToolSchema.Docstring

open Text

variable {names : List String} {name : String} {params : Entries ParamDoc}

/-! ## One name -/

/-- what parameters say about a name; nothing if it is not listed -/
def docOf (name : String) (params : Entries ParamDoc) : ParamDoc :=
  (params.lookup name).getD ⟨none, none⟩

/-- the entries of a name -/
def mentions (name : String) (entries : List Entry) : List Entry :=
  entries.filter (String.ofList ·.name == name)

theorem docOf_addEntry (hname : name ∈ names) (e : Entry) : docOf name (addEntry names params e).value =
    if String.ofList e.name == name then (docOf name params).merge e else docOf name params := by
  rw [addEntry_value]
  by_cases hmine : String.ofList e.name = name
  · subst hmine
    rw [if_pos (List.contains_iff_mem.2 hname), docOf, Entries.lookup_put, if_pos rfl, if_pos (beq_self_eq_true _)]
    rfl
  · have hother : ¬(String.ofList e.name == name) = true := by simpa using hmine
    rw [if_neg hother]
    split
    · rw [docOf, Entries.lookup_put, if_neg (Ne.symm hmine), docOf]
    · rfl

/-- **Only entries of its own name matter to a parameter.** -/
theorem docOf_addEntries (hname : name ∈ names) (params : Entries ParamDoc) (entries : List Entry) :
    docOf name (addEntries names params entries).value =
      (mentions name entries).foldl ParamDoc.merge (docOf name params) := by
  induction entries generalizing params with
  | nil => rfl
  | cons e rest ih =>
    rw [addEntries, Traced.bind_value, ih, docOf_addEntry hname, mentions, mentions, List.filter_cons]
    split
    · rw [List.foldl_cons]
    · rfl

/-! ## First information -/

/-- A field that takes what an entry gives only if it has nothing yet ends up with what it had, or else with the first
that is given. -/
theorem foldl_merge_field {β : Type} {field : ParamDoc → Option β} {given : Entry → Option β}
    (hmerge : ∀ p e, field (p.merge e) = (field p).or (given e)) (p : ParamDoc) (entries : List Entry) :
    field (entries.foldl ParamDoc.merge p) = (field p).or (entries.findSome? given) := by
  induction entries generalizing p with
  | nil => rw [List.foldl_nil, List.findSome?_nil, Option.or_none]
  | cons e rest ih =>
    rw [List.foldl_cons, ih, hmerge, List.findSome?_cons, Option.or_assoc]
    cases given e <;> rfl

/-- the words of an entry -/
def Entry.description (e : Entry) : Option String :=
  (joinWords e.text).map String.ofList

theorem description_foldl_merge (p : ParamDoc) (entries : List Entry) :
    (entries.foldl ParamDoc.merge p).description = p.description.or (entries.findSome? Entry.description) :=
  foldl_merge_field (fun _ _ => rfl) p entries

theorem typeName_foldl_merge (p : ParamDoc) (entries : List Entry) :
    (entries.foldl ParamDoc.merge p).typeName =
      p.typeName.or ((entries.findSome? Entry.typeName).map String.ofList) := by
  rw [List.map_findSome?]
  exact foldl_merge_field (fun _ _ => rfl) p entries

/-- **The first text counts.** -/
theorem description_addEntries (hname : name ∈ names) (entries : List Entry) :
    (docOf name (addEntries names [] entries).value).description =
      (mentions name entries).findSome? Entry.description := by
  rw [docOf_addEntries hname, description_foldl_merge]
  rfl

/-- the words of all lines of an entry -/
def Entry.words (e : Entry) : List (List Char) :=
  e.text.flatMap Text.words

/-- what entries say by first information: the first type that is given, and the words of the first entry that has any,
each wherever it stands -/
def firstInformation (entries : List Entry) : ParamDoc where
  typeName := (entries.findSome? Entry.typeName).map String.ofList
  description := (entries.find? (!·.words.isEmpty)).map fun e => String.ofList ([' '].intercalate e.words)

/-- an entry without words gives no text, any other one gives them with spaces between them -/
theorem findSome?_description (entries : List Entry) :
    entries.findSome? Entry.description = (firstInformation entries).description := by
  rw [firstInformation]
  induction entries with
  | nil => rfl
  | cons e rest ih =>
    rw [List.findSome?_cons, Entry.description, joinWords_eq, ← Entry.words]
    by_cases hwords : e.words = []
    · rw [if_pos hwords, List.find?_cons_of_neg (by simp [hwords])]
      exact ih
    · rw [if_neg hwords, List.find?_cons_of_pos (by simp [hwords])]
      rfl

/-- **Entries of one name merge by first information.** -/
theorem foldl_merge_eq (entries : List Entry) :
    entries.foldl ParamDoc.merge ⟨none, none⟩ = firstInformation entries := by
  have htype : (entries.foldl ParamDoc.merge ⟨none, none⟩).typeName = (firstInformation entries).typeName := by
    rw [typeName_foldl_merge, Option.none_or]
    rfl
  have htext : (entries.foldl ParamDoc.merge ⟨none, none⟩).description = (firstInformation entries).description := by
    rw [description_foldl_merge, Option.none_or, findSome?_description]
  calc entries.foldl ParamDoc.merge ⟨none, none⟩
    _ = ⟨(entries.foldl ParamDoc.merge ⟨none, none⟩).typeName,
          (entries.foldl ParamDoc.merge ⟨none, none⟩).description⟩ := rfl
    _ = firstInformation entries := by rw [htype, htext]

/-! ## Keys -/

/-- **The first mention gives the place.** -/
theorem keys_addEntries (hnodup : (Entries.keys params).Nodup) (entries : List Entry) :
    Entries.keys (addEntries names params entries).value =
      (Entries.keys params ++ (entries.map (String.ofList ·.name)).filter names.contains).eraseDups := by
  induction entries generalizing params with
  | nil =>
    rw [List.map_nil, List.filter_nil, List.append_nil, Entries.eraseDups_eq_self hnodup]
    rfl
  | cons e rest ih =>
    rw [addEntries, Traced.bind_value, addEntry_value, List.map_cons, List.filter_cons]
    split
    · rw [ih (Entries.nodup_put _ _ _ hnodup), Entries.eraseDups_keys_put]
    · exact ih hnodup

theorem nodup_addEntries (hnodup : (Entries.keys params).Nodup) (entries : List Entry) :
    (Entries.keys (addEntries names params entries).value).Nodup := by
  induction entries generalizing params with
  | nil => exact hnodup
  | cons e rest ih =>
    rw [addEntries, Traced.bind_value, addEntry_value]
    split
    · exact ih (Entries.nodup_put _ _ _ hnodup)
    · exact ih hnodup

/-! ## Models -/

/-- **Entries of a model merge by first information.** Whatever entries a layout has found, in whatever order and number:
if they lead to a model, its parameters are the known names among those of the entries, each once and in the order in
which they come first. Each has the first type that an entry of its name gives, and the words of the first entry of its
name that has any. Neither depends on the other, nor on entries of another name. -/
theorem params_of_toModel? {style : Style} {f : Findings} {m : Model}
    (h : (f.toModel? style names).value = some m) :
    m.params = (((f.entries.map (String.ofList ·.name)).filter names.contains).eraseDups).map fun name =>
      (name, firstInformation (mentions name f.entries)) := by
  have hnil : (Entries.keys ([] : Entries ParamDoc)).Nodup := List.nodup_nil
  have hkeys : Entries.keys (addEntries names [] f.entries).value =
      ((f.entries.map (String.ofList ·.name)).filter names.contains).eraseDups := keys_addEntries hnil f.entries
  rw [(toModel?_eq_some_iff.1 h).2, ← hkeys]
  refine Entries.eq_map_keys fun e he => ?_
  have hname : e.1 ∈ names := by
    have hmem : e.1 ∈ Entries.keys (addEntries names [] f.entries).value := List.mem_map_of_mem he
    rw [hkeys, List.mem_eraseDups, List.mem_filter, List.contains_iff_mem] at hmem
    exact hmem.2
  have hdoc := docOf_addEntries hname [] f.entries
  rw [docOf, Entries.lookup_of_mem (nodup_addEntries hnil f.entries) he, Option.getD_some] at hdoc
  rw [hdoc, ← foldl_merge_eq]
  rfl

/-- entries of two names and of an unknown one: a type without a text, texts without words, types and texts that come
too late -/
def scatteredEntries : List Entry :=
  [⟨"b".toList, none, ["".toList]⟩, ⟨"a".toList, some "int".toList, []⟩, ⟨"ghost".toList, none, ["Boo.".toList]⟩,
    ⟨"b".toList, some "str".toList, ["  ".toList]⟩,
    ⟨"a".toList, some "float".toList, [" The first ".toList, "".toList, "one.".toList]⟩,
    ⟨"b".toList, none, ["Second.".toList]⟩, ⟨"a".toList, none, ["Too late.".toList]⟩]

/-- The type and the text of `b` come from its second and third entry. -/
theorem params_of_scatteredEntries : ∃ m : Model,
    ((⟨[], scatteredEntries, none⟩ : Findings).toModel? .headed ["a", "b"]).value = some m ∧
    m.params = [("b", ⟨some "str", some "Second."⟩), ("a", ⟨some "int", some "The first one."⟩)] := by
  have hmodel : ((⟨[], scatteredEntries, none⟩ : Findings).toModel? .headed ["a", "b"]).value.isSome = true := rfl
  obtain ⟨m, hm⟩ := Option.isSome_iff_exists.1 hmodel
  refine ⟨m, hm, ?_⟩
  rw [params_of_toModel? hm]
  decide +kernel

end ToolSchema.Docstring
