/-
Tags, block by block.

A tag takes the lines up to the next one. So lines that begin with a tag are grouped by themselves, and two texts in
tags, one behind the other, have the entries and the return lines of both. Types are apart from this: one in the second
text may be for an entry of the first, so entries are compared without them (`untyped_entries_append`).
- `Model.Follows`: what two texts say together, by first information.
- `follows_of_tags`: the model of two texts in tags is what the models of both say together.
-/
import ToolSchema.Proofs.Docstring.Findings
import ToolSchema.Proofs.Docstring.Merge
import ToolSchema.Proofs.Text.Parts

namespace ToolSchema.Docstring

open Text

variable {names : List String} {style : Style} {ls x y : List Line}

/-! ## The model of a layout -/

/-- the model that a layout has of the lines; the empty one if it finds nothing -/
def Style.modelOf (style : Style) (names : List String) (ls : List Line) : Model :=
  (style.parse? ls names).value.getD .empty

theorem params_modelOf (style : Style) (names : List String) (ls : List Line) :
    (style.modelOf names ls).params = (addEntries names [] (style.findings ls).entries).value := by
  rw [Style.modelOf, Style.parse?, Findings.toModel?]
  split
  · next hempty =>
    rw [Findings.isEmpty, Bool.and_eq_true, List.isEmpty_iff] at hempty
    rw [hempty.1]
    rfl
  · rfl

theorem returns_modelOf (style : Style) (names : List String) (ls : List Line) :
    (style.modelOf names ls).returns = ((style.findings ls).returns.bind joinWords).map String.ofList := by
  rw [Style.modelOf, Style.parse?, Findings.toModel?]
  split
  · next hempty =>
    rw [Findings.isEmpty, Bool.and_eq_true, Option.isNone_iff_eq_none] at hempty
    rw [hempty.2]
    rfl
  · rfl

theorem bind_joinWords_flattenSome (parts : List (List Line)) :
    (flattenSome parts).bind joinWords = joinWords parts.flatten := by
  cases parts <;> rfl

theorem descriptionOf?_eq (name : String) (m : Model) : m.descriptionOf? name = (docOf name m.params).description := by
  rw [Model.descriptionOf?, docOf]
  cases m.params.lookup name <;> rfl

theorem keys_modelOf (style : Style) (names : List String) (ls : List Line) : (style.modelOf names ls).params.keys =
    (((style.findings ls).entries.map (String.ofList ·.name)).filter names.contains).eraseDups := by
  have hnil : (Entries.keys ([] : Entries ParamDoc)).Nodup := List.nodup_nil
  rw [params_modelOf, keys_addEntries hnil]
  rfl

theorem descriptionOf?_modelOf {name : String} (hname : name ∈ names) (style : Style) (ls : List Line) :
    (style.modelOf names ls).descriptionOf? name =
      (mentions name (style.findings ls).entries).findSome? Entry.description := by
  rw [descriptionOf?_eq, params_modelOf, description_addEntries hname]

theorem descriptionOf?_modelOf_eq_none {name : String} (hname : name ∉ names) (style : Style) (ls : List Line) :
    (style.modelOf names ls).descriptionOf? name = none := by
  have hkeys : name ∉ (style.modelOf names ls).params.keys := by
    rw [keys_modelOf, List.mem_eraseDups, List.mem_filter, List.contains_iff_mem]
    exact fun h => hname h.2
  rw [Model.descriptionOf?, Entries.lookup_eq_none_of_not_mem hkeys, Option.bind_none]

/-! ## Entries without their types -/

def Entry.untyped (e : Entry) : Entry :=
  { e with typeName := none }

theorem findSome?_mentions_untyped (name : String) (entries : List Entry) :
    (mentions name (entries.map Entry.untyped)).findSome? Entry.description =
      (mentions name entries).findSome? Entry.description := by
  rw [mentions, List.filter_map, List.findSome?_map]
  rfl

/-! ## Two texts -/

/-- what two texts say one behind the other: for each name the first that is said about it -/
structure Model.Follows (first second whole : Model) : Prop where
  documented : ∀ name, whole.isDocumented name = true ↔
    first.isDocumented name = true ∨ second.isDocumented name = true
  keys : whole.params.keys = first.params.keys ++ second.params.keys.filter (!first.isDocumented ·)
  descriptions : ∀ name, whole.descriptionOf? name = (first.descriptionOf? name).or (second.descriptionOf? name)
  returns : whole.returns = joinTexts first.returns second.returns

/-- entries and return lines of both texts, whatever their types -/
theorem follows_of_findings
    (hentries : (style.findings ls).entries.map Entry.untyped =
      (style.findings x).entries.map Entry.untyped ++ (style.findings y).entries.map Entry.untyped)
    (hreturns : (style.modelOf names ls).returns =
      joinTexts (style.modelOf names x).returns (style.modelOf names y).returns) :
    Model.Follows (style.modelOf names x) (style.modelOf names y) (style.modelOf names ls) := by
  have hkeys : (style.modelOf names ls).params.keys = (style.modelOf names x).params.keys ++
      (style.modelOf names y).params.keys.filter (!(style.modelOf names x).isDocumented ·) := by
    have hnames := congrArg (List.map (String.ofList ·.name)) hentries
    rw [List.map_append, List.map_map, List.map_map, List.map_map] at hnames
    have hnew : (fun name => !(style.modelOf names x).params.keys.contains name) =
        fun name => !(style.modelOf names x).isDocumented name := by
      funext name
      rw [Bool.not_inj_iff, Bool.eq_iff_iff, List.contains_iff_mem, Entries.mem_keys_iff_has, Model.isDocumented]
    rw [← hnew, keys_modelOf, keys_modelOf, keys_modelOf, ← Entries.eraseDups_append, ← List.filter_append]
    exact congrArg (fun ns => (ns.filter names.contains).eraseDups) hnames
  refine ⟨fun name => ?_, hkeys, fun name => ?_, hreturns⟩
  · rw [Model.isDocumented, ← Entries.mem_keys_iff_has, hkeys, List.mem_append, List.mem_filter,
      Entries.mem_keys_iff_has, Entries.mem_keys_iff_has, ← Model.isDocumented, ← Model.isDocumented]
    cases (style.modelOf names x).isDocumented name <;> simp
  · by_cases hname : name ∈ names
    · rw [descriptionOf?_modelOf hname, descriptionOf?_modelOf hname, descriptionOf?_modelOf hname,
        ← findSome?_mentions_untyped, hentries, mentions, List.filter_append, List.findSome?_append,
        ← mentions, ← mentions, findSome?_mentions_untyped, findSome?_mentions_untyped]
    · rw [descriptionOf?_modelOf_eq_none hname, descriptionOf?_modelOf_eq_none hname,
        descriptionOf?_modelOf_eq_none hname, Option.or_none]

/-! ## Tags -/

namespace Tag

theorem untyped_assign (entries : List Entry) (name typeName : Line) :
    (assign entries name typeName).map Entry.untyped = entries.map Entry.untyped := by
  induction entries with
  | nil => rfl
  | cons e rest ih =>
    rw [assign]
    split
    · rfl
    · rw [List.map_cons, ih, List.map_cons]

theorem untyped_foldl_assign (typings : List (Line × Line)) (entries : List Entry) :
    (typings.foldl (fun entries t => assign entries t.1 t.2) entries).map Entry.untyped =
      entries.map Entry.untyped := by
  induction typings generalizing entries with
  | nil => rfl
  | cons t rest ih => rw [List.foldl_cons, ih, untyped_assign]

theorem untyped_entries (ls : List Line) : (findings ls).entries.map Entry.untyped =
    ((blocks ofLine? ls).filterMap entry?).map Entry.untyped :=
  untyped_foldl_assign _ _

theorem untyped_entries_append (h : (y.head?.bind ofLine?).isSome = true) :
    (findings (x ++ y)).entries.map Entry.untyped =
      (findings x).entries.map Entry.untyped ++ (findings y).entries.map Entry.untyped := by
  rw [untyped_entries, blocks_append h, List.filterMap_append, List.map_append, ← untyped_entries, ← untyped_entries]

end Tag

theorem returns_modelOf_tag (names : List String) (ls : List Line) : (Style.tag.modelOf names ls).returns =
    (joinWords ((blocks Tag.ofLine? ls).filterMap Tag.returnText?).flatten).map String.ofList := by
  rw [returns_modelOf, ← bind_joinWords_flattenSome]
  rfl

/-- **Tags are read block by block.** Whatever stands before a tag, the model of all lines follows from that of the
lines before and that of the lines from the tag on: the parameters of the first and then the new ones of the second, for
each the first text about it, and the text about the return value joined from both. -/
theorem follows_of_tags (names : List String) (x y : List Line) (h : (y.head?.bind Tag.ofLine?).isSome = true) :
    Model.Follows (Style.tag.modelOf names x) (Style.tag.modelOf names y) (Style.tag.modelOf names (x ++ y)) := by
  have hentries : (Style.tag.findings (x ++ y)).entries.map Entry.untyped =
      (Style.tag.findings x).entries.map Entry.untyped ++ (Style.tag.findings y).entries.map Entry.untyped :=
    Tag.untyped_entries_append h
  have hreturns : (Style.tag.modelOf names (x ++ y)).returns =
      joinTexts (Style.tag.modelOf names x).returns (Style.tag.modelOf names y).returns := by
    rw [returns_modelOf_tag, blocks_append h, List.filterMap_append, List.flatten_append, joinWords_append,
      ← returns_modelOf_tag, ← returns_modelOf_tag]
  exact follows_of_findings hentries hreturns

/-- `a` has its place in the first text and its description in the second, and both say what is returned. -/
theorem follows_of_tags_again :
    (([":returns: Two.", ":param b: Second.", ":param a: First."].map String.toList).head?.bind
      Tag.ofLine?).isSome = true ∧
    (Style.tag.modelOf ["b", "a"] (["Sum.", ":param a:", ":return: One."].map String.toList ++
      [":returns: Two.", ":param b: Second.", ":param a: First."].map String.toList)).params.keys = ["a", "b"] ∧
    (Style.tag.modelOf ["b", "a"] (["Sum.", ":param a:", ":return: One."].map String.toList ++
      [":returns: Two.", ":param b: Second.", ":param a: First."].map String.toList)).descriptionOf? "a" =
        some "First." ∧
    (Style.tag.modelOf ["b", "a"] (["Sum.", ":param a:", ":return: One."].map String.toList ++
      [":returns: Two.", ":param b: Second.", ":param a: First."].map String.toList)).returns = some "One. Two." := by
  have htag : (([":returns: Two.", ":param b: Second.", ":param a: First."].map String.toList).head?.bind
      Tag.ofLine?).isSome = true := by decide +kernel
  have h := follows_of_tags ["b", "a"] (["Sum.", ":param a:", ":return: One."].map String.toList) _ htag
  refine ⟨htag, ?_, ?_, ?_⟩
  · rw [h.keys]
    decide +kernel
  · rw [h.descriptions]
    decide +kernel
  · rw [h.returns]
    decide +kernel

end ToolSchema.Docstring
