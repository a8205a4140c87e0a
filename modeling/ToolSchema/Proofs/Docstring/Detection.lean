/-
The scan for markers hides no layout.

`detect` asks every line by itself whether it is a marker. `findings` groups the lines instead: it steps over the bodies
of sections, over the lines under a title and over the rows of a table, and it treats the first line apart. Still, all
that it finds hangs on a line that `detect` counts:
- `Tag.detect_of_found`, `Headed.detect_of_found`, `Table.detect_of_found`: with any finding there is a marker.
- `select?_eq_findSome?`: so `select?` picks what it would pick without asking for markers first.
- `extract_cases`: so a model comes from one layout, or from plain text.
- `extract_eq_firstModel?`: a text has the model of the first layout that finds anything in it, and else none of the
  parts of a layout.
-/
import Mathlib.Data.List.Infix
import ToolSchema.Docstring.Extract

namespace ToolSchema.Docstring

variable {ls : List Line} {names : List String} {style : Style} {model : Model}

/-! ## Findings -/

/-- a group of lines stands under a head among them -/
theorem exists_head_of_mem_blocks {α β : Type} {head? : α → Option β} {as : List α} {block : β × List α}
    (h : block ∈ blocks head? as) : ∃ a ∈ as, head? a = some block.1 := by
  induction as with
  | nil => exact absurd h List.not_mem_nil
  | cons a rest ih =>
    have hlater : block ∈ blocks head? rest → ∃ x ∈ a :: rest, head? x = some block.1 := by
      intro hmem
      obtain ⟨x, hx, hhead⟩ := ih hmem
      exact ⟨x, List.mem_cons_of_mem a hx, hhead⟩
    cases hhead : head? a with
    | none =>
      rw [blocks, hhead] at h
      exact hlater h
    | some b =>
      rw [blocks, hhead] at h
      rcases List.mem_cons.1 h with rfl | h
      · exact ⟨a, List.mem_cons_self, hhead⟩
      · exact hlater h

theorem exists_mem_of_flattenSome {parts : List (List Line)} (h : flattenSome parts ≠ none) : ∃ part, part ∈ parts := by
  apply List.exists_mem_of_ne_nil
  rintro rfl
  exact h rfl

/-- there is a model only of what is not empty -/
theorem found_of_toModel? {f : Findings} (h : (f.toModel? style names).value = some model) :
    f.entries ≠ [] ∨ f.returns ≠ none := by
  by_contra hnone
  rw [not_or, not_not, not_not] at hnone
  have hempty : f.isEmpty = true := by
    rw [Findings.isEmpty, hnone.1, hnone.2]
    rfl
  rw [Findings.toModel?, if_pos hempty] at h
  cases h

/-! ## Tags -/

namespace Tag

/-- types are given to entries, they make none -/
theorem foldl_assign_nil (typings : List (Line × Line)) :
    typings.foldl (fun entries t => assign entries t.1 t.2) [] = [] := by
  induction typings with
  | nil => rfl
  | cons t rest ih => exact ih

theorem isMarker_of_entry? {block : Tag × List Line} {e : Entry} (h : entry? block = some e) :
    isMarker block.1 = true := by
  obtain ⟨tag, more⟩ := block
  cases tag with
  | param => rfl
  | _ => cases h

theorem isMarker_of_returnText? {block : Tag × List Line} {part : List Line} (h : returnText? block = some part) :
    isMarker block.1 = true := by
  obtain ⟨tag, more⟩ := block
  cases tag with
  | returns => rfl
  | _ => cases h

theorem detect_of_found (h : (findings ls).entries ≠ [] ∨ (findings ls).returns ≠ none) : detect ls = true := by
  have hblock : ∃ block ∈ blocks ofLine? ls, isMarker block.1 = true := by
    rcases h with hentries | hreturns
    · have hne : (blocks ofLine? ls).filterMap entry? ≠ [] := by
        intro hnil
        refine hentries ?_
        rw [findings, hnil]
        exact foldl_assign_nil _
      obtain ⟨e, he⟩ := List.exists_mem_of_ne_nil _ hne
      obtain ⟨block, hblock, hentry⟩ := List.mem_filterMap.1 he
      exact ⟨block, hblock, isMarker_of_entry? hentry⟩
    · obtain ⟨part, hpart⟩ := exists_mem_of_flattenSome hreturns
      obtain ⟨block, hblock, htext⟩ := List.mem_filterMap.1 hpart
      exact ⟨block, hblock, isMarker_of_returnText? htext⟩
  obtain ⟨block, hblock, hmarker⟩ := hblock
  obtain ⟨line, hline, htag⟩ := exists_head_of_mem_blocks hblock
  rw [detect, List.any_eq_true]
  refine ⟨line, hline, ?_⟩
  rw [htag]
  exact hmarker

end Tag

/-! ## Sections -/

namespace Headed

/-- A section stands under a header: the first line of the text, which is read in its own way, or any later line. -/
theorem exists_header_of_mem_sections {isFirst : Bool} {s : Section} (h : s ∈ sections isFirst ls) :
    (∃ line, ls.head? = some line ∧ headerAt? isFirst line = some (s.header, s.inline)) ∨
      ∃ line ∈ ls.tail, headerAt? false line = some (s.header, s.inline) := by
  -- a section found behind the first line stands under one of the lines behind it
  have hbehind : ∀ {line : Line} {rest behind : List Line}, behind ⊆ rest →
      ((∃ l, behind.head? = some l ∧ headerAt? false l = some (s.header, s.inline)) ∨
        ∃ l ∈ behind.tail, headerAt? false l = some (s.header, s.inline)) →
      ∃ l ∈ (line :: rest).tail, headerAt? false l = some (s.header, s.inline) := by
    rintro line rest behind hsub (⟨l, hl, hheader⟩ | ⟨l, hl, hheader⟩)
    · exact ⟨l, hsub (List.mem_of_head? hl), hheader⟩
    · exact ⟨l, hsub (List.mem_of_mem_tail hl), hheader⟩
  fun_induction sections isFirst ls with
  | case1 => exact absurd h List.not_mem_nil
  | case2 isFirst line rest hnone ih => exact .inr (hbehind (List.Subset.refl rest) (ih h))
  | case3 isFirst line rest header inline hheader ih =>
    rcases List.mem_cons.1 h with rfl | h
    · exact .inl ⟨line, rfl, hheader⟩
    · exact .inr (hbehind (List.dropWhile_sublist _).subset (ih h))

theorem detect_of_mem_sections {s : Section} (h : s ∈ sections true ls) (hheader : s.header ≠ .other) :
    detect ls = true := by
  have hmarker : (some (s.header, s.inline)).any isMarker = true := by
    rw [Option.any_some, isMarker, bne_iff_ne]
    exact hheader
  cases ls with
  | nil => simp [sections] at h
  | cons first rest =>
    rw [detect, Bool.or_eq_true, List.any_eq_true]
    rcases exists_header_of_mem_sections h with ⟨line, hline, hread⟩ | ⟨line, hline, hread⟩
    · left
      cases hline
      rw [hread]
      exact hmarker
    · right
      refine ⟨line, hline, ?_⟩
      rw [hread]
      exact hmarker

theorem detect_of_found (h : (findings ls).entries ≠ [] ∨ (findings ls).returns ≠ none) : detect ls = true := by
  rcases h with hentries | hreturns
  · obtain ⟨e, he⟩ := List.exists_mem_of_ne_nil _ hentries
    obtain ⟨s, hs, -⟩ := List.mem_flatMap.1 he
    obtain ⟨hmem, hparams⟩ := List.mem_filter.1 hs
    refine detect_of_mem_sections hmem ?_
    rw [eq_of_beq hparams]
    nofun
  · obtain ⟨part, hpart⟩ := exists_mem_of_flattenSome hreturns
    obtain ⟨s, hmem, htext⟩ := List.mem_filterMap.1 hpart
    refine detect_of_mem_sections hmem ?_
    intro hother
    rw [returnText?, hother] at htext
    cases htext

end Headed

/-! ## Titles and tables -/

namespace Table

variable {b : Block}

/-- the lines begin with the title or the header row of a block -/
def Block.Opens : Block → List Line → Prop
  | .titled title _ _, ls => title? ls = some title
  | .table columns _, ls => ls.head?.bind columns? = some columns

theorem afterBody_suffix (ls : List Line) : afterBody ls <:+ ls := by
  induction ls with
  | nil => exact List.suffix_refl []
  | cons line rest ih =>
    rw [afterBody]
    split
    · exact List.suffix_refl _
    · exact ih.trans (List.suffix_cons line rest)

/-- wherever a block begins, the rest of the text begins with its title or header row -/
theorem exists_opens_of_mem_blocks (h : b ∈ blocks ls) : ∃ part, part <:+ ls ∧ b.Opens part := by
  fun_induction blocks ls with
  | case1 => exact absurd h List.not_mem_nil
  | case2 line rest title htitle ih =>
    rcases List.mem_cons.1 h with rfl | h
    · exact ⟨line :: rest, List.suffix_refl _, htitle⟩
    · obtain ⟨part, hpart, hopens⟩ := ih h
      have hskip : afterBody (rest.drop 1) <:+ rest := (afterBody_suffix _).trans (List.drop_suffix 1 rest)
      exact ⟨part, (hpart.trans hskip).trans (List.suffix_cons line rest), hopens⟩
  | case3 line rest htitle columns hcolumns ih =>
    rcases List.mem_cons.1 h with rfl | h
    · exact ⟨line :: rest, List.suffix_refl _, hcolumns⟩
    · obtain ⟨part, hpart, hopens⟩ := ih h
      have hskip : rest.dropWhile isRow <:+ rest := List.dropWhile_suffix isRow
      exact ⟨part, (hpart.trans hskip).trans (List.suffix_cons line rest), hopens⟩
  | case4 line rest htitle hcolumns ih =>
    obtain ⟨part, hpart, hopens⟩ := ih h
    exact ⟨part, hpart.trans (List.suffix_cons line rest), hopens⟩

/-- a title that documents nothing has neither entries nor a return value -/
theorem isMarker_of_opens {part : List Line} (hopens : b.Opens part) (h : b.entries ≠ [] ∨ b.returns? ≠ none) :
    isMarker part = true := by
  cases b with
  | titled title level body =>
    have htitle : title? part = some title := hopens
    rw [isMarker, htitle]
    cases title with
    | other =>
      rcases h with h | h
      · exact absurd rfl h
      · exact absurd rfl h
    | _ => rfl
  | table columns rows =>
    have hcolumns : part.head?.bind columns? = some columns := hopens
    rw [isMarker, hcolumns]
    exact Bool.or_true _

theorem detect_of_suffix {part : List Line} (hsuffix : part <:+ ls) (hmarker : isMarker part = true) :
    detect ls = true := by
  induction ls with
  | nil =>
    rw [List.suffix_nil.1 hsuffix] at hmarker
    exact absurd hmarker Bool.false_ne_true
  | cons line rest ih =>
    rw [detect, Bool.or_eq_true]
    rcases List.suffix_cons_iff.1 hsuffix with rfl | hlater
    · exact .inl hmarker
    · exact .inr (ih hlater)

theorem detect_of_found (h : (findings ls).entries ≠ [] ∨ (findings ls).returns ≠ none) : detect ls = true := by
  have hblock : ∃ b ∈ blocks ls, b.entries ≠ [] ∨ b.returns? ≠ none := by
    rcases h with hentries | hreturns
    · obtain ⟨e, he⟩ := List.exists_mem_of_ne_nil _ hentries
      obtain ⟨b, hb, hmem⟩ := List.mem_flatMap.1 he
      exact ⟨b, hb, .inl (List.ne_nil_of_mem hmem)⟩
    · obtain ⟨part, hpart⟩ := exists_mem_of_flattenSome hreturns
      obtain ⟨b, hb, htext⟩ := List.mem_filterMap.1 hpart
      refine ⟨b, hb, .inr ?_⟩
      rw [htext]
      exact Option.some_ne_none part
  obtain ⟨b, hb, hfound⟩ := hblock
  obtain ⟨part, hsuffix, hopens⟩ := exists_opens_of_mem_blocks hb
  exact detect_of_suffix hsuffix (isMarker_of_opens hopens hfound)

end Table

/-! ## Selection -/

/-- a layout with a model has a marker in the lines -/
theorem detect_of_parse? (h : (style.parse? ls names).value = some model) : style.detect ls = true := by
  have hfound := found_of_toModel? h
  cases style with
  | tag => exact Tag.detect_of_found hfound
  | table => exact Table.detect_of_found hfound
  | headed => exact Headed.detect_of_found hfound

theorem select?_eq_findSome? (ls : List Line) (names : List String) (styles : List Style) :
    (select? ls names styles).value = styles.findSome? fun style => (style.parse? ls names).value := by
  induction styles with
  | nil => rfl
  | cons style rest ih =>
    rw [select?, List.findSome?_cons]
    by_cases hdetect : style.detect ls = true
    · rw [if_pos hdetect, Traced.bind_value]
      cases (style.parse? ls names).value with
      | none => exact ih
      | some model => rfl
    · rw [if_neg hdetect]
      cases hparse : (style.parse? ls names).value with
      | none => exact ih
      | some model => exact absurd (detect_of_parse? hparse) hdetect

/-- the first model that the layouts have of these lines, whatever the scan for markers says -/
def firstModel? (ls : List Line) (names : List String) : Option Model :=
  [Style.tag, .table, .headed].findSome? fun style => (style.parse? ls names).value

theorem firstModel?_nil (names : List String) : firstModel? [] names = none := by
  rw [firstModel?, List.findSome?_eq_none_iff]
  intro style _
  cases hparse : (style.parse? [] names).value with
  | none => rfl
  | some model =>
    have hdetect : style.detect [] = false := by cases style <;> rfl
    rw [detect_of_parse? hparse] at hdetect
    cases hdetect

/-- a text is what its first layout says, or plain prose -/
theorem extract_value (raw : String) (names : List String) :
    (extract raw names).value =
      if clean raw.toList = [] then .empty
      else (firstModel? (clean raw.toList) names).getD (plain (clean raw.toList)) := by
  have hselect : (select? (clean raw.toList) names Style.all).value = firstModel? (clean raw.toList) names :=
    select?_eq_findSome? _ _ _
  by_cases hclean : clean raw.toList = []
  · rw [if_pos hclean]
    simp only [extract, hclean, List.isEmpty_nil, if_true, Traced.pure_value]
  · rw [if_neg hclean]
    simp only [extract, List.isEmpty_iff, hclean, if_false, Traced.bind_value, hselect]
    cases firstModel? (clean raw.toList) names <;> rfl

theorem toModel?_eq_some_iff {f : Findings} :
    (f.toModel? style names).value = some model ↔
      f.isEmpty = false ∧
        model = ⟨String.ofList (summary (clean (prose f.prose))), String.ofList (prose f.prose),
          (addEntries names [] f.entries).value, (f.returns.bind Text.joinWords).map String.ofList, some style⟩ := by
  rw [Findings.toModel?]
  cases f.isEmpty with
  | true => simp
  | false => simp [eq_comm]

/-- every model is that of a layout, which it names, or that of plain text -/
theorem extract_cases (raw : String) (names : List String) :
    (∃ style : Style, (style.parse? (clean raw.toList) names).value = some (extract raw names).value ∧
        (extract raw names).value.style = some style) ∨
      (extract raw names).value = plain (clean raw.toList) := by
  by_cases hclean : clean raw.toList = []
  · right
    rw [extract_value, if_pos hclean, hclean]
    rfl
  · cases hfirst : firstModel? (clean raw.toList) names with
    | none =>
      right
      rw [extract_value, if_neg hclean, hfirst, Option.getD_none]
    | some model =>
      left
      obtain ⟨style, -, hparse⟩ := List.exists_of_findSome?_eq_some hfirst
      rw [extract_value, if_neg hclean, hfirst, Option.getD_some]
      refine ⟨style, hparse, ?_⟩
      rw [(toModel?_eq_some_iff.1 hparse).2]

/-- **The scan for markers never hides a layout.** Whatever lines and names are given, a layout that has a model of them
has a marker among them. So the model of a text is the first that tags, tables and sections have of its clean lines; if
none has one, the text has no parameters, no return value and no style, and all of it is its description. -/
theorem extract_eq_firstModel? (names : List String) :
    (∀ (style : Style) (ls : List Line) (model : Model),
      (style.parse? ls names).value = some model → style.detect ls = true) ∧
    ∀ raw : String,
      (∀ model, firstModel? (clean raw.toList) names = some model → (extract raw names).value = model) ∧
      (firstModel? (clean raw.toList) names = none →
        (extract raw names).value.params = [] ∧ (extract raw names).value.returns = none ∧
        (extract raw names).value.style = none ∧
        (extract raw names).value.description = String.ofList (prose (clean raw.toList))) := by
  refine ⟨fun style ls model => detect_of_parse?, fun raw => ⟨fun model hfirst => ?_, fun hnone => ?_⟩⟩
  · have hclean : clean raw.toList ≠ [] := by
      intro hnil
      rw [hnil, firstModel?_nil] at hfirst
      cases hfirst
    rw [extract_value, if_neg hclean, hfirst]
    rfl
  · rw [extract_value]
    by_cases hclean : clean raw.toList = []
    · rw [if_pos hclean, hclean]
      exact ⟨rfl, rfl, rfl, rfl⟩
    · rw [if_neg hclean, hnone]
      exact ⟨rfl, rfl, rfl, rfl⟩

/-- A type without a parameter is a marker of tags, but no finding: the section behind it is read. -/
theorem extract_typeOnly :
    (extract "Sum.\n\n:type a: int\n\nArgs:\n    a: First." ["a"]).value =
      ⟨"Sum.", "Sum.\n\n:type a: int", [("a", ⟨none, some "First."⟩)], none, some .headed⟩ :=
  ((extract_eq_firstModel? ["a"]).2 _).1 _ (by decide +kernel)

end ToolSchema.Docstring
