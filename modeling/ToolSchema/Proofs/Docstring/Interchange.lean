/-
The four layouts say the same.

`extract_write`: what is written in any of the layouts is extracted again, and the layouts differ in the type that they
write and in the style that is reported. Summaries and texts may be anything plain, in any script; the names are known
and different.
-/
import Mathlib.Data.List.Nodup
import ToolSchema.Docstring.Extract
import ToolSchema.Proofs.Docstring.Headed
import ToolSchema.Proofs.Docstring.Table
import ToolSchema.Proofs.Docstring.Tag

namespace ToolSchema.Docstring

open Text

variable {layout : Layout} {summary text : Line} {params : List (Line × Line)} {names : List String}

namespace Layout

/-- what a written text says: each text word by word, with the type of the layout -/
def model (layout : Layout) (summary : Line) (params : List (Line × Line)) : Model where
  summary := String.ofList (trim summary)
  description := String.ofList (trim summary)
  params := params.map fun p => (String.ofList p.1, ⟨layout.typeName, some (String.ofList ([' '].intercalate (words p.2)))⟩)
  returns := none
  style := some layout.style

/-! ## What is found -/

/-- an item as the layout finds it -/
def entry (p : Line × Line) : Layout → Entry
  | .tagged => ⟨p.1, none, [trim p.2]⟩
  | .headed => ⟨p.1, none, [trim p.2]⟩
  | .underlined => ⟨p.1, some ['s', 't', 'r'], [[' ', ' ', ' ', ' '] ++ p.2]⟩
  | .piped => ⟨p.1, some ['s', 't', 'r'], [trim p.2]⟩

theorem findings_lines (layout : Layout) (hsummary : isPlain summary = true) (hfits : Fits params) :
    layout.style.findings (layout.lines summary params) = ⟨[summary, []], params.map layout.entry, none⟩ := by
  cases layout with
  | tagged => exact Tag.findings_tagged hsummary hfits
  | headed => exact Headed.findings_headed hsummary hfits
  | underlined => exact Table.findings_underlined hsummary hfits
  | piped => exact Table.findings_piped hsummary hfits

theorem entry_name (p : Line × Line) : (layout.entry p).name = p.1 := by
  cases layout <;> rfl

/-- all layouts leave the same words of a text -/
theorem entry_doc {p : Line × Line} (htext : isPlain p.2 = true) :
    (layout.entry p).doc = ⟨layout.typeName, some (String.ofList ([' '].intercalate (words p.2)))⟩ := by
  have hblank := allBlank_of_isPlain htext
  have htrim : joinWords [trim p.2] = some ([' '].intercalate (words p.2)) := by
    rw [joinWords_singleton ((allBlank_trim p.2).trans hblank), words_trim]
  have hindented : joinWords [[' ', ' ', ' ', ' '] ++ p.2] = some ([' '].intercalate (words p.2)) := by
    rw [joinWords_singleton (allBlank_append_right hblank), words_append_left (by decide)]
  cases layout with
  | underlined =>
    simp only [entry, Entry.doc, ParamDoc.merge, hindented]
    rfl
  | _ =>
    simp only [entry, Entry.doc, ParamDoc.merge, htrim]
    rfl

/-! ## Which layout is taken -/

theorem detect_lines (layout : Layout) (hne : params ≠ []) (hfits : Fits params) :
    layout.style.detect (layout.lines summary params) = true := by
  cases layout with
  | tagged => exact Tag.detect_tagged hne hfits
  | headed => exact Headed.detect_headed summary params
  | underlined => exact Table.detect_underlined summary params
  | piped => exact Table.detect_piped summary params

/-- the styles that are tried before -/
def earlier : Layout → List Style
  | .tagged => []
  | .headed => [.tag, .table]
  | .underlined => [.tag]
  | .piped => [.tag]

/-- none of them sees a mark of its own -/
theorem detect_earlier (hsummary : isPlain summary = true) (hfits : Fits params) :
    ∀ style ∈ layout.earlier, style.detect (layout.lines summary params) = false := by
  have htag : layout ≠ .tagged → Style.detect .tag (layout.lines summary params) = false := fun h =>
    Tag.detect_eq_false h hsummary hfits
  cases layout with
  | tagged => nofun
  | headed =>
    rw [earlier, List.forall_mem_cons, List.forall_mem_cons]
    exact ⟨htag nofun, Table.detect_headed hsummary hfits, nofun⟩
  | underlined => rw [earlier, List.forall_mem_cons]; exact ⟨htag nofun, nofun⟩
  | piped => rw [earlier, List.forall_mem_cons]; exact ⟨htag nofun, nofun⟩

theorem exists_all_eq (layout : Layout) : ∃ later, Style.all = layout.earlier ++ layout.style :: later := by
  cases layout with
  | tagged => exact ⟨[.table, .headed], rfl⟩
  | headed => exact ⟨[], rfl⟩
  | underlined => exact ⟨[.headed], rfl⟩
  | piped => exact ⟨[.headed], rfl⟩

end Layout

/-- the first style that sees a mark and finds something decides -/
theorem select?_value {ls : List Line} {before later : List Style} {style : Style} {m : Model}
    (hbefore : ∀ s ∈ before, s.detect ls = false) (hdetect : style.detect ls = true)
    (hparse : (style.parse? ls names).value = some m) :
    (select? ls names (before ++ style :: later)).value = some m := by
  induction before with
  | nil =>
    rw [List.nil_append, select?, if_pos hdetect, Traced.bind_value, hparse]
    rfl
  | cons s rest ih =>
    rw [List.forall_mem_cons] at hbefore
    rw [List.cons_append, select?, if_neg (by simp [hbefore.1]), ih hbefore.2]

/-! ## The written text -/

namespace Layout

variable {layout : Layout} {summary : Line} {params : List (Line × Line)} {names : List String}

/-- the parameters as cleaning leaves them -/
def keptParams (layout : Layout) (params : List (Line × Line)) : List (Line × Line) :=
  params.map fun p => (p.1, layout.kept p.2)

theorem fits_keptParams (hfits : Fits params) : Fits (layout.keptParams params) := by
  intro q hq
  obtain ⟨p, hp, rfl⟩ := List.mem_map.1 hq
  obtain ⟨hname, htext⟩ := hfits p hp
  exact ⟨hname, isPlain_kept htext⟩

theorem keptParams_ne_nil (hne : params ≠ []) : layout.keptParams params ≠ [] := by
  intro hnil
  exact hne (List.map_eq_nil_iff.1 hnil)

theorem map_entry_name (layout : Layout) (params : List (Line × Line)) :
    (((layout.keptParams params).map layout.entry).map fun e => String.ofList e.name) =
      params.map fun p => String.ofList p.1 := by
  rw [keptParams, List.map_map, List.map_map]
  apply List.map_congr_left
  intro p _
  rw [Function.comp_apply, Function.comp_apply, entry_name]

/-- each entry says of its parameter what was written -/
theorem map_entry_doc (summary : Line) (hfits : Fits params) :
    (((layout.keptParams params).map layout.entry).map fun e => (String.ofList e.name, e.doc)) =
      (layout.model summary params).params := by
  rw [keptParams, List.map_map, List.map_map]
  apply List.map_congr_left
  intro p hp
  rw [Function.comp_apply, Function.comp_apply, entry_name, entry_doc (isPlain_kept (hfits p hp).2), words_kept]

theorem parse?_lines (hsummary : isPlain summary = true) (hne : params ≠ []) (hfits : Fits params)
    (hdistinct : (params.map Prod.fst).Nodup) (hknown : ∀ p ∈ params, String.ofList p.1 ∈ names) :
    (layout.style.parse? (layout.lines (trim summary) (layout.keptParams params)) names).value =
      some (layout.model summary params) := by
  have hplain : isPlain (trim summary) = true := isPlain_trim hsummary
  have hnonempty : trim summary ≠ [] := by
    obtain ⟨d, ds, htrim, -⟩ := exists_trim_eq_cons (allBlank_of_isPlain hsummary)
    rw [htrim]
    exact List.cons_ne_nil d ds
  have hentries : (layout.keptParams params).map layout.entry ≠ [] := fun hnil =>
    keptParams_ne_nil hne (List.map_eq_nil_iff.1 hnil)
  have hnames : ∀ e ∈ (layout.keptParams params).map layout.entry, String.ofList e.name ∈ names := by
    have hall : ∀ n ∈ params.map fun p => String.ofList p.1, n ∈ names := List.forall_mem_map.2 hknown
    rw [← map_entry_name layout] at hall
    exact List.forall_mem_map.1 hall
  have hnodup : (((layout.keptParams params).map layout.entry).map fun e => String.ofList e.name).Nodup := by
    have hstrings : ((params.map Prod.fst).map String.ofList).Nodup :=
      List.Nodup.map (fun _ _ h => String.ofList_injective h) hdistinct
    rw [map_entry_name]
    rwa [List.map_map] at hstrings
  rw [Style.parse?, findings_lines layout hplain (fits_keptParams hfits),
    toModel?_value hnonempty (trim_trim summary) (not_mem_of_isPlain hplain (by decide))
      (not_mem_of_isPlain hplain (by decide)) (not_mem_of_isPlain hplain (by decide)) hentries hnames hnodup,
    map_entry_doc summary hfits]
  rfl

end Layout

/-- **The layouts are interchangeable.** Written in any layout, a summary and different known parameters are extracted
again: the summary as summary and as description, and the parameters in their order, each with the words of its text. -/
theorem extract_write (layout : Layout) (hsummary : isPlain summary = true) (hne : params ≠ [])
    (hfits : Layout.Fits params) (hdistinct : (params.map Prod.fst).Nodup)
    (hknown : ∀ p ∈ params, String.ofList p.1 ∈ names) :
    (extract (layout.write summary params) names).value = layout.model summary params := by
  have hclean : clean (layout.write summary params).toList =
      layout.lines (trim summary) (layout.keptParams params) := Layout.clean_write hsummary hne hfits
  have hkept : Layout.Fits (layout.keptParams params) := Layout.fits_keptParams hfits
  have hselect : (select? (layout.lines (trim summary) (layout.keptParams params)) names Style.all).value =
      some (layout.model summary params) := by
    obtain ⟨later, hall⟩ := Layout.exists_all_eq layout
    rw [hall]
    exact select?_value (Layout.detect_earlier (isPlain_trim hsummary) hkept)
      (Layout.detect_lines layout (Layout.keptParams_ne_nil hne) hkept)
      (Layout.parse?_lines hsummary hne hfits hdistinct hknown)
  have hfilled : (layout.lines (trim summary) (layout.keptParams params)).isEmpty = false := rfl
  simp only [extract, hclean, hfilled, Bool.false_eq_true, if_false, Traced.bind_value, hselect, Traced.pure_value]

/-- what is left of two parameters that were written with more blanks than needed -/
theorem extract_weather :
    (extract (Layout.write .underlined "Get the weather. ".toList
        [("city".toList, "where to look".toList), ("days".toList, " how  many days".toList)]) ["city", "days"]).value =
      ⟨"Get the weather.", "Get the weather.",
        [("city", ⟨some "str", some "where to look"⟩), ("days", ⟨some "str", some "how many days"⟩)], none,
        some .table⟩ :=
  calc (extract (Layout.write .underlined _ _) _).value
    _ = Layout.model .underlined _ _ :=
      extract_write .underlined (by decide +kernel) (List.cons_ne_nil _ _) (by decide +kernel) (by decide +kernel)
        (by decide +kernel)
    _ = _ := by decide +kernel

end ToolSchema.Docstring
