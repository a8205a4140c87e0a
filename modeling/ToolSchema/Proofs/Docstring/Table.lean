/-
Columns in written texts.

`Table.findings_underlined` and `Table.findings_piped`: of a text with an underlined title or with a table, every item is
found as it was written. `Table.detect_headed`: a text with a parameter section has neither.
-/
import ToolSchema.Proofs.Docstring.Columns
import ToolSchema.Proofs.Docstring.Listings

namespace ToolSchema.Docstring.Table

open Text

variable {name text summary : Line} {ls rest : List Line} {params : List (Line × Line)}

/-! ## Prose and sections -/

theorem detect_eq_false (h : ∀ l ∈ ls, Ordinary l) : detect ls = false := by
  induction ls with
  | nil => rfl
  | cons line rest ih =>
    obtain ⟨hline, hrest⟩ := List.forall_mem_cons.1 h
    have htitle : title? (line :: rest) = none := title?_eq_none hrest
    rw [detect, ih hrest, isMarker, htitle, List.head?_cons, Option.bind_some, hline.columns]
    rfl

/-- a text with a parameter section has no columns -/
theorem detect_headed (hsummary : isPlain summary = true) (hfits : Layout.Fits params) :
    detect (Layout.lines .headed summary params) = false := by
  apply detect_eq_false
  have hargs : Ordinary "Args:".toList := ⟨rfl, rfl⟩
  rw [Layout.lines, List.forall_mem_cons, List.forall_mem_cons, List.forall_mem_append]
  refine ⟨ordinary_of_unmarked (unmarked_of_isPlain hsummary), ordinary_nil, ?_, fun l hl => ?_⟩
  · intro l hl
    rw [List.mem_singleton.1 hl]
    exact hargs
  · exact ordinary_of_unmarked (Layout.unmarked_of_mem_items hfits (.inl rfl) l hl)

/-- a line of prose and an empty line -/
theorem unmarked_before (hsummary : isPlain summary = true) : Style.Unmarked .table true [summary, []] := by
  apply unmarked_of_ordinary
  rw [List.forall_mem_cons, List.forall_mem_singleton]
  exact ⟨ordinary_of_unmarked (unmarked_of_isPlain hsummary), ordinary_nil⟩

theorem detect_before (hrest : detect rest = true) : detect (summary :: [] :: rest) = true := by
  rw [detect, detect, hrest, Bool.or_true, Bool.or_true]

/-! ## Underlined titles -/

/-- an item of a written text -/
def writtenGroup (p : Line × Line) (hfits : isIdentifier p.1 = true ∧ isPlain p.2 = true) : Group where
  listed := [p.1]
  typeName := some ['s', 't', 'r']
  more := [[' ', ' ', ' ', ' '] ++ p.2]
  filled := List.cons_ne_nil _ _
  identifiers := by
    rw [List.forall_mem_singleton, trim_of_isIdentifier hfits.1]
    exact hfits.1
  typed := by
    rintro t ⟨⟩
    exact ⟨List.cons_ne_nil _ _, by decide⟩
  margin := by
    rw [listingLine, List.intercalate_singleton, List.append_assoc]
    exact indent_of_isIdentifier hfits.1 _
  deeper := by
    rw [List.forall_mem_singleton]
    right
    simp only [List.cons_append, indent_cons_space]
    omega
  unmarked := by
    have htext : Unmarked ([' ', ' ', ' ', ' '] ++ p.2) := (unmarked_of_isPlain hfits.2).indented (by decide)
    rw [List.forall_mem_singleton]
    exact ⟨isUnderline_eq_false htext, isRow_eq_false htext⟩

theorem titledEntries_items (hfits : Layout.Fits params) :
    titledEntries 0 (Layout.items .underlined params) =
      params.map fun p => ⟨p.1, some ['s', 't', 'r'], [[' ', ' ', ' ', ' '] ++ p.2]⟩ := by
  have hwritten : ∀ p ∈ params, isIdentifier p.1 = true ∧ isPlain p.2 = true := hfits
  have hlines : Layout.items .underlined params = (params.pmap writtenGroup hwritten).flatMap Group.lines := by
    refine Layout.items_eq_flatMap_pmap hwritten fun p hp => ?_
    rw [Layout.itemLine_underlined, Layout.moreLines_underlined, Group.lines, Group.line, writtenGroup, listingLine,
      List.intercalate_singleton]
  have hentries : ∀ p hp, (writtenGroup p hp).entries = [⟨p.1, some ['s', 't', 'r'], [[' ', ' ', ' ', ' '] ++ p.2]⟩] := by
    intro p hp
    simp [Group.entries, Group.names, writtenGroup, trim_of_isIdentifier hp.1]
  rw [hlines, titledEntries_lines, List.flatMap_def, Layout.map_pmap_eq_map hwritten hentries, ← List.flatMap_def,
    List.map_eq_flatMap]

theorem lines_underlined (summary : Line) (params : List (Line × Line)) :
    Layout.lines .underlined summary params =
      summary :: [] :: "Parameters".toList :: "----------".toList :: Layout.items .underlined params :=
  rfl

/-- **A text with an underlined title is found as it was written.** -/
theorem findings_underlined (hsummary : isPlain summary = true) (hfits : Layout.Fits params) :
    findings (Layout.lines .underlined summary params) =
      ⟨[summary, []], params.map fun p => ⟨p.1, some ['s', 't', 'r'], [[' ', ' ', ' ', ' '] ++ p.2]⟩, none⟩ := by
  have hitems : ∀ l ∈ Layout.items .underlined params, Ordinary l := fun l hl =>
    ordinary_of_unmarked (Layout.unmarked_of_mem_items hfits (.inr rfl) l hl)
  have htitle : Title.ofText (trim "Parameters".toList) = .params := by decide +kernel
  have hmargin : indent "Parameters".toList = 0 := rfl
  have hunderline : isUnderline "----------".toList = true := rfl
  have hfindings := findings_titled (unmarked_before hsummary) htitle hunderline hitems
  rw [hmargin, titledEntries_items hfits] at hfindings
  exact hfindings

theorem detect_underlined (summary : Line) (params : List (Line × Line)) :
    detect (Layout.lines .underlined summary params) = true := by
  rw [lines_underlined]
  apply detect_before
  rw [detect, isMarker, title?_params (by decide +kernel) rfl]
  rfl

/-! ## Tables -/

theorem cells?_itemLine (hname : isIdentifier name = true) (htext : isPlain text = true) :
    cells? (Layout.itemLine name text .piped) = some [name, ['s', 't', 'r'], trim text] := by
  have hname' : '|' ∉ ' ' :: name ++ [' '] := by
    have hpipe : '|' ∉ name := not_mem_of_isIdentifier hname (by decide)
    simp [hpipe]
  have htext' : '|' ∉ ' ' :: text ++ [' '] := by
    have hpipe : '|' ∉ text := not_mem_of_isPlain htext (by decide)
    simp [hpipe]
  have hcells : ∀ c ∈ [' ' :: name ++ [' '], [' ', 's', 't', 'r', ' '], ' ' :: text ++ [' ']], '|' ∉ c := by
    rw [List.forall_mem_cons, List.forall_mem_cons, List.forall_mem_singleton]
    exact ⟨hname', by decide, htext'⟩
  have hline : Layout.itemLine name text .piped = [] ++ '|' :: (['|'].intercalate
      [' ' :: name ++ [' '], [' ', 's', 't', 'r', ' '], ' ' :: text ++ [' ']] ++ ['|']) := by
    rw [Layout.itemLine_piped, List.intercalate_cons_cons, List.intercalate_cons_cons, List.intercalate_singleton]
    simp
  have htrim : ∀ cs, trim (' ' :: cs ++ [' ']) = trim cs := by
    intro cs
    rw [trim_append_right (by decide)]
    exact trim_append_of_allBlank (a := [' ']) (by decide)
  have htype : trim [' ', 's', 't', 'r', ' '] = ['s', 't', 'r'] := by decide
  rw [hline, cells?_row rfl (List.cons_ne_nil _ _) hcells]
  simp only [List.map_cons, List.map_nil, htrim, htype, trim_of_isIdentifier hname]

/-- a row with a name is no separator -/
theorem isSeparator_eq_false (hname : isIdentifier name = true) (cells : List Line) :
    isSeparator (name :: cells) = false := by
  obtain ⟨d, ds, rfl⟩ := exists_cons_of_isIdentifier hname
  have hd : continuesIdentifier d = true := continuesIdentifier_of_mem hname List.mem_cons_self
  have hdash : (d == '-') = false := beq_eq_false_iff_ne.2 (ne_of_continuesIdentifier hd (by decide))
  have hcolon : (d == ':') = false := beq_eq_false_iff_ne.2 (ne_of_continuesIdentifier hd (by decide))
  simp [isSeparator, hdash, hcolon]

/-- the cells of an item -/
def row (p : Line × Line) : List Line :=
  [p.1, ['s', 't', 'r'], trim p.2]

theorem cells_items (hfits : Layout.Fits params) :
    (Layout.items .piped params).filterMap cells? = params.map row := by
  have hitems : Layout.items .piped params = params.map fun p => Layout.itemLine p.1 p.2 .piped :=
    List.map_eq_flatMap.symm
  rw [hitems, List.filterMap_map]
  apply filterMap_eq_map_of_forall
  intro p hp
  obtain ⟨hname, htext⟩ := hfits p hp
  exact cells?_itemLine hname htext

theorem rowEntries_items (hfits : Layout.Fits params) :
    rowEntries ⟨0, some 1, 2⟩ ("|---|---|---|".toList :: Layout.items .piped params) =
      params.map fun p => ⟨p.1, some ['s', 't', 'r'], [trim p.2]⟩ := by
  have hseparator : cells? "|---|---|---|".toList = some [['-', '-', '-'], ['-', '-', '-'], ['-', '-', '-']] := rfl
  have hfilter : (params.map row).filter (!isSeparator ·) = params.map row := by
    rw [List.filter_eq_self, List.forall_mem_map]
    intro p hp
    rw [row, isSeparator_eq_false (hfits p hp).1]
    rfl
  have hreading : ∀ p ∈ params, (Reading.ofCells ⟨0, some 1, 2⟩ ∘ row) p = ⟨p.1, some ['s', 't', 'r'], trim p.2⟩ := by
    intro p hp
    have hbare : bareName (cell (row p) 0) = p.1 := bareName_eq (trim_of_isIdentifier (hfits p hp).1) (hfits p hp).1
    rw [Function.comp_apply, Reading.ofCells, hbare]
    rfl
  have hnamed : ∀ r ∈ params.map fun p => (⟨p.1, some ['s', 't', 'r'], trim p.2⟩ : Reading), isIdentifier r.name = true :=
    List.forall_mem_map.2 fun p hp => (hfits p hp).1
  rw [rowEntries_eq, List.filterMap_cons, hseparator]
  simp only [cells_items hfits]
  rw [List.filter_cons_of_neg (by decide), hfilter, List.map_map, List.map_congr_left hreading,
    Reading.entries_eq_map hnamed, List.map_map]
  rfl

theorem columns?_heading : columns? "| Name | Type | Description |".toList = some ⟨0, some 1, 2⟩ := by
  have hcells : cells? "| Name | Type | Description |".toList =
      some ["Name".toList, "Type".toList, "Description".toList] := rfl
  have hname : column? nameColumns ["Name".toList, "Type".toList, "Description".toList] = some 0 := rfl
  have htype : column? typeColumns ["Name".toList, "Type".toList, "Description".toList] = some 1 := rfl
  have hdescription : column? descriptionColumns ["Name".toList, "Type".toList, "Description".toList] = some 2 := rfl
  rw [columns?, hcells, Option.bind_eq_bind, Option.bind_some, hname, hdescription, htype]
  rfl

theorem isRow_of_mem_rows (hfits : Layout.Fits params) :
    ∀ l ∈ "|---|---|---|".toList :: Layout.items .piped params, isRow l = true := by
  have hseparator : isRow "|---|---|---|".toList = true := rfl
  rw [List.forall_mem_cons]
  refine ⟨hseparator, fun l hl => ?_⟩
  obtain ⟨p, hp, hl⟩ := List.mem_flatMap.1 hl
  rw [List.mem_singleton.1 hl, isRow, cells?_itemLine (hfits p hp).1 (hfits p hp).2]
  rfl

theorem lines_piped (summary : Line) (params : List (Line × Line)) :
    Layout.lines .piped summary params =
      summary :: [] :: "| Name | Type | Description |".toList :: "|---|---|---|".toList :: Layout.items .piped params :=
  rfl

/-- **A text with a table is found as it was written.** -/
theorem findings_piped (hsummary : isPlain summary = true) (hfits : Layout.Fits params) :
    findings (Layout.lines .piped summary params) =
      ⟨[summary, []], params.map fun p => ⟨p.1, some ['s', 't', 'r'], [trim p.2]⟩, none⟩ := by
  have hfindings := findings_table (unmarked_before hsummary) columns?_heading (isRow_of_mem_rows hfits)
  rw [rowEntries_items hfits] at hfindings
  exact hfindings

theorem detect_piped (summary : Line) (params : List (Line × Line)) :
    detect (Layout.lines .piped summary params) = true := by
  rw [lines_piped]
  apply detect_before
  rw [detect, isMarker, List.head?_cons, Option.bind_some, columns?_heading, Option.isSome_some, Bool.or_true,
    Bool.true_or]

end ToolSchema.Docstring.Table
