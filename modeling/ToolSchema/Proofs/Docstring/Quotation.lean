/-
The words of what a layout finds.

A layout copies parts of lines into its findings and makes up no word of its own. So all words of the findings are words
of the lines, whatever the lines are.
- `Quotes.of_isInfix`: a part of a line has its words in the line.
- `Tag.quotes_findings`, `Headed.quotes_findings`, `Table.quotes_findings`: each layout quotes its lines.
- `quotes_findings`: and so do all of them.
-/
import ToolSchema.Proofs.Docstring.Detection
import ToolSchema.Proofs.Text.Parts

namespace ToolSchema.Docstring

open Text

variable {line part : Line} {ls : List Line}

/-! ## Words of lines -/

/-- every word of the part stands in one of the lines -/
def Quotes (ls : List Line) (part : Line) : Prop :=
  ∀ w ∈ words part, ∃ l ∈ ls, w <:+: l

theorem Quotes.of_isInfix (hline : line ∈ ls) (h : part <:+: line) : Quotes ls part := by
  intro w hw
  exact ⟨line, hline, (mem_words hw).2.2.trans h⟩

theorem Quotes.of_mem (h : line ∈ ls) : Quotes ls line :=
  .of_isInfix h (List.infix_refl line)

theorem Quotes.nil (ls : List Line) : Quotes ls [] := by
  intro w hw
  cases hw

/-- all texts of the findings quote the lines -/
structure Findings.Quotes (ls : List Line) (f : Findings) : Prop where
  entries : ∀ e ∈ f.entries, ∀ part ∈ e.text, Docstring.Quotes ls part
  returns : ∀ parts, f.returns = some parts → ∀ part ∈ parts, Docstring.Quotes ls part

theorem mem_of_flattenSome {parts : List (List Line)} {text : List Line} (h : flattenSome parts = some text)
    (hpart : part ∈ text) : ∃ lines ∈ parts, part ∈ lines := by
  rw [flattenSome] at h
  split at h
  · cases h
  · cases h
    exact List.mem_flatten.1 hpart

/-- what follows a head is among the items -/
theorem subset_of_mem_blocks {α β : Type} {head? : α → Option β} {as : List α} {block : β × List α}
    (h : block ∈ blocks head? as) : block.2 ⊆ as := by
  induction as with
  | nil => exact absurd h List.not_mem_nil
  | cons a rest ih =>
    have hlater : block ∈ blocks head? rest → block.2 ⊆ a :: rest := by
      intro hmem x hx
      exact List.mem_cons_of_mem a (ih hmem hx)
    rw [blocks] at h
    cases hhead : head? a with
    | none =>
      rw [hhead] at h
      exact hlater h
    | some b =>
      rw [hhead] at h
      rcases List.mem_cons.1 h with rfl | h
      · intro x hx
        exact List.mem_cons_of_mem a ((List.takeWhile_sublist _).subset hx)
      · exact hlater h

/-! ## Tags -/

namespace Tag

/-- the text of a tag is the end of its line -/
theorem infix_of_ofLine? {tag : Tag} (h : ofLine? line = some tag) :
    (∀ name typeName text, tag = .param name typeName text → text <:+: line) ∧
      ∀ text, tag = .returns text → text <:+: line := by
  simp only [ofLine?, Option.bind_eq_bind, Option.bind_eq_some_iff] at h
  obtain ⟨rest, hrest, ⟨head, after⟩, hsplit, htag⟩ := h
  have hafter : trim after <:+: line := by
    have hlater : rest <:+: trim line := by
      rw [eq_append_of_dropPrefix? hrest]
      exact (List.suffix_append [':'] rest).isInfix
    exact (trim_isInfix after).trans ((infix_of_splitOnce hsplit).trans (hlater.trans (trim_isInfix line)))
  simp only at htag
  split at htag
  · cases htag
  · split at htag
    · simp only [ofParam?, Option.bind_eq_bind, Option.bind_eq_some_iff] at htag
      obtain ⟨name, -, htag⟩ := htag
      split at htag <;> cases htag <;> simp [hafter]
    · split at htag
      · obtain ⟨name, -, rfl⟩ := Option.map_eq_some_iff.1 htag
        simp
      · split at htag <;> cases htag <;> simp [hafter]

/-- types are assigned, texts stay -/
theorem exists_text_of_mem_foldl_assign {typings : List (Line × Line)} {entries : List Entry} {e : Entry}
    (h : e ∈ typings.foldl (fun entries t => assign entries t.1 t.2) entries) : ∃ e' ∈ entries, e'.text = e.text := by
  have hassign : ∀ {name typeName : Line} {entries : List Entry} {e : Entry}, e ∈ assign entries name typeName →
      ∃ e' ∈ entries, e'.text = e.text := by
    intro name typeName entries e h
    induction entries with
    | nil => exact absurd h List.not_mem_nil
    | cons first rest ih =>
      rw [assign] at h
      split at h
      · rcases List.mem_cons.1 h with rfl | h
        · exact ⟨first, List.mem_cons_self, rfl⟩
        · exact ⟨e, List.mem_cons_of_mem first h, rfl⟩
      · rcases List.mem_cons.1 h with rfl | h
        · exact ⟨e, List.mem_cons_self, rfl⟩
        · obtain ⟨e', hmem, htext⟩ := ih h
          exact ⟨e', List.mem_cons_of_mem first hmem, htext⟩
  induction typings generalizing entries with
  | nil => exact ⟨e, h, rfl⟩
  | cons t rest ih =>
    obtain ⟨e', hmem, htext⟩ := ih h
    obtain ⟨e'', hmem', htext'⟩ := hassign hmem
    exact ⟨e'', hmem', htext'.trans htext⟩

theorem quotes_findings (ls : List Line) : (findings ls).Quotes ls where
  entries := by
    intro e he part hpart
    obtain ⟨e', hmem, htext⟩ := exists_text_of_mem_foldl_assign he
    rw [← htext] at hpart
    obtain ⟨⟨tag, more⟩, hblock, hentry⟩ := List.mem_filterMap.1 hmem
    obtain ⟨line, hline, htag⟩ := exists_head_of_mem_blocks hblock
    cases tag with
    | param name typeName text =>
      cases hentry
      rcases List.mem_cons.1 hpart with rfl | hpart
      · exact .of_isInfix hline ((infix_of_ofLine? htag).1 _ _ _ rfl)
      · exact .of_mem (subset_of_mem_blocks hblock hpart)
    | _ => cases hentry
  returns := by
    intro parts hparts part hpart
    obtain ⟨lines, hlines, hmem⟩ := mem_of_flattenSome hparts hpart
    obtain ⟨⟨tag, more⟩, hblock, htext⟩ := List.mem_filterMap.1 hlines
    obtain ⟨line, hline, htag⟩ := exists_head_of_mem_blocks hblock
    cases tag with
    | returns text =>
      cases htext
      rcases List.mem_cons.1 hmem with rfl | hmem
      · exact .of_isInfix hline ((infix_of_ofLine? htag).2 _ rfl)
      · exact .of_mem (subset_of_mem_blocks hblock hmem)
    | _ => cases htext

end Tag

/-! ## Sections -/

namespace Headed

theorem infix_of_headerAt? {isFirst : Bool} {header : Header × Line} (h : headerAt? isFirst line = some header) :
    header.2 <:+: line := by
  have hheader : Header.ofLine? line = some header := (Option.filter_eq_some_iff.1 h).1
  simp only [Header.ofLine?, Option.bind_eq_bind, Option.bind_eq_some_iff] at hheader
  obtain ⟨⟨title, rest⟩, hsplit, hkind⟩ := hheader
  have hrest : trim rest <:+: line := (trim_isInfix rest).trans ((infix_of_splitOnce hsplit).trans (trim_isInfix line))
  simp only at hkind
  repeat' split at hkind
  all_goals cases hkind
  all_goals exact hrest

/-- the text of an item is the end of its line -/
theorem infix_of_item? {e : Entry} (h : item? line = some e) : ∀ part ∈ e.text, part <:+: line := by
  simp only [item?, Option.bind_eq_bind, Option.bind_eq_some_iff] at h
  obtain ⟨⟨head, text⟩, hsplit, hentry⟩ := h
  have htext : ∀ part ∈ [trim text], part <:+: line := by
    intro part hpart
    rw [List.mem_singleton.1 hpart]
    exact (trim_isInfix text).trans ((infix_of_splitOnce hsplit).trans (trim_isInfix line))
  have hnamed : ∀ {name : Line} {typeName : Option Line},
      (if isIdentifier (bareName name) then some (Entry.mk (bareName name) typeName [trim text]) else none) = some e →
        e.text = [trim text] := by
    intro name typeName hnamed
    split at hnamed
    · cases hnamed
      rfl
    · cases hnamed
  suffices e.text = [trim text] by rwa [this]
  simp only at hentry
  split at hentry
  · exact hnamed hentry
  · split at hentry
    · exact hnamed hentry
    · cases hentry

theorem quotes_entries {body : List Line} {e : Entry} (h : e ∈ entries body) : ∀ part ∈ e.text, Quotes body part := by
  intro part hpart
  rw [entries] at h
  split at h
  · cases h
  · next first rest hfilled =>
    have hsub : first :: rest ⊆ body := by
      rw [← hfilled]
      exact List.filter_sublist.subset
    obtain ⟨⟨e', more⟩, hblock, rfl⟩ := List.mem_map.1 h
    rcases List.mem_append.1 hpart with hpart | hpart
    · obtain ⟨line, hline, hitem⟩ := exists_head_of_mem_blocks hblock
      split at hitem
      · exact .of_isInfix (hsub hline) (infix_of_item? hitem part hpart)
      · cases hitem
    · exact .of_mem (hsub (subset_of_mem_blocks hblock hpart))

/-- a section is made of lines, and the text of its header is the end of one -/
theorem subset_of_mem_sections {isFirst : Bool} {s : Section} (h : s ∈ sections isFirst ls) :
    s.body ⊆ ls ∧ ∃ line ∈ ls, s.inline <:+: line := by
  have hlater : ∀ {line : Line} {rest behind : List Line}, behind ⊆ rest →
      (s.body ⊆ behind ∧ ∃ l ∈ behind, s.inline <:+: l) → s.body ⊆ line :: rest ∧ ∃ l ∈ line :: rest, s.inline <:+: l := by
    rintro line rest behind hsub ⟨hbody, l, hl, hinline⟩
    refine ⟨fun x hx => List.mem_cons_of_mem line (hsub (hbody hx)), l, List.mem_cons_of_mem line (hsub hl), hinline⟩
  fun_induction sections isFirst ls with
  | case1 => exact absurd h List.not_mem_nil
  | case2 isFirst line rest hnone ih => exact hlater (List.Subset.refl rest) (ih h)
  | case3 isFirst line rest header inline hheader ih =>
    rcases List.mem_cons.1 h with rfl | h
    · refine ⟨fun x hx => List.mem_cons_of_mem line ((List.takeWhile_sublist _).subset hx), line, List.mem_cons_self, ?_⟩
      exact infix_of_headerAt? hheader
    · exact hlater (List.dropWhile_sublist _).subset (ih h)

theorem quotes_findings (ls : List Line) : (findings ls).Quotes ls where
  entries := by
    intro e he part hpart
    obtain ⟨s, hs, hentry⟩ := List.mem_flatMap.1 he
    have hbody := (subset_of_mem_sections (List.mem_filter.1 hs).1).1
    intro w hw
    obtain ⟨l, hl, hword⟩ := quotes_entries hentry part hpart w hw
    exact ⟨l, hbody hl, hword⟩
  returns := by
    intro parts hparts part hpart
    obtain ⟨lines, hlines, hmem⟩ := mem_of_flattenSome hparts hpart
    obtain ⟨s, hs, htext⟩ := List.mem_filterMap.1 hlines
    obtain ⟨hbody, line, hline, hinline⟩ := subset_of_mem_sections hs
    rw [returnText?] at htext
    split at htext
    · cases htext
      rcases List.mem_append.1 hmem with hmem | hmem
      · split at hmem
        · cases hmem
        · rw [List.mem_singleton.1 hmem]
          exact .of_isInfix hline hinline
      · exact .of_mem (hbody hmem)
    · cases htext

end Headed

/-! ## Titles and tables -/

namespace Table

theorem cells_isInfix {cells : List Line} (h : cells? line = some cells) : ∀ cell ∈ cells, cell <:+: line := by
  simp only [cells?, Option.bind_eq_bind, Option.bind_eq_some_iff] at h
  obtain ⟨inner, hinner, hcells⟩ := h
  have hrow : inner <:+: line := by
    have hlater : inner <:+: trim line := by
      rw [eq_append_of_dropPrefix? hinner]
      exact (List.suffix_append ['|'] inner).isInfix
    exact hlater.trans (trim_isInfix line)
  have hpiped : (if inner.getLast? = some '|' then inner.dropLast else inner) <:+: line := by
    split
    · exact (List.dropLast_prefix inner).isInfix.trans hrow
    · exact hrow
  cases hcells
  intro cell hcell
  obtain ⟨piece, hpiece, rfl⟩ := List.mem_map.1 hcell
  exact (trim_isInfix piece).trans ((infix_of_mem_splitOn hpiece).trans hpiped)

/-- a cell that a short row lacks is empty -/
theorem quotes_cell {cells : List Line} (h : cells? line = some cells) (hline : line ∈ ls) (position : Nat) :
    Quotes ls (cell cells position) := by
  rw [cell]
  cases hcell : cells[position]? with
  | none => exact .nil ls
  | some c => exact .of_isInfix hline (cells_isInfix h c (List.mem_of_getElem? hcell))

theorem body_subset (ls : List Line) : body ls ⊆ ls := by
  induction ls with
  | nil => exact List.Subset.refl []
  | cons line rest ih =>
    rw [body]
    split
    · exact List.nil_subset _
    · exact List.cons_subset_cons line ih

def Block.lines : Block → List Line
  | .titled _ _ body => body
  | .table _ rows => rows

theorem subset_of_mem_table_blocks {b : Block} (h : b ∈ blocks ls) : b.lines ⊆ ls := by
  have hlater : ∀ {line : Line} {rest behind : List Line}, behind ⊆ rest → b.lines ⊆ behind → b.lines ⊆ line :: rest := by
    intro line rest behind hsub hlines x hx
    exact List.mem_cons_of_mem line (hsub (hlines hx))
  fun_induction blocks ls with
  | case1 => exact absurd h List.not_mem_nil
  | case2 line rest title htitle ih =>
    rcases List.mem_cons.1 h with rfl | h
    · exact hlater (List.drop_subset 1 rest) (body_subset _)
    · exact hlater (List.Subset.trans (afterBody_suffix _).subset (List.drop_subset 1 rest)) (ih h)
  | case3 line rest htitle columns hcolumns ih =>
    rcases List.mem_cons.1 h with rfl | h
    · exact hlater (List.takeWhile_sublist _).subset (List.Subset.refl _)
    · exact hlater (List.dropWhile_sublist _).subset (ih h)
  | case4 line rest htitle hcolumns ih => exact hlater (List.Subset.refl rest) (ih h)

theorem quotes_titledEntries {level : Nat} {e : Entry} (h : e ∈ titledEntries level ls) :
    ∀ part ∈ e.text, Quotes ls part := by
  intro part hpart
  obtain ⟨⟨⟨names, typeName⟩, more⟩, hblock, hentry⟩ := List.mem_flatMap.1 h
  obtain ⟨name, -, rfl⟩ := List.mem_map.1 hentry
  exact .of_mem (List.filter_sublist.subset (subset_of_mem_blocks hblock hpart))

theorem quotes_rowEntries {columns : Columns} {e : Entry} (h : e ∈ rowEntries columns ls) :
    ∀ part ∈ e.text, Quotes ls part := by
  -- every row of the table comes from one of the lines
  have hrow : ∀ {cells}, cells ∈ (ls.filterMap cells?).filter (!isSeparator ·) →
      ∀ position, Quotes ls (cell cells position) := by
    intro cells hcells position
    obtain ⟨line, hline, hcut⟩ := List.mem_filterMap.1 (List.mem_filter.1 hcells).1
    exact quotes_cell hcut hline position
  intro part hpart
  obtain ⟨⟨⟨name, cells⟩, more⟩, hblock, hentry⟩ := List.mem_filterMap.1 h
  obtain ⟨head, hhead, hnamed⟩ := exists_head_of_mem_blocks hblock
  simp only at hnamed hentry
  split at hentry
  · cases hentry
    obtain ⟨row, hmem, rfl⟩ := List.mem_map.1 hpart
    rcases List.mem_cons.1 hmem with rfl | hmem
    · split at hnamed
      · cases hnamed
      · cases hnamed
        exact hrow hhead _
    · exact hrow (subset_of_mem_blocks hblock hmem) _
  · cases hentry

theorem titledReturns_subset (level : Nat) (ls : List Line) : titledReturns level ls ⊆ ls := by
  rw [titledReturns]
  split
  · exact List.filter_sublist.subset
  · exact (List.filter_sublist.trans List.filter_sublist).subset

theorem quotes_findings (ls : List Line) : (findings ls).Quotes ls where
  entries := by
    intro e he part hpart w hw
    obtain ⟨b, hb, hentry⟩ := List.mem_flatMap.1 he
    have hquotes : Quotes b.lines part := by
      cases b with
      | titled title level body =>
        cases title with
        | params => exact quotes_titledEntries hentry part hpart
        | _ => cases hentry
      | table columns rows => exact quotes_rowEntries hentry part hpart
    obtain ⟨l, hl, hword⟩ := hquotes w hw
    exact ⟨l, subset_of_mem_table_blocks hb hl, hword⟩
  returns := by
    intro parts hparts part hpart
    obtain ⟨lines, hlines, hmem⟩ := mem_of_flattenSome hparts hpart
    obtain ⟨b, hb, htext⟩ := List.mem_filterMap.1 hlines
    cases b with
    | titled title level body =>
      cases title with
      | returns =>
        cases htext
        exact .of_mem (subset_of_mem_table_blocks hb (titledReturns_subset level body hmem))
      | _ => cases htext
    | table columns rows => cases htext

end Table

/-- **Layouts quote their lines.** -/
theorem quotes_findings (style : Style) (ls : List Line) : (style.findings ls).Quotes ls := by
  cases style with
  | tag => exact Tag.quotes_findings ls
  | table => exact Table.quotes_findings ls
  | headed => exact Headed.quotes_findings ls

end ToolSchema.Docstring
