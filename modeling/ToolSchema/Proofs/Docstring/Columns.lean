/-
Tables between pipes.

What is found in a table depends on three cells of each row: the name, the type and the description. The header says in
which columns they are.
- `findings_table`: prose with a table behind it has the rows of the table as its entries.
- `cells?_row`: a row is read cell by cell.
- `rowEntries_eq`: the entries depend on what is read of each row (`Reading`).
- `Grid`: a table as it is written, all rows with the same number of columns. `Grid.pick` takes columns out of it.
- `findings_lines`: what is found in such a table.
- `findings_pick`: columns that no heading of the header names may be left out, and the others may stand in any order.
- `parse?_columns`: so the order of the columns does not matter, and neither does one more column.
-/
import Mathlib.Data.Fin.VecNotation
import Mathlib.Data.Fintype.Basic
import ToolSchema.Proofs.Docstring.Findings
import ToolSchema.Proofs.Docstring.Marker

namespace ToolSchema.Docstring.Table

open Text

variable {isFirst : Bool} {header : Line} {prose : List Line}

/-! ## Texts with a table -/

/-- a row begins with a pipe, so it is not made of dashes -/
theorem isUnderline_eq_false_of_isRow {line : Line} (h : isRow line = true) : isUnderline line = false := by
  have hpipe : (trim line).head? = some '|' := by
    by_contra hpipe
    rw [isRow, cells?, dropPrefix?_eq_none hpipe] at h
    cases h
  obtain ⟨more, hline⟩ := List.head?_eq_some_iff.1 hpipe
  rw [isUnderline, hline]
  exact Bool.and_false _

theorem isRow_of_columns? {columns : Columns} (h : columns? header = some columns) : isRow header = true := by
  rw [isRow]
  cases hcells : cells? header with
  | some cells => rfl
  | none =>
    rw [columns?, hcells] at h
    cases h

/-- **A table is found behind its prose.** The lines of the prose are no rows of it, and all its rows are. -/
theorem findings_table {rows : List Line} {columns : Columns} (hprose : Style.Unmarked .table isFirst prose)
    (hheader : columns? header = some columns) (hrows : ∀ l ∈ rows, isRow l = true) :
    findings (prose ++ header :: rows) = ⟨prose, rowEntries columns rows, none⟩ := by
  have hnext : ∀ l ∈ (header :: rows).head?, isUnderline l = false := by
    rintro l ⟨⟩
    exact isUnderline_eq_false_of_isRow (isRow_of_columns? hheader)
  have htitle : title? (header :: rows) = none := by
    cases rows with
    | nil => rfl
    | cons row rest =>
      have hrow : isUnderline row = false := isUnderline_eq_false_of_isRow (hrows row List.mem_cons_self)
      rw [title?, hrow, if_pos (by simp)]
  have hstart : startsBlock (header :: rows) = true := by
    rw [startsBlock, htitle, List.head?_cons, Option.bind_some, hheader]
    rfl
  have htake := List.takeWhile_eq_self_iff.2 hrows
  have hdrop := List.dropWhile_eq_nil_iff.2 hrows
  have hblocks : blocks (prose ++ header :: rows) = [.table columns rows] := by
    rw [blocks_prose_append hprose hnext, blocks, htitle, hheader]
    simp only [htake, hdrop, blocks]
  rw [findings, hblocks, body_before hprose hnext hstart]
  simp only [List.flatMap_singleton, Block.entries]
  rfl

/-! ## Rows -/

/-- a row is read cell by cell -/
theorem cells?_row {lead : Line} {cells : List Line} (hlead : allBlank lead = true) (hne : cells ≠ [])
    (hcells : ∀ c ∈ cells, '|' ∉ c) :
    cells? (lead ++ '|' :: (['|'].intercalate cells ++ ['|'])) = some (cells.map trim) := by
  have htrim : trim (lead ++ '|' :: (['|'].intercalate cells ++ ['|'])) =
      ['|'] ++ (['|'].intercalate cells ++ ['|']) := by
    rw [trim_append_of_allBlank hlead, trim_cons (by decide), trimEnd_append (by decide)]
    rfl
  rw [cells?, htrim, dropPrefix?_append, Option.bind_eq_bind, Option.bind_some, List.getLast?_concat, if_pos rfl,
    List.dropLast_concat]
  simp only [splitOn_intercalate hne hcells]
  rfl

/-- a cell as the rows have them that separate the header from the rest -/
def isRule (cell : Line) : Bool :=
  !cell.isEmpty && cell.all fun c => c == '-' || c == ':'

/-- what is read of a row -/
structure Reading where
  name : Line
  typeName : Option Line
  text : Line

def Reading.ofCells (columns : Columns) (cells : List Line) : Reading :=
  ⟨bareName (cell cells columns.name), typeOf? columns cells, cell cells columns.description⟩

/-- the entries of rows that were read already; a row without a name continues the row above -/
def Reading.entries (readings : List Reading) : List Entry :=
  (Docstring.blocks (fun r : Reading => if r.name.isEmpty then none else some r) readings).filterMap fun (r, more) =>
    if isIdentifier r.name then some ⟨r.name, r.typeName, (r :: more).map Reading.text⟩ else none

/-- **Entries depend on what is read of each row.** -/
theorem rowEntries_eq (columns : Columns) (rows : List Line) :
    rowEntries columns rows =
      Reading.entries (((rows.filterMap cells?).filter (!isSeparator ·)).map (Reading.ofCells columns)) := by
  have hhead : ∀ cells : List Line, (if (Reading.ofCells columns cells).name.isEmpty then none
      else some (Reading.ofCells columns cells)) =
      (if (bareName (cell cells columns.name)).isEmpty then none
        else some (bareName (cell cells columns.name), cells)).map
          fun p : Line × List Line => (⟨p.1, typeOf? columns p.2, cell p.2 columns.description⟩ : Reading) := by
    intro cells
    rw [Reading.ofCells]
    split <;> rfl
  rw [rowEntries, Reading.entries, blocks_map hhead, List.filterMap_map]
  refine List.filterMap_congr fun group _ => ?_
  simp only [Function.comp_apply, List.map_cons, List.map_map]
  rfl

/-- rows with a name each make an entry -/
theorem Reading.entries_eq_map {readings : List Reading} (h : ∀ r ∈ readings, isIdentifier r.name = true) :
    entries readings = readings.map fun r => ⟨r.name, r.typeName, [r.text]⟩ := by
  have hfilled : ∀ r ∈ readings, (if r.name.isEmpty then none else some r) = some r := by
    intro r hr
    obtain ⟨d, ds, hname⟩ := exists_cons_of_isIdentifier (h r hr)
    rw [if_neg (by simp [hname])]
  have hblocks : Docstring.blocks (fun r : Reading => if r.name.isEmpty then none else some r)
      (readings.flatMap fun r => [r]) = readings.map fun r => (r, []) := blocks_flatMap hfilled nofun
  rw [← List.map_eq_flatMap, List.map_id'] at hblocks
  rw [entries, hblocks, List.filterMap_map]
  exact filterMap_eq_map_of_forall fun r hr => if_pos (h r hr)

/-! ## Tables as they are written -/

/-- a row with pipes at both ends and between its cells -/
structure Row (width : Nat) where
  lead : Line
  cells : Fin width → Line
  blank : allBlank lead = true
  piped : ∀ i, '|' ∉ cells i

/-- the columns that are read; there may be none for types -/
structure Places (width : Nat) where
  name : Fin width
  typeName : Option (Fin width)
  description : Fin width

/-- a header and the rows under it -/
structure Grid (width : Nat) where
  header : Row width
  rows : List (Row width)

variable {width wider : Nat} {r : Row width} {places : Places width} {f : Fin width → Fin wider}

def Places.columns (places : Places width) : Columns :=
  ⟨places.name, places.typeName.map Fin.val, places.description⟩

def Places.map (f : Fin width → Fin wider) (places : Places width) : Places wider :=
  ⟨f places.name, places.typeName.map f, f places.description⟩

namespace Row

def line (r : Row width) : Line :=
  r.lead ++ '|' :: (['|'].intercalate (List.ofFn r.cells) ++ ['|'])

def texts (r : Row width) : List Line :=
  List.ofFn fun i => trim (r.cells i)

/-- only these columns, in this order -/
def pick (f : Fin width → Fin wider) (r : Row wider) : Row width where
  lead := r.lead
  cells i := r.cells (f i)
  blank := r.blank
  piped i := r.piped (f i)

theorem pick_pick {widest : Nat} (g : Fin wider → Fin widest) (r : Row widest) :
    (r.pick g).pick f = r.pick (g ∘ f) :=
  rfl

/-- the row only separates, and nothing is read of it -/
def separates (r : Row width) : Bool :=
  isSeparator r.texts

def reading (places : Places width) (r : Row width) : Reading :=
  ⟨bareName (trim (r.cells places.name)),
    (places.typeName.map fun i => strip '\x60' (trim (r.cells i))).filter (!·.isEmpty),
    trim (r.cells places.description)⟩

theorem cells?_line (hwidth : 0 < width) (r : Row width) : cells? r.line = some r.texts := by
  have hne : List.ofFn r.cells ≠ [] := fun hnil => hwidth.ne' (List.ofFn_eq_nil_iff.1 hnil)
  rw [line, cells?_row r.blank hne (List.forall_mem_ofFn_iff.2 r.piped), List.map_ofFn]
  rfl

theorem cell_texts (r : Row width) (i : Fin width) : cell r.texts i = trim (r.cells i) := by
  rw [cell, texts, List.getElem?_ofFn, dif_pos i.isLt]
  rfl

theorem ofCells_texts (places : Places width) (r : Row width) :
    Reading.ofCells places.columns r.texts = r.reading places := by
  simp only [Reading.ofCells, Places.columns, typeOf?, Option.map_map, Function.comp_def, cell_texts, reading]

theorem reading_pick (places : Places width) (r : Row wider) :
    (r.pick f).reading places = r.reading (places.map f) := by
  rw [reading, reading, Places.map, Option.map_map]
  rfl

theorem separates_iff : r.separates = true ↔ ∀ i, isRule (trim (r.cells i)) = true := by
  rw [separates, isSeparator, texts, List.all_eq_true, List.forall_mem_ofFn_iff]
  rfl

/-- in a row that separates, columns that are rules make no difference -/
theorem separates_pick {r : Row wider}
    (h : (r.pick f).separates = true → ∀ i ∉ Set.range f, isRule (trim (r.cells i)) = true) :
    (r.pick f).separates = r.separates := by
  rw [Bool.eq_iff_iff]
  refine ⟨fun hpick => separates_iff.2 fun i => ?_, fun hall => separates_iff.2 fun j => separates_iff.1 hall (f j)⟩
  by_cases hi : i ∈ Set.range f
  · obtain ⟨j, rfl⟩ := hi
    exact separates_iff.1 hpick j
  · exact h hpick i hi

/-! ### Headers -/

/-- the cell of this column is one of the headings -/
def heads (headings : List String) (r : Row width) (i : Fin width) : Bool :=
  isOneOf headings (lowerAscii (trim (r.cells i)))

/-- the headings stand in this column and in no other -/
def Only (r : Row width) (headings : List String) (place : Option (Fin width)) : Prop :=
  ∀ i, r.heads headings i = true ↔ place = some i

/-- the header of a table: one column for names, one for descriptions, and at most one for types -/
structure IsHeader (r : Row width) : Prop where
  name : ∃! i, r.heads nameColumns i = true
  description : ∃! i, r.heads descriptionColumns i = true
  typeName : ∀ i j, r.heads typeColumns i = true → r.heads typeColumns j = true → i = j

/-- where the columns of a header are -/
structure Headed (r : Row width) (places : Places width) : Prop where
  name : r.Only nameColumns (some places.name)
  typeName : r.Only typeColumns places.typeName
  description : r.Only descriptionColumns (some places.description)

/-- the heading of this column is none that is looked for -/
def Unnamed (r : Row width) (i : Fin width) : Prop :=
  ∀ headings ∈ [nameColumns, typeColumns, descriptionColumns], r.heads headings i = false

instance (r : Row width) (i : Fin width) : Decidable (r.Unnamed i) :=
  inferInstanceAs (Decidable (∀ headings ∈ [nameColumns, typeColumns, descriptionColumns], r.heads headings i = false))

theorem only_some {headings : List String} {i : Fin width} (hi : r.heads headings i = true)
    (h : ∀ j, r.heads headings j = true → j = i) : r.Only headings (some i) := by
  refine fun j => ⟨fun hj => congrArg some (h j hj).symm, ?_⟩
  rintro ⟨⟩
  exact hi

theorem exists_only {headings : List String}
    (h : ∀ i j, r.heads headings i = true → r.heads headings j = true → i = j) : ∃ place, r.Only headings place := by
  by_cases hany : ∃ i, r.heads headings i = true
  · obtain ⟨i, hi⟩ := hany
    exact ⟨some i, only_some hi fun j hj => h j i hj hi⟩
  · rw [not_exists] at hany
    refine ⟨none, fun i => ⟨fun hi => absurd hi (hany i), fun hi => ?_⟩⟩
    cases hi

theorem IsHeader.exists_headed (h : r.IsHeader) : ∃ places, r.Headed places := by
  obtain ⟨name, hname, hnames⟩ := h.name
  obtain ⟨description, hdescription, hdescriptions⟩ := h.description
  obtain ⟨typeName, htypeName⟩ := exists_only h.typeName
  exact ⟨⟨name, typeName, description⟩, only_some hname hnames, htypeName, only_some hdescription hdescriptions⟩

theorem Only.column? {headings : List String} {place : Option (Fin width)} (h : r.Only headings place) :
    column? headings r.texts = place.map Fin.val := by
  cases place with
  | none =>
    rw [Table.column?, Option.map_none, List.findIdx?_eq_none_iff, texts, List.forall_mem_ofFn_iff]
    intro i
    rw [← Bool.not_eq_true]
    intro hi
    cases (h i).1 hi
  | some n =>
    have hn : r.heads headings n = true := (h n).2 rfl
    rw [Table.column?, Option.map_some, List.findIdx?_eq_some_iff_getElem]
    refine ⟨by simp [texts], ?_, fun i hi => ?_⟩
    · simpa [texts, heads] using hn
    · intro hheads
      have hbefore : i < width := hi.trans n.isLt
      have hplace := (h ⟨i, hbefore⟩).1 (by simpa [texts, heads] using hheads)
      cases hplace
      exact Nat.lt_irrefl i hi

theorem Only.of_pick {r : Row wider} {headings : List String} {place : Option (Fin width)}
    (h : (r.pick f).Only headings place) (hout : ∀ i ∉ Set.range f, r.heads headings i = false) :
    r.Only headings (place.map f) := by
  intro i
  rw [Option.map_eq_some_iff]
  constructor
  · intro hi
    by_cases hrange : i ∈ Set.range f
    · obtain ⟨j, rfl⟩ := hrange
      exact ⟨j, (h j).1 hi, rfl⟩
    · rw [hout i hrange] at hi
      cases hi
  · rintro ⟨j, hj, rfl⟩
    exact (h j).2 hj

theorem Headed.of_pick {r : Row wider} (h : (r.pick f).Headed places) (hout : ∀ i ∉ Set.range f, r.Unnamed i) :
    r.Headed (places.map f) where
  name := h.name.of_pick fun i hi => hout i hi nameColumns (by simp)
  typeName := h.typeName.of_pick fun i hi => hout i hi typeColumns (by simp)
  description := h.description.of_pick fun i hi => hout i hi descriptionColumns (by simp)

theorem Headed.columns?_line (h : r.Headed places) : columns? r.line = some places.columns := by
  rw [columns?, r.cells?_line places.name.pos, Option.bind_eq_bind, Option.bind_some, h.name.column?,
    h.description.column?, h.typeName.column?]
  rfl

end Row

namespace Grid

def lines (g : Grid width) : List Line :=
  g.header.line :: g.rows.map Row.line

/-- only these columns, in this order -/
def pick (f : Fin width → Fin wider) (g : Grid wider) : Grid width :=
  ⟨g.header.pick f, g.rows.map (Row.pick f)⟩

theorem pick_perm (σ : Equiv.Perm (Fin width)) (g : Grid width) : (g.pick σ).pick σ.symm = g := by
  have hrow : ∀ r : Row width, (r.pick σ).pick σ.symm = r := by
    intro r
    rw [Row.pick_pick, Equiv.self_comp_symm]
    rfl
  rw [pick, pick, List.map_map, hrow]
  congr 1
  exact List.map_id'' hrow g.rows

/-- `wide` has one more column, which the header does not name. Where a row separates, the column has a rule; what it has in
other rows makes no difference. -/
structure Adds (g : Grid width) (p : Fin (width + 1)) (wide : Grid (width + 1)) : Prop where
  others : wide.pick p.succAbove = g
  heading : wide.header.Unnamed p
  rules : ∀ r ∈ wide.rows, (r.pick p.succAbove).separates = true → isRule (trim (r.cells p)) = true

end Grid

theorem rowEntries_lines (places : Places width) (rows : List (Row width)) :
    rowEntries places.columns (rows.map Row.line) =
      Reading.entries ((rows.filter (!·.separates)).map (Row.reading places)) := by
  have hcells : (rows.map Row.line).filterMap cells? = rows.map Row.texts := by
    rw [List.filterMap_map]
    exact filterMap_eq_map_of_forall fun r _ => r.cells?_line places.name.pos
  rw [rowEntries_eq, hcells, List.filter_map, List.map_map]
  congr 1
  exact List.map_congr_left fun r _ => r.ofCells_texts places

/-- **What is found in a table.** -/
theorem findings_lines {g : Grid width} (hprose : Style.Unmarked .table isFirst prose)
    (hheader : g.header.Headed places) : findings (prose ++ g.lines) =
      ⟨prose, Reading.entries ((g.rows.filter (!·.separates)).map (Row.reading places)), none⟩ := by
  have hrows : ∀ l ∈ g.rows.map Row.line, isRow l = true := by
    rw [List.forall_mem_map]
    intro r _
    rw [isRow, r.cells?_line places.name.pos]
    rfl
  rw [Grid.lines, findings_table hprose hheader.columns?_line hrows, rowEntries_lines]

/-- **Columns that are not read may be left out, and the others may stand in any order.** -/
theorem findings_pick {wide : Grid wider} (hprose : Style.Unmarked .table isFirst prose)
    (hheader : (wide.pick f).header.IsHeader) (hout : ∀ i ∉ Set.range f, wide.header.Unnamed i)
    (hrules : ∀ r ∈ wide.rows, (r.pick f).separates = true → ∀ i ∉ Set.range f, isRule (trim (r.cells i)) = true) :
    findings (prose ++ wide.lines) = findings (prose ++ (wide.pick f).lines) := by
  obtain ⟨places, hplaces⟩ := hheader.exists_headed
  have hread : (wide.rows.map (Row.pick f)).filter (!·.separates) =
      (wide.rows.filter (!·.separates)).map (Row.pick f) := by
    rw [List.filter_map]
    congr 1
    refine List.filter_congr fun r hr => ?_
    rw [Function.comp_apply, Row.separates_pick (hrules r hr)]
  rw [findings_lines hprose hplaces, findings_lines hprose (hplaces.of_pick hout), Grid.pick, hread, List.map_map]
  congr 2
  exact List.map_congr_left fun r _ => (r.reading_pick places).symm

/-- **The order of the columns does not matter.** Take prose in which no block begins, and behind it a table with one
column for names, one for descriptions and at most one for types. The model is the same if the columns stand in another
order, and if there is one more column that is not read. -/
theorem parse?_columns {g : Grid width} (hprose : Style.Unmarked .table true prose) (hheader : g.header.IsHeader)
    (names : List String) :
    (∀ σ : Equiv.Perm (Fin width),
      Style.parse? .table (prose ++ (g.pick σ).lines) names = Style.parse? .table (prose ++ g.lines) names) ∧
    ∀ p wide, g.Adds p wide →
      Style.parse? .table (prose ++ wide.lines) names = Style.parse? .table (prose ++ g.lines) names := by
  have hmodel : ∀ {wider : Nat} {wide : Grid wider} (f : Fin width → Fin wider), wide.pick f = g →
      (∀ i ∉ Set.range f, wide.header.Unnamed i) →
      (∀ r ∈ wide.rows, (r.pick f).separates = true → ∀ i ∉ Set.range f, isRule (trim (r.cells i)) = true) →
      Style.parse? .table (prose ++ wide.lines) names = Style.parse? .table (prose ++ g.lines) names := by
    rintro wider wide f rfl hout hrules
    rw [Style.parse?, Style.findings, findings_pick hprose hheader hout hrules]
    rfl
  refine ⟨fun σ => ?_, fun p wide hadds => ?_⟩
  · -- the columns in their old order are taken out of the table in the new order
    have hrange : ∀ i, i ∈ Set.range σ.symm := σ.symm.surjective
    exact hmodel σ.symm (g.pick_perm σ) (fun i hi => absurd (hrange i) hi) fun r _ _ i hi => absurd (hrange i) hi
  · have hrange : ∀ i ∉ Set.range p.succAbove, i = p := by
      intro i hi
      by_contra hne
      exact hi (Fin.exists_succAbove_eq hne)
    refine hmodel p.succAbove hadds.others (fun i hi => ?_) fun r hr hsep i hi => ?_
    · rw [hrange i hi]
      exact hadds.heading
    · rw [hrange i hi]
      exact hadds.rules r hr hsep

/-- A table with a column of defaults. Its rows separate, begin `x`, continue it, have a name that is none, and continue
that one. -/
def defaultsTable : Grid 4 where
  header := ⟨[], !["Field".toList, " Default ".toList, "Type".toList, "Description".toList], rfl, by decide⟩
  rows := [
    ⟨[' '], ![":--".toList, "-".toList, " --- ".toList, "---".toList], rfl, by decide⟩,
    ⟨[], !["x".toList, "0".toList, "int".toList, " Where".toList], rfl, by decide⟩,
    ⟨[], ![" ".toList, "---".toList, "str".toList, "it is.".toList], rfl, by decide⟩,
    ⟨[], !["not a name".toList, [], [], "Nothing.".toList], rfl, by decide⟩,
    ⟨[], ![[], "-".toList, [], "Nothing.".toList], rfl, by decide⟩]

/-- the table without the defaults -/
def pointTable : Grid 3 :=
  defaultsTable.pick (Fin.succAbove 1)

/-- The model has `x` with its type and both parts of its text. It is the same if types and names change places, and if the
defaults are there. -/
theorem parse?_pointTable :
    Style.Unmarked .table true ["A point.".toList, []] ∧ pointTable.header.IsHeader ∧
    pointTable.Adds 1 defaultsTable ∧
    (Style.parse? .table (["A point.".toList, []] ++ pointTable.lines) ["x"]).value.map Model.params =
      some [("x", ⟨some "int", some "Where it is."⟩)] ∧
    Style.parse? .table (["A point.".toList, []] ++ (pointTable.pick (Equiv.swap 0 1)).lines) ["x"] =
      Style.parse? .table (["A point.".toList, []] ++ pointTable.lines) ["x"] ∧
    Style.parse? .table (["A point.".toList, []] ++ defaultsTable.lines) ["x"] =
      Style.parse? .table (["A point.".toList, []] ++ pointTable.lines) ["x"] := by
  have hprose : Style.Unmarked .table true ["A point.".toList, []] := by decide +kernel
  have hheader : pointTable.header.IsHeader :=
    ⟨⟨0, by decide +kernel, by decide +kernel⟩, ⟨2, by decide +kernel, by decide +kernel⟩, by decide +kernel⟩
  have hadds : pointTable.Adds 1 defaultsTable := ⟨rfl, by decide +kernel, by decide +kernel⟩
  obtain ⟨horder, hmore⟩ := parse?_columns hprose hheader ["x"]
  exact ⟨hprose, hheader, hadds, by decide +kernel, horder _, hmore 1 defaultsTable hadds⟩

end ToolSchema.Docstring.Table
