/-
Titles and tables in place.

A title is read together with the line below it, and its body starts two lines further on; a title needs that line below
it, so the body starts inside the text or right at its end. A table is read row by row to the first line that is no row.
- `titleAt_eq`: the look-ahead for dashes is the one on the rest of the lines.
- `listed_eq`, `rows_eq`: no number of an entry is out of place under a title or in a table.
- `round_advances`: a round goes on by one line, by a title and its body, or by a header row and its rows.
- `read_eq`: reading titles and tables has no fault, and comes to their findings.
-/
import ToolSchema.Proofs.Docstring.Cursor.Collected

namespace ToolSchema.Docstring.Cursor.Table

open Text Docstring.Table

variable {ls body : List Line} {i n : Nat}

/-! ## Reading -/

/-- the title at a line: text, and dashes on the line below, if there is one -/
def titleAt (ls : List Line) (i : Nat) : Checked (Option Title) := do
  let line ← lineAt ls i
  return if (trim line).isEmpty || !ls[i + 1]?.any isUnderline then none else some (Title.ofText (trim line))

/-- the next title or header row -/
def opens (ls : List Line) (i : Nat) : Checked Bool := do
  if (← titleAt ls i).isSome then return true else return (columns? (← lineAt ls i)).isSome

/-- a line under a parameter title -/
def addLine (level : Nat) (f : Filling) (line : Line) : Checked Filling := do
  if line.isEmpty then return f
  if (← indentOf line) ≤ level then
    f.start ((((listing line).1.map bareName).filter isIdentifier).map fun name => ⟨name, (listing line).2, []⟩)
  else f.add line

/-- the entries with those under a parameter title -/
def listed (level : Nat) (body : List Line) (entries : List Entry) : Checked (List Entry) := do
  return (← body.foldlM (addLine level) ⟨entries, []⟩).entries

/-- the lines under a return title that are indented, or all lines -/
def returnLines (level : Nat) (body : List Line) : Checked (List Line) := do
  let filled := body.filter (!·.isEmpty)
  let deeper ← filled.foldlM (fun deeper line => do
    if level < (← indentOf line) then return deeper ++ [line] else return deeper) []
  return if deeper.isEmpty then filled else deeper

def addTitled (title : Title) (level : Nat) (body : List Line) (c : Collected) : Checked Collected :=
  match title with
  | .params => do return { c with entries := ← listed level body c.entries }
  | .returns => do return c.addReturns (← returnLines level body)
  | .other => return c

/-- a row of a table -/
def addRow (columns : Columns) (f : Filling) (cells : List Line) : Checked Filling :=
  if isSeparator cells then return f
  else
    let name := bareName (cell cells columns.name)
    let text := cell cells columns.description
    if name.isEmpty then f.add text
    else f.start (if isIdentifier name then [⟨name, typeOf? columns cells, [text]⟩] else [])

def rowRound (ls : List Line) (columns : Columns) (i : Nat) (f : Filling) : Checked (Option (Nat × Filling)) := do
  match cells? (← lineAt ls i) with
  | none => return none
  | some cells => return some (i + 1, ← addRow columns f cells)

def round (ls : List Line) (i : Nat) (c : Collected) : Checked (Option (Nat × Collected)) := do
  match ← titleAt ls i with
  | some title =>
    let stop ← seek ls.length (opens ls) (i + 2)
    let level ← indentOf (← lineAt ls i)
    let body ← range ls (i + 2) stop
    return some (stop, ← addTitled title level body (c.mark i))
  | none =>
    match columns? (← lineAt ls i) with
    | some columns =>
      let (next, f) ← sweep ls.length (rowRound ls columns) (i + 1) ⟨c.entries, []⟩
      return some (next, { c.mark i with entries := f.entries })
    | none => return some (i + 1, c)

def read (ls : List Line) : Checked Collected := do
  return (← sweep ls.length (round ls) 0 .empty).2

/-! ## Titles -/

theorem titleAt_eq (hi : i < ls.length) : titleAt ls i = pure (title? (ls.drop i)) := by
  have hnext : ls[i + 1]? = (ls.drop (i + 1)).head? := List.head?_drop.symm
  rw [titleAt, lineAt_eq hi, pure_bind, hnext, drop_of_lt hi]
  cases ls.drop (i + 1) with
  | nil => simp [title?]
  | cons next rest => rfl

/-- a title takes two lines -/
theorem lt_of_title? {title : Title} (h : title? (ls.drop i) = some title) : i + 1 < ls.length := by
  refine Nat.lt_of_not_le fun hle => ?_
  rcases Nat.lt_or_ge i ls.length with hi | hi
  · rw [drop_of_lt hi, List.drop_eq_nil_of_le hle] at h
    cases h
  · rw [List.drop_eq_nil_of_le hi] at h
    cases h

theorem opens_eq (hi : i < ls.length) : opens ls i = pure (startsBlock (ls.drop i)) := by
  rw [opens, titleAt_eq hi, pure_bind, lineAt_eq hi, pure_bind, startsBlock]
  rw [drop_of_lt hi, List.head?_cons, Option.bind_some]
  cases (title? (ls[i] :: ls.drop (i + 1))).isSome with
  | true => rfl
  | false => rfl

theorem body_eq {rest : List Line} (h : Stops startsBlock rest n) :
    Docstring.Table.body rest = rest.take n ∧ afterBody rest = rest.drop n := by
  induction rest generalizing n with
  | nil => simp [Docstring.Table.body, afterBody]
  | cons line rest ih =>
    rw [Docstring.Table.body, afterBody]
    rcases h.cons_cases with ⟨rfl, hp⟩ | ⟨m, rfl, hp, hrest⟩
    · rw [if_pos hp, if_pos hp]
      exact ⟨rfl, rfl⟩
    · rw [hp, List.take_succ_cons, List.drop_succ_cons, ← (ih hrest).1, ← (ih hrest).2]
      exact ⟨rfl, rfl⟩

/-! ## Entries -/

theorem addLine_eq (level : Nat) (f : Filling) (line : Line) :
    addLine level f line =
      if !line.isEmpty then
        Filling.feed (fun l => if indent l ≤ level then some (listing l) else none)
          (fun l => ((l.1.map bareName).filter isIdentifier).map fun name => ⟨name, l.2, []⟩) id f line
      else pure f := by
  rw [addLine, indentOf_eq, pure_bind, Filling.feed]
  cases line.isEmpty with
  | true => rfl
  | false =>
    by_cases hlevel : indent line ≤ level
    · simp only [if_pos hlevel]
      rfl
    · simp only [if_neg hlevel]
      rfl

theorem listed_eq (level : Nat) (body : List Line) (entries : List Entry) :
    listed level body entries = pure (entries ++ titledEntries level body) := by
  rw [listed, funext fun f => funext (addLine_eq level f), ← List.foldlM_filter]
  obtain ⟨f, hf, hentries⟩ := Filling.foldlM_feed_nil entries (body.filter (!·.isEmpty))
  rw [hf, pure_bind, hentries, titledEntries]
  simp only [List.map_map, List.map_id, extend, Function.comp_def, List.nil_append]

theorem returnLines_eq (level : Nat) (body : List Line) : returnLines level body = pure (titledReturns level body) := by
  have hfold : ∀ (lines deeper : List Line),
      lines.foldlM (fun deeper line => do
        if level < (← indentOf line) then return deeper ++ [line] else return deeper) deeper =
        (pure (deeper ++ lines.filter fun l => decide (level < indent l)) : Checked (List Line)) := by
    intro lines
    induction lines with
    | nil =>
      intro deeper
      rw [List.filter_nil, List.append_nil]
      rfl
    | cons line rest ih =>
      intro deeper
      rw [List.foldlM_cons, indentOf_eq, pure_bind, List.filter_cons]
      by_cases hlevel : level < indent line
      · simp only [hlevel, decide_true, if_true, pure_bind, ih, List.append_assoc, List.singleton_append]
      · simp only [hlevel, decide_false, Bool.false_eq_true, if_false, pure_bind, ih]
  rw [returnLines, hfold, pure_bind]
  rfl

theorem addRow_eq (columns : Columns) (f : Filling) (cells : List Line) :
    addRow columns f cells =
      if !isSeparator cells then
        Filling.feed
          (fun cells =>
            let name := bareName (cell cells columns.name)
            if name.isEmpty then none else some (name, cells))
          (fun row => if isIdentifier row.1 then
            [⟨row.1, typeOf? columns row.2, [cell row.2 columns.description]⟩] else [])
          (cell · columns.description) f cells
      else pure f := by
  rw [addRow, Filling.feed]
  cases isSeparator cells with
  | true => rfl
  | false =>
    cases hname : (bareName (cell cells columns.name)).isEmpty with
    | true => simp [hname]
    | false => simp [hname]

/-- a line, if it is a row -/
def addRow? (columns : Columns) (f : Filling) (line : Line) : Checked Filling :=
  match cells? line with
  | some cells => addRow columns f cells
  | none => return f

theorem foldlM_addRow? (columns : Columns) (f : Filling) (lines : List Line) :
    lines.foldlM (addRow? columns) f = (lines.filterMap cells?).foldlM (addRow columns) f := by
  induction lines generalizing f with
  | nil => rfl
  | cons line rest ih =>
    rw [List.foldlM_cons, addRow?]
    cases hcells : cells? line with
    | none => simp only [pure_bind, ih, List.filterMap_cons_none hcells]
    | some cells => simp only [ih, List.filterMap_cons_some hcells, List.foldlM_cons]

/-- the rows of a table add their entries -/
theorem rows_eq (ls : List Line) (columns : Columns) (entries : List Entry) (i : Nat) :
    ∃ f, sweep ls.length (rowRound ls columns) i ⟨entries, []⟩ =
        pure (i + ((ls.drop i).takeWhile isRow).length, f) ∧
      f.entries = entries ++ rowEntries columns ((ls.drop i).takeWhile isRow) := by
  have hround : ∀ i f, ∀ h : i < ls.length, rowRound ls columns i f =
      if isRow ls[i] then (do return some (i + 1, ← addRow? columns f ls[i])) else pure none := by
    intro i f h
    rw [rowRound, lineAt_eq h, pure_bind, isRow, addRow?]
    cases cells? ls[i] with
    | none => rfl
    | some cells => rfl
  rw [sweep_lines hround, foldlM_addRow?, funext fun f => funext (addRow_eq columns f), ← List.foldlM_filter]
  obtain ⟨f, hf, hentries⟩ := Filling.foldlM_feed_nil entries
    ((((ls.drop i).takeWhile isRow).filterMap cells?).filter (!isSeparator ·))
  refine ⟨f, by rw [hf, pure_bind], ?_⟩
  rw [hentries, rowEntries, List.filterMap_eq_flatMap_toList _ (blocks _ _)]
  congr 2
  funext ⟨⟨name, cells⟩, more⟩
  simp only
  split
  · rfl
  · rfl

/-! ## Blocks -/

theorem findings_eq (ls : List Line) :
    findings ls = ⟨Style.before .table true ls, (Docstring.Table.blocks ls).flatMap Block.entries,
      flattenSome ((Docstring.Table.blocks ls).filterMap Block.returns?)⟩ := by
  have hprose : (findings ls).prose = Style.before .table true ls := Style.prose_findings .table ls
  rw [← hprose]
  rfl

theorem addTitled_eq (title : Title) (level : Nat) (body : List Line) (c : Collected) :
    addTitled title level body c =
      pure (c.block (Block.titled title level body).entries (Block.titled title level body).returns?) := by
  cases title with
  | params =>
    rw [addTitled, listed_eq, pure_bind]
    rfl
  | returns =>
    have hentries : (Block.titled .returns level body).entries = [] := rfl
    rw [addTitled, returnLines_eq, pure_bind, hentries, Collected.block_nil]
    rfl
  | other =>
    have hentries : (Block.titled .other level body).entries = [] := rfl
    rw [addTitled, hentries, Collected.block_nil]
    rfl

/-- the blocks among the lines from this number on -/
def blocksFrom (ls : List Line) (i : Nat) : List Block :=
  Docstring.Table.blocks (ls.drop i)

theorem marks_iff (hi : i < ls.length) :
    Style.Marks .table ls i ↔ (title? (ls.drop i)).isSome = true ∨ (columns? ls[i]).isSome = true := by
  rw [Style.Marks, Style.begins, startsBlock, Bool.or_eq_true, drop_of_lt hi, List.head?_cons, Option.bind_some]

theorem blocksFrom_titled {title : Title} (hi : i < ls.length) (h : title? (ls.drop i) = some title)
    (hstops : Stops startsBlock (ls.drop (i + 2)) n) :
    blocksFrom ls i = .titled title (indent ls[i]) ((ls.drop (i + 2)).take n) :: blocksFrom ls (i + 2 + n) := by
  rw [drop_of_lt hi] at h
  rw [blocksFrom, drop_of_lt hi, Docstring.Table.blocks, h]
  simp only [blocksFrom, List.drop_drop, (body_eq hstops).1, (body_eq hstops).2]

theorem blocksFrom_untitled (hi : i < ls.length) (h : title? (ls.drop i) = none) :
    blocksFrom ls i =
      match columns? ls[i] with
      | some columns =>
        .table columns ((ls.drop (i + 1)).takeWhile isRow) ::
          blocksFrom ls (i + 1 + ((ls.drop (i + 1)).takeWhile isRow).length)
      | none => blocksFrom ls (i + 1) := by
  have hrest : ls.drop (i + 1 + ((ls.drop (i + 1)).takeWhile isRow).length) = (ls.drop (i + 1)).dropWhile isRow :=
    List.drop_drop.symm.trans (drop_length_takeWhile isRow _)
  rw [drop_of_lt hi] at h
  rw [blocksFrom, drop_of_lt hi, Docstring.Table.blocks, h, blocksFrom, hrest]
  rfl

theorem round_advances (c : Collected) (hi : i < ls.length) :
    Advances .table ls (blocksFrom ls) Block.entries Block.returns? (round ls) i c := by
  have hmarks := marks_iff hi
  cases htitle : title? (ls.drop i) with
  | some title =>
    obtain ⟨n, hseek, hbound, hstops⟩ := seek_eq (i := i + 2) (p := startsBlock) (fun _ hk => opens_eq hk)
      (lt_of_title? htitle)
    refine .take _ (i + 2 + n) (by simp [hmarks, htitle]) (by omega) (blocksFrom_titled hi htitle hstops) ?_
    rw [round, titleAt_eq hi, pure_bind, htitle]
    simp only [lineAt_eq hi, hseek, pure_bind, indentOf_eq, range_eq hbound, addTitled_eq]
  | none =>
    have hblocks := blocksFrom_untitled hi htitle
    cases hcolumns : columns? ls[i] with
    | some columns =>
      rw [hcolumns] at hblocks
      obtain ⟨f, hsweep, hentries⟩ := rows_eq ls columns c.entries (i + 1)
      refine .take _ _ (by simp [hmarks, hcolumns]) (by omega) hblocks ?_
      rw [round, titleAt_eq hi, pure_bind, htitle]
      simp only [lineAt_eq hi, pure_bind, hcolumns, hsweep, hentries]
      rfl
    | none =>
      rw [hcolumns] at hblocks
      refine .skip (by simp [hmarks, htitle, hcolumns]) hblocks ?_
      rw [round, titleAt_eq hi, pure_bind, htitle]
      simp only [lineAt_eq hi, pure_bind, hcolumns]

/-- **Titles and tables are read without a fault.** -/
theorem read_eq (ls : List Line) : ∃ c, read ls = pure c ∧ c.findings ls = findings ls := by
  have hend : ∀ i, ls.length ≤ i → blocksFrom ls i = [] := by
    intro i hi
    rw [blocksFrom, List.drop_eq_nil_of_le hi, Docstring.Table.blocks]
  obtain ⟨j, c, hsweep, hfindings⟩ := sweep_blocks (fun i c hi => round_advances c hi) hend
  refine ⟨c, by rw [read, hsweep, pure_bind], ?_⟩
  rw [hfindings, findings_eq]
  rfl

end ToolSchema.Docstring.Cursor.Table
