/-
What cleaning does to each line.

Cleaning goes line by line: it finds the margin of the lines that count for it, clears each line by itself
(`dedentAll_eq_map`), and then drops what is blank at both ends. A line that counts loses as many spaces as the margin
has (`indent_dedent`), and one of those lines is at the margin (`exists_indent_eq_margin`).
- `clean_keeps_lines`: so clean lines are the lines of the text, one for one, with their text and, where they count,
  as far to the right of each other as before.
-/
import ToolSchema.Proofs.Docstring.Prose

namespace ToolSchema.Docstring

open Text

variable {m : Nat} {l : Line} {ls : List Line}

/-! ## Rows -/

/-- a line of a text, and whether it is the first -/
structure Row where
  line : Line
  isFirst : Bool

namespace Row

def ofLines : List Line → List Row
  | [] => []
  | first :: rest => ⟨first, true⟩ :: rest.map (⟨·, false⟩)

/-- the lines of a text, every tab as four spaces -/
def ofText (raw : List Char) : List Row :=
  ofLines ((lines raw).map expandTabs)

def isBlank (row : Row) : Bool :=
  allBlank row.line

/-- a line with text that is not the first one, or that one if it is a bare header -/
def counts (row : Row) : Bool :=
  !row.isBlank && (!row.isFirst || isBareHeader row.line)

/-- the margin of the lines that count -/
def marginOf (rows : List Row) : Nat :=
  margin ((rows.filter counts).map line)

/-- the line without the margin; the first one has none unless it is a bare header -/
def cleared (m : Nat) (row : Row) : Line :=
  if row.isFirst && !isBareHeader row.line then trim row.line else dedent m row.line

end Row

/-! ## Margins -/

theorem margin_filter (ls : List Line) : margin (ls.filter (!allBlank ·)) = margin ls := by
  rw [margin, margin, List.filter_filter]
  simp only [Bool.and_self]

/-- **Cleaning goes row by row.** -/
theorem dedentAll_eq_map (ls : List Line) :
    dedentAll ls = (Row.ofLines ls).map (Row.cleared (Row.marginOf (Row.ofLines ls))) := by
  cases ls with
  | nil => rfl
  | cons first rest =>
    have hrest : ((rest.map fun l => Row.mk l false).filter Row.counts).map Row.line = rest.filter (!allBlank ·) := by
      rw [List.filter_map, List.map_map]
      exact (List.map_id' _).trans (List.filter_congr fun l _ => Bool.and_true _)
    have hcleared : ∀ m, (⟨first, true⟩ :: rest.map fun l => Row.mk l false).map (Row.cleared m) =
        Row.cleared m ⟨first, true⟩ :: rest.map (dedent m) := by
      intro m
      rw [List.map_cons, List.map_map]
      rfl
    rw [dedentAll, Row.ofLines]
    -- the margin takes in the first line just if that is a bare header
    cases hheader : isBareHeader first with
    | true =>
      have hmargin : Row.marginOf (⟨first, true⟩ :: rest.map (⟨·, false⟩)) = margin (first :: rest) := by
        rw [← margin_filter (first :: rest), Row.marginOf, List.filter_cons, List.filter_cons, ← hrest]
        simp only [Row.counts, Row.isBlank, hheader, Bool.or_true, Bool.and_true]
        split <;> rfl
      rw [hmargin, hcleared, Row.cleared, hheader]
      rfl
    | false =>
      have hmargin : Row.marginOf (⟨first, true⟩ :: rest.map (⟨·, false⟩)) = margin rest := by
        rw [← margin_filter rest, Row.marginOf, List.filter_cons, ← hrest]
        simp [Row.counts, hheader]
      rw [hmargin, hcleared, Row.cleared, hheader]
      rfl

theorem exists_indent_eq_margin (hmem : l ∈ ls) (hl : allBlank l = false) :
    ∃ l ∈ ls, indent l = margin ls := by
  obtain ⟨least, hmin⟩ := Option.isSome_iff_exists.1 (List.isSome_min?_of_mem (indent_mem_indents hmem hl))
  obtain ⟨line, hline, heq⟩ := List.mem_map.1 (List.min?_eq_some_iff.1 hmin).1
  refine ⟨line, (List.mem_filter.1 hline).1, ?_⟩
  rw [heq, margin, ← indents, hmin, Option.getD_some]

theorem indent_drop (h : m ≤ indent l) : indent (l.drop m) + m = indent l := by
  induction m generalizing l with
  | zero => rfl
  | succ m ih =>
    cases l with
    | nil => exact absurd h (Nat.not_succ_le_zero m)
    | cons c rest =>
      by_cases hc : c = ' '
      · subst hc
        rw [indent_cons_space] at h ⊢
        rw [List.drop_succ_cons, ← Nat.add_assoc, ih (Nat.le_of_succ_le_succ h)]
      · have hzero : indent (c :: rest) = 0 := indent_eq_zero_iff.2 (by simpa using hc)
        rw [hzero] at h
        exact absurd h (Nat.not_succ_le_zero m)

/-- **A line loses the margin.** -/
theorem indent_dedent (hl : allBlank l = false) (h : m ≤ indent l) : indent (dedent m l) + m = indent l := by
  have hdrop : allBlank (l.drop m) = false := by
    rw [← List.take_append_drop m l, allBlank_append, allBlank_take h, Bool.true_and] at hl
    exact hl
  have hend : indent (trimEnd (l.drop m)) = indent (l.drop m) := by
    obtain ⟨trail, -, hsplit⟩ := exists_trimEnd (l.drop m)
    conv_rhs => rw [hsplit, indent_append ((allBlank_trimEnd _).trans hdrop)]
  rw [dedent, hl, if_neg Bool.false_ne_true, hend, indent_drop h]

/-! ## Clean rows -/

namespace Row

variable {rows : List Row} {row : Row}

theorem map_line_ofLines (ls : List Line) : (ofLines ls).map line = ls := by
  cases ls with
  | nil => rfl
  | cons first rest =>
    rw [ofLines, List.map_cons, List.map_map]
    exact congrArg (first :: ·) (List.map_id' rest)

theorem isBlank_of_counts (h : row.counts = true) : row.isBlank = false := by
  rw [counts, Bool.and_eq_true] at h
  simpa using h.1

theorem mem_counted (hmem : row ∈ rows) (h : row.counts = true) : row.line ∈ (rows.filter counts).map line :=
  List.mem_map_of_mem (List.mem_filter.2 ⟨hmem, h⟩)

theorem trimEnd_cleared (m : Nat) (row : Row) : trimEnd (row.cleared m) = row.cleared m := by
  rw [cleared]
  split
  · exact trimEnd_trim _
  · exact trimEnd_dedent _ _

/-- a row that counts is at the margin or to the right of it -/
theorem marginOf_le (hmem : row ∈ rows) (h : row.counts = true) : marginOf rows ≤ indent row.line :=
  margin_le (mem_counted hmem h) (isBlank_of_counts h)

theorem cleared_of_counts (h : row.counts = true) : row.cleared m = dedent m row.line := by
  rw [counts, Bool.and_eq_true] at h
  rw [cleared, if_neg]
  cases hfirst : row.isFirst <;> simp_all

theorem trim_cleared (hmem : row ∈ rows) : trim (row.cleared (marginOf rows)) = trim row.line := by
  rw [cleared]
  split
  · exact trim_trim _
  · next hfirst =>
    refine trim_dedent fun hfilled => marginOf_le hmem ?_
    rw [counts, isBlank, hfilled]
    cases hrow : row.isFirst <;> simp_all

theorem isEmpty_cleared (hmem : row ∈ rows) : (row.cleared (marginOf rows)).isEmpty = row.isBlank := by
  rw [← trimEnd_cleared, isEmpty_trimEnd, ← allBlank_trim, trim_cleared hmem, allBlank_trim, isBlank]

theorem indent_cleared (hmem : row ∈ rows) (h : row.counts = true) :
    indent (row.cleared (marginOf rows)) + marginOf rows = indent row.line := by
  rw [cleared_of_counts h]
  exact indent_dedent (isBlank_of_counts h) (marginOf_le hmem h)

/-- one row that counts ends up without indentation -/
theorem exists_indent_cleared_eq_zero (hmem : row ∈ rows) (h : row.counts = true) :
    ∃ least ∈ rows, least.counts = true ∧ indent (least.cleared (marginOf rows)) = 0 := by
  obtain ⟨l, hl, hmargin⟩ := exists_indent_eq_margin (mem_counted hmem h) (isBlank_of_counts h)
  obtain ⟨least, hleast, rfl⟩ := List.mem_map.1 hl
  obtain ⟨hleast, hcounts⟩ := List.mem_filter.1 hleast
  have hindent := indent_cleared hleast hcounts
  rw [hmargin, ← marginOf] at hindent
  exact ⟨least, hleast, hcounts, Nat.add_eq_right.1 hindent⟩

end Row

/-- clean lines are the rows that are left, each cleared by itself -/
theorem clean_eq_map (raw : List Char) : clean raw =
    (trimEnds Row.isBlank (Row.ofText raw)).map (Row.cleared (Row.marginOf (Row.ofText raw))) := by
  rw [clean, lines_expandTabs, dedentAll_eq_map]
  exact trimLines_map_eq fun row hrow => Row.isEmpty_cleared hrow

/-! ## Blank texts -/

theorem allBlank_iff_splitOn {separator : Char → Bool} (hseparator : ∀ c, separator c = true → isBlank c = true)
    (cs : List Char) : allBlank cs = true ↔ ∀ piece ∈ splitOn separator cs, allBlank piece = true := by
  refine ⟨fun h piece hpiece => allBlank_of_isInfix (infix_of_mem_splitOn hpiece) h, fun h => ?_⟩
  induction cs with
  | nil => rfl
  | cons c rest ih =>
    obtain ⟨first, more, hrest⟩ := List.exists_cons_of_ne_nil (splitOn_ne_nil separator rest)
    rw [splitOn, hrest] at h
    rw [hrest, List.forall_mem_cons] at ih
    rw [allBlank, List.all_cons, ← allBlank, Bool.and_eq_true]
    split at h
    · next hc =>
      rw [List.forall_mem_cons, List.forall_mem_cons] at h
      exact ⟨hseparator c hc, ih h.2⟩
    · rw [List.forall_mem_cons, allBlank, List.all_cons, ← allBlank, Bool.and_eq_true] at h
      exact ⟨h.1.1, ih ⟨h.1.2, h.2⟩⟩

theorem allBlank_iff_lines (cs : List Char) : allBlank cs = true ↔ ∀ l ∈ lines cs, allBlank l = true := by
  have hfeed : ∀ c, (c == '\n') = true → isBlank c = true := by
    intro c hc
    rw [beq_iff_eq.1 hc]
    decide
  obtain ⟨before, final, hpieces⟩ := (List.eq_nil_or_concat' _).resolve_left (splitOn_ne_nil (· == '\n') cs)
  rw [allBlank_iff_splitOn hfeed, lines, hpieces, List.dropLast_concat, List.getLast?_concat, Option.getD_some,
    List.forall_mem_append, List.forall_mem_append, List.forall_mem_map]
  simp only [allBlank_dropReturn]
  cases final with
  | nil => simp [allBlank]
  | cons c rest => rfl

theorem clean_eq_nil_iff (raw : List Char) : clean raw = [] ↔ allBlank raw = true := by
  have hlines : (Row.ofText raw).map Row.line = (lines raw).map expandTabs := Row.map_line_ofLines _
  have hrows : (∀ row ∈ Row.ofText raw, row.isBlank = true) ↔ ∀ l ∈ lines raw, allBlank l = true :=
    calc (∀ row ∈ Row.ofText raw, row.isBlank = true)
      _ ↔ ∀ l ∈ (Row.ofText raw).map Row.line, allBlank l = true := by rw [List.forall_mem_map]; rfl
      _ ↔ ∀ l ∈ lines raw, allBlank (expandTabs l) = true := by rw [hlines, List.forall_mem_map]
      _ ↔ ∀ l ∈ lines raw, allBlank l = true := by simp only [allBlank_expandTabs_iff]
  rw [clean_eq_map, List.map_eq_nil_iff, trimEnds_eq_nil_iff, hrows, allBlank_iff_lines]

/-! ## The result -/

/-- what clean lines keep of the rows they are for -/
structure Row.Kept (rows : List Row) (f : Row → Line) : Prop where
  text : ∀ row ∈ rows, trim (f row) = trim row.line
  blank : ∀ row ∈ rows, row.isBlank = true → f row = []
  ends : ∀ row ∈ rows, trimEnd (f row) = f row
  relative : ∀ a ∈ rows, ∀ b ∈ rows, a.counts = true → b.counts = true →
    (indent (f a) : Int) - indent (f b) = indent a.line - indent b.line
  flush : (∃ row ∈ rows, row.counts = true) → ∃ row ∈ rows, row.counts = true ∧ indent (f row) = 0

/-- **Cleaning keeps the lines.** They are the rows between the blank ones at both ends, one for one and in order, with
their text and their indentation relative to each other; none are left only if the text is blank. -/
theorem clean_keeps_lines (raw : List Char) :
    (∃ f, clean raw = (trimEnds Row.isBlank (Row.ofText raw)).map f ∧
      Row.Kept (trimEnds Row.isBlank (Row.ofText raw)) f) ∧
    (clean raw = [] ↔ allBlank raw = true) := by
  refine ⟨⟨_, clean_eq_map raw, ?_⟩, clean_eq_nil_iff raw⟩
  have hmem : ∀ row ∈ trimEnds Row.isBlank (Row.ofText raw), row ∈ Row.ofText raw := fun row hrow =>
    (trimEnds_isInfix _ _).subset hrow
  refine ⟨fun row hrow => Row.trim_cleared (hmem row hrow), fun row hrow hblank => ?_,
    fun row _ => Row.trimEnd_cleared _ row, fun a ha b hb hca hcb => ?_, ?_⟩
  · exact List.isEmpty_iff.1 ((Row.isEmpty_cleared (hmem row hrow)).trans hblank)
  · have hindenta := Row.indent_cleared (hmem a ha) hca
    have hindentb := Row.indent_cleared (hmem b hb) hcb
    omega
  · rintro ⟨row, hrow, hcounts⟩
    obtain ⟨least, hleast, hcl, hzero⟩ := Row.exists_indent_cleared_eq_zero (hmem row hrow) hcounts
    exact ⟨least, mem_trimEnds hleast (Row.isBlank_of_counts hcl), hcl, hzero⟩

end ToolSchema.Docstring
