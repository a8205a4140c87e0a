/-
Lines without their margin.

The margin of lines is what they have in common in front. So it does not matter how far all of them stand to the right,
nor what blanks they end in (`Shifted`).
- `margin_shifted`: the margin grows by the shift, if there is any text.
- `dedentAll_shifted`: shifted lines lose the shift with their margin. The first line is read by itself, but as a header
  or without its blanks, and neither sees a shift.
- `clean_eq_pieces`: carriage returns and a line feed at the end are blanks at ends of lines like any other, so that
  cleaning may as well start from the pieces between line feeds.
-/
import Mathlib.Data.List.Forall2
import ToolSchema.Proofs.Docstring.Clean

namespace ToolSchema.Docstring

open Text

/-! ## Shifted lines -/

def spaces (k : Nat) : List Char :=
  List.replicate k ' '

/-- The second line has more spaces in front. The blanks that the lines end in do not matter. -/
def Shifted (k : Nat) (l l' : Line) : Prop :=
  ∃ core trail trail' : List Char, allBlank trail = true ∧ allBlank trail' = true ∧
    l = core ++ trail ∧ l' = spaces k ++ core ++ trail'

variable {k m : Nat} {l l' : Line} {ls ls' : List Line} {a b cs : List Char}

theorem allBlank_spaces (k : Nat) : allBlank (spaces k) = true := by
  rw [allBlank, List.all_eq_true]
  intro c hc
  rw [(List.mem_replicate.1 hc).2]
  decide

theorem not_mem_spaces {c : Char} (k : Nat) (hc : c ≠ ' ') : c ∉ spaces k :=
  fun hmem => hc (List.mem_replicate.1 hmem).2

theorem indent_spaces_append (k : Nat) (cs : List Char) : indent (spaces k ++ cs) = indent cs + k := by
  induction k with
  | zero => rfl
  | succ k ih =>
    have hcons : spaces (k + 1) ++ cs = ' ' :: (spaces k ++ cs) := rfl
    rw [hcons, indent_cons_space, ih, Nat.add_assoc]

/-- the indentation ends before the text of a line does -/
theorem indent_append (ha : allBlank a = false) : indent (a ++ b) = indent a := by
  induction a with
  | nil => cases ha
  | cons c rest ih =>
    by_cases hc : c = ' '
    · subst hc
      have hrest : allBlank rest = false := by
        rw [allBlank, List.all_cons] at ha
        exact ha
      rw [List.cons_append, indent_cons_space, indent_cons_space, ih hrest]
    · simp [indent, hc]

theorem indent_le_length (l : Line) : indent l ≤ l.length :=
  List.IsPrefix.length_le (List.takeWhile_prefix _)

namespace Shifted

theorem refl (l : Line) : Shifted 0 l l :=
  ⟨l, [], [], rfl, rfl, (List.append_nil l).symm, (List.append_nil l).symm⟩

theorem cons (c : Char) (h : Shifted 0 l l') : Shifted 0 (c :: l) (c :: l') := by
  obtain ⟨core, trail, trail', htrail, htrail', rfl, rfl⟩ := h
  exact ⟨c :: core, trail, trail', htrail, htrail', rfl, rfl⟩

theorem spaces_append (k : Nat) (l : Line) : Shifted k l (spaces k ++ l) :=
  ⟨l, [], [], rfl, rfl, (List.append_nil l).symm, (List.append_nil _).symm⟩

theorem of_allBlank (hl : allBlank l = true) (hl' : allBlank l' = true) : Shifted 0 l l' :=
  ⟨[], l, l', hl, hl', rfl, rfl⟩

theorem trim_eq (h : Shifted k l l') : trim l' = trim l := by
  obtain ⟨core, trail, trail', htrail, htrail', rfl, rfl⟩ := h
  rw [trim_append_right htrail', trim_append_of_allBlank (allBlank_spaces k), trim_append_right htrail]

theorem allBlank_eq (h : Shifted k l l') : allBlank l' = allBlank l := by
  obtain ⟨core, trail, trail', htrail, htrail', rfl, rfl⟩ := h
  rw [allBlank_append, allBlank_append, allBlank_append, htrail, htrail', allBlank_spaces, Bool.true_and]

theorem indent_eq (h : Shifted k l l') (hl : allBlank l = false) : indent l' = indent l + k := by
  obtain ⟨core, trail, trail', htrail, htrail', rfl, rfl⟩ := h
  have hcore : allBlank core = false := by
    rw [allBlank_append, htrail, Bool.and_true] at hl
    exact hl
  rw [List.append_assoc, indent_spaces_append, indent_append hcore, indent_append hcore]

/-- without the shift and a margin the lines are the same -/
theorem dedent_eq (h : Shifted k l l') (hm : allBlank l = false → m ≤ indent l) : dedent (m + k) l' = dedent m l := by
  rw [dedent, dedent, h.allBlank_eq]
  cases hl : allBlank l with
  | true => rfl
  | false =>
    have hindent : m ≤ indent l := hm hl
    obtain ⟨core, trail, trail', htrail, htrail', rfl, rfl⟩ := h
    have hcore : allBlank core = false := by
      rw [allBlank_append, htrail, Bool.and_true] at hl
      exact hl
    rw [indent_append hcore] at hindent
    have hlength : m ≤ core.length := Nat.le_trans hindent (indent_le_length core)
    have hspaces : (spaces k).length = k := List.length_replicate
    have hshift : (spaces k ++ core ++ trail').drop (m + k) = core.drop m ++ trail' := by
      rw [List.append_assoc, Nat.add_comm, ← List.drop_drop, List.drop_left' hspaces,
        List.drop_append_of_le_length hlength]
    simp only [Bool.false_eq_true, if_false]
    rw [hshift, List.drop_append_of_le_length hlength, trimEnd_append_of_allBlank htrail,
      trimEnd_append_of_allBlank htrail']

theorem expandTabs (h : Shifted k l l') : Shifted k (Text.expandTabs l) (Text.expandTabs l') := by
  obtain ⟨core, trail, trail', htrail, htrail', rfl, rfl⟩ := h
  refine ⟨Text.expandTabs core, Text.expandTabs trail, Text.expandTabs trail', allBlank_expandTabs htrail,
    allBlank_expandTabs htrail', expandTabs_append core trail, ?_⟩
  rw [expandTabs_append, expandTabs_append, expandTabs_eq_self (not_mem_spaces k (by decide))]

end Shifted

/-! ## Margins of shifted lines -/

/-- the indentations that count for the margin -/
def indents (ls : List Line) : List Nat :=
  (ls.filter (!allBlank ·)).map indent

theorem indents_shifted (h : List.Forall₂ (Shifted k) ls ls') : indents ls' = (indents ls).map (· + k) := by
  induction h with
  | nil => rfl
  | @cons l l' rest rest' hfirst _ ih =>
    rw [indents, indents, List.filter_cons, List.filter_cons, hfirst.allBlank_eq]
    cases hl : allBlank l with
    | true => exact ih
    | false =>
      simp only [Bool.not_false, if_true, List.map_cons, hfirst.indent_eq hl]
      exact congrArg (_ :: ·) ih

theorem indent_mem_indents (hmem : l ∈ ls) (hl : allBlank l = false) : indent l ∈ indents ls :=
  List.mem_map.2 ⟨l, List.mem_filter.2 ⟨hmem, by simp [hl]⟩, rfl⟩

theorem margin_le (hmem : l ∈ ls) (hl : allBlank l = false) : margin ls ≤ indent l := by
  have hindent := indent_mem_indents hmem hl
  rw [margin, ← indents]
  cases hmin : (indents ls).min? with
  | none => exact Nat.zero_le _
  | some least => exact (List.min?_eq_some_iff.1 hmin).2 _ hindent

theorem margin_shifted (h : List.Forall₂ (Shifted k) ls ls') (hmem : l ∈ ls) (hl : allBlank l = false) :
    margin ls' = margin ls + k := by
  have hindent : indent l ∈ indents ls := List.mem_map.2 ⟨l, List.mem_filter.2 ⟨hmem, by simp [hl]⟩, rfl⟩
  obtain ⟨least, hmin⟩ := Option.isSome_iff_exists.1 (List.isSome_min?_of_mem hindent)
  obtain ⟨hleast, hle⟩ := List.min?_eq_some_iff.1 hmin
  have hmin' : ((indents ls).map (· + k)).min? = some (least + k) := by
    refine List.min?_eq_some_iff.2 ⟨List.mem_map_of_mem hleast, fun n hn => ?_⟩
    obtain ⟨i, hi, rfl⟩ := List.mem_map.1 hn
    exact Nat.add_le_add_right (hle i hi) k
  rw [margin, ← indents, indents_shifted h, hmin', margin, ← indents, hmin]
  rfl

theorem map_dedent_shifted (h : List.Forall₂ (Shifted k) ls ls') :
    ls'.map (dedent (margin ls')) = ls.map (dedent (margin ls)) := by
  have hline : ∀ l ∈ ls, ∀ l', Shifted k l l' → dedent (margin ls') l' = dedent (margin ls) l := by
    intro l hmem l' hshift
    cases hl : allBlank l with
    | true => rw [dedent, dedent, hshift.allBlank_eq, hl, if_pos rfl, if_pos rfl]
    | false =>
      rw [margin_shifted h hmem hl]
      exact hshift.dedent_eq fun hl => margin_le hmem hl
  -- both margins are those of all the lines, also behind the first of them
  generalize margin ls' = m', margin ls = m at hline
  induction h with
  | nil => rfl
  | cons hfirst _ ih =>
    rw [List.forall_mem_cons] at hline
    rw [List.map_cons, List.map_cons, hline.1 _ hfirst, ih hline.2]

/-! ## Clean lines -/

theorem isBareHeader_of_trim_eq (h : trim l' = trim l) : isBareHeader l' = isBareHeader l := by
  rw [isBareHeader, isBareHeader, Header.ofLine?, Header.ofLine?, h]

/-- a shift of all lines is lost with the margin -/
theorem dedentAll_shifted (h : List.Forall₂ (Shifted k) ls ls') : dedentAll ls' = dedentAll ls := by
  cases h with
  | nil => rfl
  | cons hfirst hrest =>
    rw [dedentAll, dedentAll, isBareHeader_of_trim_eq hfirst.trim_eq]
    split
    · exact map_dedent_shifted (.cons hfirst hrest)
    · rw [hfirst.trim_eq, map_dedent_shifted hrest]

/-- tabs do not hide a shift -/
theorem dedentAll_expandTabs_shifted (h : List.Forall₂ (Shifted k) ls ls') :
    dedentAll (ls'.map expandTabs) = dedentAll (ls.map expandTabs) := by
  have htabs : List.Forall₂ (Shifted k) (ls.map expandTabs) (ls'.map expandTabs) := by
    rw [List.forall₂_map_left_iff, List.forall₂_map_right_iff]
    exact h.imp fun _ _ hshift => hshift.expandTabs
  exact dedentAll_shifted htabs

/-- an empty line at the end is dropped, and the margin is not its business -/
theorem trimLines_dedentAll_append_nil (ls : List Line) :
    trimLines (dedentAll (ls ++ [[]])) = trimLines (dedentAll ls) := by
  have hmargin : ∀ lines : List Line, margin (lines ++ [[]]) = margin lines := by
    intro lines
    rw [margin, margin, List.filter_append]
    simp [allBlank]
  have hdedent : ∀ m, dedent m [] = [] := fun m => rfl
  cases ls with
  | nil => decide
  | cons first rest =>
    rw [List.cons_append, dedentAll, dedentAll]
    split
    · rw [← List.cons_append, hmargin, List.map_append, List.map_singleton, hdedent, trimLines_append_nil]
    · rw [hmargin, List.map_append, List.map_singleton, hdedent, ← List.cons_append, trimLines_append_nil]

/-- Cleaning does not see carriage returns at the ends of lines, nor whether the last line is ended. -/
theorem clean_eq_pieces (raw : List Char) :
    clean raw = trimLines (dedentAll ((splitOn (· == '\n') raw).map expandTabs)) := by
  rw [clean, ← splitOn_expandTabs, lines]
  obtain ⟨init, final, hpieces⟩ :=
    (List.eq_nil_or_concat' _).resolve_left (splitOn_ne_nil (· == '\n') (expandTabs raw))
  have hreturns : List.Forall₂ (Shifted 0) (init.map dropReturn) init := by
    rw [List.forall₂_map_left_iff, List.forall₂_same]
    intro l _
    obtain ⟨trail, htrail, hl⟩ := exists_dropReturn l
    exact ⟨dropReturn l, [], trail, rfl, htrail, (List.append_nil _).symm, hl⟩
  rw [hpieces, List.dropLast_concat, List.getLast?_concat, Option.getD_some]
  cases final with
  | nil => rw [trimLines_dedentAll_append_nil, dedentAll_shifted hreturns]; simp
  | cons c rest =>
    have hall : List.Forall₂ (Shifted 0) (init.map dropReturn ++ [c :: rest]) (init ++ [c :: rest]) :=
      List.rel_append hreturns (.cons (.refl _) .nil)
    rw [dedentAll_shifted hall]
    rfl

end ToolSchema.Docstring
