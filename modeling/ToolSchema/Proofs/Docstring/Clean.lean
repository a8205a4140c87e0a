/-
Cleaning a text that was written line by line without a margin.

`clean_unlines`: where some line after the first has no indentation, cleaning takes blanks away at the ends of lines and
before the first line, and nothing else.
-/
import ToolSchema.Docstring.Clean
import ToolSchema.Proofs.Text.Split

namespace ToolSchema.Docstring

open Text

variable {first last line : Line} {before rest ls : List Line}

/-! ## Carriage returns -/

/-- cleaning does not see a carriage return at the end of a line -/
theorem trimEnd_dropReturn (l : Line) : trimEnd (dropReturn l) = trimEnd l := by
  obtain ⟨trail, htrail, hl⟩ := exists_dropReturn l
  rw [congrArg trimEnd hl, trimEnd_append_of_allBlank htrail]

theorem allBlank_dropReturn (l : Line) : allBlank (dropReturn l) = allBlank l := by
  rw [← allBlank_trimEnd, trimEnd_dropReturn, allBlank_trimEnd]

theorem trim_dropReturn (l : Line) : trim (dropReturn l) = trim l := by
  rw [← trim_trimEnd, trimEnd_dropReturn, trim_trimEnd]

theorem mem_of_mem_dropReturn {c : Char} (h : c ∈ dropReturn line) : c ∈ line := by
  obtain ⟨trail, -, hl⟩ := exists_dropReturn line
  rw [hl]
  exact List.mem_append_left trail h

theorem indent_eq_zero_iff : indent line = 0 ↔ line.head? ≠ some ' ' := by
  cases line with
  | nil => simp [indent]
  | cons c rest =>
    by_cases h : c = ' '
    · simp [indent, h]
    · simp [indent, h]

theorem indent_cons_space (line : Line) : indent (' ' :: line) = indent line + 1 := by
  rw [indent, List.takeWhile_cons, if_pos (by decide), List.length_cons, indent]

theorem indent_dropReturn (h : indent line = 0) : indent (dropReturn line) = 0 := by
  rw [indent_eq_zero_iff] at h ⊢
  obtain ⟨trail, -, hl⟩ := exists_dropReturn line
  intro hhead
  rw [hl, List.head?_append, hhead] at h
  exact h rfl

/-! ## Margins -/

theorem margin_eq_zero (hmem : line ∈ ls) (hline : allBlank line = false) (hindent : indent line = 0) :
    margin ls = 0 := by
  have hzero : 0 ∈ (ls.filter (!allBlank ·)).map indent :=
    List.mem_map.2 ⟨line, List.mem_filter.2 ⟨hmem, by simp [hline]⟩, hindent⟩
  have hmin : ((ls.filter (!allBlank ·)).map indent).min? = some 0 :=
    List.min?_eq_some_iff.2 ⟨hzero, fun _ _ => Nat.zero_le _⟩
  rw [margin, hmin]
  rfl

theorem dedent_zero (line : Line) : dedent 0 line = trimEnd line := by
  rw [dedent, List.drop_zero]
  split
  · next h => exact (trimEnd_of_allBlank h).symm
  · rfl

/-! ## Lines -/

theorem trimLines_eq_self (hfirst : first ≠ []) (hlast : last ≠ []) :
    trimLines (first :: (before ++ [last])) = first :: (before ++ [last]) := by
  have hstart : (first :: (before ++ [last])).dropWhile (·.isEmpty) = first :: (before ++ [last]) := by
    simp [hfirst]
  have hreverse : (first :: (before ++ [last])).reverse = last :: (first :: before).reverse := by simp
  have hend : (last :: (first :: before).reverse).dropWhile (·.isEmpty) = last :: (first :: before).reverse := by
    rw [List.dropWhile_cons, if_neg (by simp [hlast])]
  rw [trimLines, hstart, hreverse, hend, ← hreverse, List.reverse_reverse]

/-- an empty line at the end is dropped -/
theorem trimLines_append_nil (ls : List Line) : trimLines (ls ++ [[]]) = trimLines ls := by
  rw [trimLines, trimLines, List.dropWhile_append]
  split
  · next h => rw [List.isEmpty_iff.1 h]; rfl
  · rw [List.reverse_append]; rfl

/-- a header has a colon -/
theorem Header.ofLine?_eq_none (h : ':' ∉ line) : Header.ofLine? line = none := by
  have hcolon : ':' ∉ trim line := fun hmem => h (mem_of_mem_trim hmem)
  rw [Header.ofLine?, splitOnce_eq_none hcolon]
  rfl

theorem isBareHeader_eq_false (h : ':' ∉ line) : isBareHeader line = false := by
  rw [isBareHeader, Header.ofLine?_eq_none h]

theorem not_mem_unlines {c : Char} (h : ∀ l ∈ ls, c ∉ l) (hc : c ≠ '\n') : c ∉ unlines ls := by
  intro hmem
  obtain ⟨l, hl, hcl⟩ := List.mem_flatMap.1 hmem
  rcases List.mem_append.1 hcl with hcl | hcl
  · exact h l hl hcl
  · exact hc (List.mem_singleton.1 hcl)

/-- **Cleaning a written text.** -/
theorem clean_unlines (hfeed : ∀ l ∈ first :: (before ++ [last]), '\n' ∉ l)
    (htab : ∀ l ∈ first :: (before ++ [last]), '\t' ∉ l) (hcolon : ':' ∉ first) (hfirst : allBlank first = false)
    (hlast : allBlank last = false) (hmargin : ∃ l ∈ before ++ [last], allBlank l = false ∧ indent l = 0) :
    clean (unlines (first :: (before ++ [last]))) = trim first :: (before ++ [last]).map trimEnd := by
  have hheader : isBareHeader (dropReturn first) = false :=
    isBareHeader_eq_false fun h => hcolon (mem_of_mem_dropReturn h)
  have hzero : margin ((before ++ [last]).map dropReturn) = 0 := by
    obtain ⟨l, hmem, hl, hindent⟩ := hmargin
    exact margin_eq_zero (List.mem_map_of_mem hmem) ((allBlank_dropReturn l).trans hl) (indent_dropReturn hindent)
  have hdedent : ((before ++ [last]).map dropReturn).map (dedent 0) = (before ++ [last]).map trimEnd := by
    rw [List.map_map]
    apply List.map_congr_left
    intro l _
    rw [Function.comp_apply, dedent_zero, trimEnd_dropReturn]
  have hall : dedentAll ((first :: (before ++ [last])).map dropReturn) =
      trim first :: (before ++ [last]).map trimEnd := by
    rw [List.map_cons, dedentAll, hheader, hzero, hdedent, trim_dropReturn]
    rfl
  rw [clean, expandTabs_eq_self (not_mem_unlines htab (by decide)), lines_unlines hfeed, hall, List.map_append,
    List.map_singleton]
  refine trimLines_eq_self ?_ ?_
  · obtain ⟨d, ds, htrim, -⟩ := exists_trim_eq_cons hfirst
    rw [htrim]
    exact List.cons_ne_nil d ds
  · intro hnil
    have hblank := allBlank_trimEnd last
    rw [hnil, hlast] at hblank
    cases hblank

/-- a single line that is trimmed already -/
theorem clean_eq_singleton (hne : line ≠ []) (htrim : trim line = line) (hfeed : '\n' ∉ line) (htab : '\t' ∉ line)
    (hcolon : ':' ∉ line) : clean line = [line] := by
  have hall : dedentAll [line] = [line] := by
    rw [dedentAll, isBareHeader_eq_false hcolon, htrim]
    rfl
  rw [clean, expandTabs_eq_self htab, lines_eq_singleton hne hfeed, hall]
  simp [trimLines, hne]

end ToolSchema.Docstring
