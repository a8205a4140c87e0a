/-
Clean lines, line by line up to the blanks around each.

Cleaning moves lines and drops blank ones at both ends, and the text of every line stays (`map_trim_clean`). Prose is
lines put together again, so cleaning it once more gives the same lines up to their blanks (`map_trim_clean_prose`):
whatever is read off trimmed lines is read off clean prose as before.
- `exists_infix_of_mem_clean`: a clean line is a part of one line of the text.
- `summary_clean_prose`, `summary_eq_trim_firstLine`: the first line with text is the same in the lines, in the clean
  prose, and at the top of the prose.
-/
import Mathlib.Data.List.DropRight
import Mathlib.Data.List.TakeWhile
import ToolSchema.Proofs.Docstring.Reset
import ToolSchema.Proofs.Text.Parts

namespace ToolSchema.Docstring

open Text

variable {a b cs raw : List Char} {m : Nat} {l : Line} {ls : List Line}

/-! ## Empty lines at both ends -/

theorem trimLines_cons (hne : l ≠ []) (ls : List Line) :
    trimLines (l :: ls) = l :: (ls.reverse.dropWhile (·.isEmpty)).reverse := by
  have hfilled : l.isEmpty = false := by simpa using hne
  have hlast : ∀ rev : List Line, (rev ++ [l]).dropWhile (·.isEmpty) = rev.dropWhile (·.isEmpty) ++ [l] := by
    intro rev
    rw [List.dropWhile_append]
    split
    · next hempty =>
      rw [List.isEmpty_iff.1 hempty]
      simp [hfilled]
    · rfl
  rw [trimLines, List.dropWhile_cons, hfilled]
  simp only [Bool.false_eq_true, if_false, List.reverse_cons, hlast, List.reverse_append, List.reverse_nil,
    List.nil_append, List.singleton_append]

/-- without what is blank at both ends -/
def trimEnds {α : Type} (blank : α → Bool) (as : List α) : List α :=
  (as.dropWhile blank).rdropWhile blank

theorem trimEnds_isInfix {α : Type} (blank : α → Bool) (as : List α) : trimEnds blank as <:+: as :=
  (List.rdropWhile_prefix blank _).isInfix.trans (List.dropWhile_suffix blank).isInfix

theorem mem_dropWhile {α : Type} {blank : α → Bool} {a : α} {as : List α} (hmem : a ∈ as) (ha : blank a = false) :
    a ∈ as.dropWhile blank := by
  rw [← List.takeWhile_append_dropWhile (p := blank) (l := as), List.mem_append] at hmem
  refine hmem.resolve_left fun htake => ?_
  rw [List.mem_takeWhile_imp htake] at ha
  cases ha

theorem mem_trimEnds {α : Type} {blank : α → Bool} {a : α} {as : List α} (hmem : a ∈ as) (ha : blank a = false) :
    a ∈ trimEnds blank as := by
  rw [trimEnds, List.rdropWhile, List.mem_reverse]
  exact mem_dropWhile (List.mem_reverse.2 (mem_dropWhile hmem ha)) ha

theorem trimEnds_eq_nil_iff {α : Type} {blank : α → Bool} {as : List α} :
    trimEnds blank as = [] ↔ ∀ a ∈ as, blank a = true := by
  refine ⟨fun h a ha => ?_, fun h => ?_⟩
  · by_contra hfilled
    exact List.eq_nil_iff_forall_not_mem.1 h a (mem_trimEnds ha (eq_false_of_ne_true hfilled))
  · rw [trimEnds, List.dropWhile_eq_nil_iff.2 h]
    rfl

/-- lines that are written for things one by one, empty lines for the blank ones -/
theorem trimLines_map_eq {α : Type} {as : List α} {blank : α → Bool} {f : α → Line}
    (h : ∀ a ∈ as, (f a).isEmpty = blank a) : trimLines (as.map f) = (trimEnds blank as).map f := by
  have hdrop : ∀ part : List α, (∀ a ∈ part, (f a).isEmpty = blank a) →
      (part.map f).dropWhile (·.isEmpty) = (part.dropWhile blank).map f := by
    intro part hpart
    induction part with
    | nil => rfl
    | cons a rest ih =>
      rw [List.forall_mem_cons] at hpart
      rw [List.map_cons, List.dropWhile_cons, List.dropWhile_cons, hpart.1, ih hpart.2]
      split
      · rfl
      · rfl
  have hrest : ∀ a ∈ (as.dropWhile blank).reverse, (f a).isEmpty = blank a := by
    intro a ha
    exact h a ((List.dropWhile_sublist _).subset (List.mem_reverse.1 ha))
  rw [trimLines, trimEnds, List.rdropWhile, hdrop as h, ← List.map_reverse, hdrop _ hrest, List.map_reverse]

/-- dropping empty lines and rewriting the others are independent -/
theorem trimLines_map {f : Line → Line} (h : ∀ l ∈ ls, (f l).isEmpty = l.isEmpty) :
    trimLines (ls.map f) = (trimLines ls).map f :=
  trimLines_map_eq h

/-- what is left are lines that follow each other -/
theorem trimLines_isInfix (ls : List Line) : trimLines ls <:+: ls := by
  have hfirst : ls.dropWhile (·.isEmpty) <:+ ls := List.dropWhile_suffix _
  have hlast : trimLines ls <+: ls.dropWhile (·.isEmpty) := by
    rw [trimLines, ← List.reverse_suffix, List.reverse_reverse]
    exact List.dropWhile_suffix _
  exact hlast.isInfix.trans hfirst.isInfix

theorem head?_trimLines (ls : List Line) : (trimLines ls).head? = ls.find? (!·.isEmpty) := by
  induction ls with
  | nil => rfl
  | cons l rest ih =>
    cases l with
    | nil => exact ih
    | cons c more =>
      rw [trimLines_cons (List.cons_ne_nil c more)]
      rfl

/-! ## The text of clean lines -/

theorem allBlank_take (h : m ≤ indent l) : allBlank (l.take m) = true := by
  have hspaces : l.take m = (l.takeWhile (· == ' ')).take m := by
    rw [List.prefix_iff_eq_take.1 (List.takeWhile_prefix (l := l) (· == ' ')), List.take_take]
    exact congrArg (l.take ·) (Nat.min_eq_left h).symm
  rw [hspaces, allBlank, List.all_eq_true]
  intro c hc
  have hspace : c = ' ' := by simpa using List.mem_takeWhile_imp (List.mem_of_mem_take hc)
  rw [hspace]
  decide

theorem trim_dedent (h : allBlank l = false → m ≤ indent l) : trim (dedent m l) = trim l := by
  rw [dedent]
  cases hl : allBlank l with
  | true =>
    rw [trim_of_allBlank hl]
    rfl
  | false =>
    have hsplit : l = l.take m ++ l.drop m := (List.take_append_drop m l).symm
    simp only [Bool.false_eq_true, if_false]
    rw [trim_trimEnd]
    conv_rhs => rw [hsplit, trim_append_of_allBlank (allBlank_take (h hl))]

theorem map_trim_dedentAll (ls : List Line) : (dedentAll ls).map trim = ls.map trim := by
  have hmap : ∀ part : List Line, (part.map (dedent (margin part))).map trim = part.map trim := by
    intro part
    rw [List.map_map]
    apply List.map_congr_left
    intro l hl
    exact trim_dedent fun hfilled => margin_le hl hfilled
  cases ls with
  | nil => rfl
  | cons first rest =>
    rw [dedentAll]
    split
    · exact hmap (first :: rest)
    · rw [List.map_cons, hmap rest, trim_trim, List.map_cons]

theorem trimEnd_trim (cs : List Char) : trimEnd (trim cs) = trim cs :=
  trimEnd_trimEnd _

theorem trimEnd_dedent (m : Nat) (l : Line) : trimEnd (dedent m l) = dedent m l := by
  rw [dedent]
  split
  · rfl
  · exact trimEnd_trimEnd _

theorem trimEnd_of_mem_dedentAll (h : l ∈ dedentAll ls) : trimEnd l = l := by
  cases ls with
  | nil => exact absurd h List.not_mem_nil
  | cons first rest =>
    rw [dedentAll] at h
    split at h
    · obtain ⟨line, -, rfl⟩ := List.mem_map.1 h
      exact trimEnd_dedent _ _
    · rcases List.mem_cons.1 h with rfl | h
      · exact trimEnd_trim first
      · obtain ⟨line, -, rfl⟩ := List.mem_map.1 h
        exact trimEnd_dedent _ _

/-- a line without blanks at its end is blank only if it is empty -/
theorem isEmpty_trim_of_trimEnd (h : trimEnd l = l) : (trim l).isEmpty = l.isEmpty := by
  rw [isEmpty_trim, ← isEmpty_trimEnd, h]

/-- **Cleaning keeps the text of every line.** -/
theorem map_trim_clean (raw : List Char) :
    (clean raw).map trim = trimLines ((splitOn (· == '\n') raw).map fun piece => trim (expandTabs piece)) := by
  rw [clean_eq_pieces, ← trimLines_map fun l hl => isEmpty_trim_of_trimEnd (trimEnd_of_mem_dedentAll hl), map_trim_dedentAll,
    List.map_map]
  rfl

/-! ## Clean lines in the text -/

theorem dedent_isInfix (m : Nat) (l : Line) : dedent m l <:+: l := by
  rw [dedent]
  split
  · exact List.nil_infix
  · exact (trimEnd_isPrefix _).isInfix.trans (List.drop_suffix m l).isInfix

theorem exists_infix_of_mem_dedentAll (h : l ∈ dedentAll ls) : ∃ line ∈ ls, l <:+: line := by
  cases ls with
  | nil => exact absurd h List.not_mem_nil
  | cons first rest =>
    rw [dedentAll] at h
    split at h
    · obtain ⟨line, hline, rfl⟩ := List.mem_map.1 h
      exact ⟨line, hline, dedent_isInfix _ _⟩
    · rcases List.mem_cons.1 h with rfl | h
      · exact ⟨first, List.mem_cons_self, trim_isInfix first⟩
      · obtain ⟨line, hline, rfl⟩ := List.mem_map.1 h
        exact ⟨line, List.mem_cons_of_mem _ hline, dedent_isInfix _ _⟩

theorem exists_infix_of_mem_clean (h : l ∈ clean raw) :
    ∃ piece ∈ splitOn (· == '\n') (expandTabs raw), l <:+: piece := by
  rw [clean_eq_pieces, ← splitOn_expandTabs] at h
  exact exists_infix_of_mem_dedentAll ((trimLines_isInfix _).subset h)

/-- neither line feeds nor tabs -/
def IsFlat (l : Line) : Prop :=
  '\n' ∉ l ∧ '\t' ∉ l

theorem isFlat_of_mem_clean (h : l ∈ clean raw) : IsFlat l := by
  obtain ⟨piece, hpiece, hl⟩ := exists_infix_of_mem_clean h
  refine ⟨fun hfeed => ?_, fun htab => ?_⟩
  · have hnone := separator_of_mem_splitOn hpiece (hl.subset hfeed)
    cases hnone
  · exact not_mem_expandTabs raw ((infix_of_mem_splitOn hpiece).subset (hl.subset htab))

/-! ## Prose -/

/-- the trimmed lines of a text, without the empty ones at both ends -/
def trimmedLines (cs : List Char) : List Line :=
  trimLines ((splitOn (· == '\n') cs).map trim)

theorem trimmedLines_append_left (ha : allBlank a = true) : trimmedLines (a ++ b) = trimmedLines b := by
  induction a with
  | nil => rfl
  | cons c rest ih =>
    rw [allBlank, List.all_cons, Bool.and_eq_true] at ha
    rw [← ih ha.2, List.cons_append, trimmedLines, trimmedLines]
    by_cases hc : c = '\n'
    · subst hc
      rfl
    · have hfeed : ∀ x ∈ [c], (x == '\n') = false := by simp [hc]
      have hblank : allBlank [c] = true := by simp [allBlank, ha.1]
      obtain ⟨piece, pieces, hpieces⟩ := List.exists_cons_of_ne_nil (splitOn_ne_nil (· == '\n') (rest ++ b))
      have hcons : splitOn (· == '\n') (c :: (rest ++ b)) = ([c] ++ piece) :: pieces :=
        splitOn_append_left hfeed hpieces
      rw [hcons, hpieces, List.map_cons, List.map_cons, trim_append_of_allBlank hblank]

theorem trimmedLines_append_right (hb : allBlank b = true) : trimmedLines (a ++ b) = trimmedLines a := by
  induction b generalizing a with
  | nil => rw [List.append_nil]
  | cons c rest ih =>
    rw [allBlank, List.all_cons, Bool.and_eq_true] at hb
    rw [List.append_cons, ih hb.2, trimmedLines, trimmedLines]
    by_cases hc : c = '\n'
    · subst hc
      rw [splitOn_append_cons rfl, List.map_append]
      exact trimLines_append_nil _
    · -- a blank at the end of the last piece
      have hshift : List.Forall₂ (Shifted 0) (splitOn (· == '\n') a) (splitOn (· == '\n') (a ++ [c])) := by
        induction a with
        | nil =>
          have hpiece : splitOn (· == '\n') [c] = [[c]] := splitOn_eq_singleton (by simp [hc])
          rw [List.nil_append, hpiece]
          exact .cons (.of_allBlank rfl (by simp [allBlank, hb.1])) .nil
        | cons x more ihmore => exact forall₂_shifted_cons x ihmore
      have htrim : (splitOn (· == '\n') (a ++ [c])).map trim = (splitOn (· == '\n') a).map trim := by
        rw [← List.forall₂_eq_eq_eq, List.forall₂_map_left_iff, List.forall₂_map_right_iff]
        exact hshift.flip.imp fun _ _ h => Shifted.trim_eq h
      rw [htrim]

theorem trimmedLines_trim (cs : List Char) : trimmedLines (trim cs) = trimmedLines cs := by
  obtain ⟨lead, trail, hlead, htrail, hcs⟩ := exists_trim cs
  conv_rhs => rw [hcs, trimmedLines_append_right htrail, trimmedLines_append_left hlead]

theorem trimmedLines_prose (h : ∀ l ∈ ls, '\n' ∉ l) : trimmedLines (prose ls) = trimLines (ls.map trim) := by
  rw [prose, trimmedLines_trim]
  cases ls with
  | nil => rfl
  | cons l rest => rw [trimmedLines, joinLines, splitOn_intercalate (List.cons_ne_nil l rest) h]

theorem map_trim_clean_of_not_mem (h : '\t' ∉ cs) : (clean cs).map trim = trimmedLines cs := by
  rw [map_trim_clean, trimmedLines]
  congr 1
  apply List.map_congr_left
  intro piece hpiece
  rw [expandTabs_eq_self fun htab => h ((infix_of_mem_splitOn hpiece).subset htab)]

/-- **Prose that is cleaned again has its lines, up to the blanks around them.** -/
theorem map_trim_clean_prose (h : ∀ l ∈ ls, IsFlat l) : (clean (prose ls)).map trim = trimLines (ls.map trim) := by
  have htab : '\t' ∉ prose ls := by
    intro hmem
    exact not_mem_intercalate (by decide) (fun l hl => (h l hl).2) (mem_of_mem_trim hmem)
  rw [map_trim_clean_of_not_mem htab, trimmedLines_prose fun l hl => (h l hl).1]

/-! ## The first line -/

/-- the text up to the first line end -/
def firstLine (cs : List Char) : Line :=
  (lines cs).head?.getD []

theorem find?_trimLines (ls : List Line) : (trimLines ls).find? (!·.isEmpty) = ls.find? (!·.isEmpty) := by
  have hhead := head?_trimLines ls
  cases htrim : trimLines ls with
  | nil =>
    rw [htrim] at hhead
    exact hhead
  | cons l rest =>
    rw [htrim, List.head?_cons] at hhead
    rw [List.find?_cons_of_pos (List.find?_some hhead.symm), hhead]

/-- the summary is read off trimmed lines, and empty ones do not count -/
theorem summary_clean_prose (h : ∀ l ∈ ls, IsFlat l) : summary (clean (prose ls)) = summary ls := by
  rw [summary, map_trim_clean_prose h, find?_trimLines, summary]

theorem trim_firstLine (cs : List Char) : trim (firstLine cs) = trim ((splitOn (· == '\n') cs).head?.getD []) := by
  obtain ⟨piece, pieces, hpieces⟩ := List.exists_cons_of_ne_nil (splitOn_ne_nil (· == '\n') cs)
  rw [firstLine, lines, hpieces]
  cases pieces with
  | nil =>
    cases piece with
    | nil => rfl
    | cons c rest => rfl
  | cons next more =>
    simp only [List.dropLast_cons_cons, List.map_cons, List.cons_append, List.head?_cons, Option.getD_some]
    exact trim_dropReturn piece

theorem allBlank_firstLine (h : allBlank cs = true) : allBlank (firstLine cs) = true := by
  obtain ⟨piece, pieces, hpieces⟩ := List.exists_cons_of_ne_nil (splitOn_ne_nil (· == '\n') cs)
  have hpiece : piece ∈ splitOn (· == '\n') cs := hpieces ▸ List.mem_cons_self
  rw [← allBlank_trim, trim_firstLine, allBlank_trim, hpieces, List.head?_cons, Option.getD_some]
  exact allBlank_of_isInfix (infix_of_mem_splitOn hpiece) h

theorem isBlank_of_trim_eq_self {c : Char} (htrim : trim (c :: cs) = c :: cs) : isBlank c = false := by
  cases hblank : allBlank (c :: cs) with
  | true =>
    rw [trim_of_allBlank hblank] at htrim
    cases htrim
  | false =>
    obtain ⟨d, ds, hcons, hd⟩ := exists_trim_eq_cons hblank
    rw [htrim] at hcons
    cases hcons
    exact hd

/-- a trimmed text has text in its first line -/
theorem exists_first_piece {c : Char} (htrim : trim (c :: cs) = c :: cs) :
    ∃ piece pieces, splitOn (· == '\n') (c :: cs) = piece :: pieces ∧ (trim piece).isEmpty = false := by
  have hblank : isBlank c = false := isBlank_of_trim_eq_self htrim
  have hfeed : ∀ x ∈ [c], (x == '\n') = false := by
    intro x hx
    rw [List.mem_singleton.1 hx, beq_eq_false_iff_ne]
    rintro rfl
    cases hblank
  obtain ⟨piece, pieces, hpieces⟩ := List.exists_cons_of_ne_nil (splitOn_ne_nil (· == '\n') cs)
  refine ⟨c :: piece, pieces, splitOn_append_left hfeed hpieces, ?_⟩
  rw [trim_cons hblank]
  rfl

theorem trim_firstLine_eq_head? (htrim : trim cs = cs) :
    trim (firstLine cs) = (trimmedLines cs).head?.getD [] := by
  rw [trim_firstLine, trimmedLines, head?_trimLines]
  cases cs with
  | nil => rfl
  | cons c rest =>
    obtain ⟨piece, pieces, hpieces, hfilled⟩ := exists_first_piece htrim
    rw [hpieces, List.map_cons, List.find?_cons_of_pos (by simp [hfilled])]
    rfl

/-- **The summary of lines is the first line of their prose.** -/
theorem summary_eq_trim_firstLine (h : ∀ l ∈ ls, '\n' ∉ l) : summary ls = trim (firstLine (prose ls)) := by
  have htrim : trim (prose ls) = prose ls := trim_trim _
  rw [trim_firstLine_eq_head? htrim, trimmedLines_prose h, head?_trimLines, summary]

theorem summary_eq_nil_iff (h : ∀ l ∈ ls, '\n' ∉ l) : summary ls = [] ↔ prose ls = [] := by
  have htrim : trim (prose ls) = prose ls := trim_trim _
  rw [summary_eq_trim_firstLine h, trim_firstLine]
  cases hprose : prose ls with
  | nil => exact iff_of_true rfl rfl
  | cons c rest =>
    rw [hprose] at htrim
    obtain ⟨piece, pieces, hpieces, hfilled⟩ := exists_first_piece htrim
    rw [hpieces, List.head?_cons, Option.getD_some, ← List.isEmpty_iff, hfilled]
    exact iff_of_false Bool.false_ne_true (List.cons_ne_nil c rest)

end ToolSchema.Docstring
