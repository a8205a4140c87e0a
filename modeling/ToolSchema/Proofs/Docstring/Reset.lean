/-
Texts set differently on the page.

`Reset` is one change of the setting: all lines moved to the right, every line feed turned into a carriage return and a
line feed, or spaces put at the end of a line. Such a change shifts all the pieces between line feeds by the same number
of spaces, and else touches the blanks at their ends only (`Reset.forall₂_shifted`). So `clean` does not see it
(`clean_reset`), and neither does any layout (`extract_reset`).
-/
import Mathlib.Logic.Relation
import ToolSchema.Docstring.Extract
import ToolSchema.Proofs.Docstring.Margin

namespace ToolSchema.Docstring

open Text

/-! ## Settings -/

/-- put other characters in the place of every line feed -/
def refeed (feed cs : List Char) : List Char :=
  cs.flatMap fun c => if c = '\n' then feed else [c]

/-- spaces in front of every line, the first one included -/
def indentLines (k : Nat) (cs : List Char) : List Char :=
  spaces k ++ refeed ('\n' :: spaces k) cs

/-- a carriage return before every line feed -/
def withReturns (cs : List Char) : List Char :=
  refeed ['\r', '\n'] cs

/-- what comes behind a line: nothing, a line feed, or a carriage return with a line feed -/
inductive EndsLine : List Char → Prop where
  | text : EndsLine []
  | feed (rest : List Char) : EndsLine ('\n' :: rest)
  | returnFeed (rest : List Char) : EndsLine ('\r' :: '\n' :: rest)

/-- one change of the setting of a text -/
inductive Reset : List Char → List Char → Prop where
  | indented (k : Nat) (cs : List Char) : Reset cs (indentLines k cs)
  | returns (cs : List Char) : Reset cs (withReturns cs)
  | padded (k : Nat) (before : List Char) {after : List Char} (h : EndsLine after) :
      Reset (before ++ after) (before ++ (spaces k ++ after))

variable {k : Nat} {a b cs raw raw' : List Char}

/-! ## Pieces between line feeds -/

theorem splitOn_spaces_append (k : Nat) {piece : List Char} {pieces : List (List Char)}
    (h : splitOn (· == '\n') cs = piece :: pieces) :
    splitOn (· == '\n') (spaces k ++ cs) = (spaces k ++ piece) :: pieces :=
  splitOn_append_left (beq_of_not_mem (not_mem_spaces k (by decide))) h

/-- the same character in front of both texts -/
theorem forall₂_shifted_cons (c : Char)
    (h : List.Forall₂ (Shifted 0) (splitOn (· == '\n') a) (splitOn (· == '\n') b)) :
    List.Forall₂ (Shifted 0) (splitOn (· == '\n') (c :: a)) (splitOn (· == '\n') (c :: b)) := by
  by_cases hc : c = '\n'
  · subst hc
    exact .cons (.refl []) h
  · have hfeed : ∀ x ∈ [c], (x == '\n') = false := by simp [hc]
    obtain ⟨piece, pieces, ha⟩ := List.exists_cons_of_ne_nil (splitOn_ne_nil (· == '\n') a)
    obtain ⟨piece', pieces', hb⟩ := List.exists_cons_of_ne_nil (splitOn_ne_nil (· == '\n') b)
    have hconsa : splitOn (· == '\n') (c :: a) = (c :: piece) :: pieces := splitOn_append_left hfeed ha
    have hconsb : splitOn (· == '\n') (c :: b) = (c :: piece') :: pieces' := splitOn_append_left hfeed hb
    rw [ha, hb] at h
    rw [hconsa, hconsb]
    cases h with
    | cons hpiece hpieces => exact .cons (hpiece.cons c) hpieces

theorem forall₂_shifted_self (ls : List Line) : List.Forall₂ (Shifted 0) ls ls :=
  List.forall₂_same.2 fun l _ => .refl l

theorem splitOn_indentLines (k : Nat) (cs : List Char) :
    splitOn (· == '\n') (indentLines k cs) = (splitOn (· == '\n') cs).map (spaces k ++ ·) := by
  -- behind the first piece every piece gets its spaces with the line feed before it
  have hrefeed : ∀ piece pieces, splitOn (· == '\n') cs = piece :: pieces →
      splitOn (· == '\n') (refeed ('\n' :: spaces k) cs) = piece :: pieces.map (spaces k ++ ·) := by
    induction cs with
    | nil =>
      intro piece pieces h
      cases h
      rfl
    | cons c rest ih =>
      intro piece pieces h
      obtain ⟨first, more, hrest⟩ := List.exists_cons_of_ne_nil (splitOn_ne_nil (· == '\n') rest)
      have hih := ih first more hrest
      by_cases hc : c = '\n'
      · subst hc
        have hpieces : splitOn (· == '\n') ('\n' :: rest) = [] :: splitOn (· == '\n') rest := rfl
        rw [hpieces, hrest] at h
        cases h
        have hnext : refeed ('\n' :: spaces k) ('\n' :: rest) =
            [] ++ '\n' :: (spaces k ++ refeed ('\n' :: spaces k) rest) := rfl
        rw [hnext, splitOn_append_cons rfl, splitOn_spaces_append k hih]
        rfl
      · have hfeed : ∀ x ∈ [c], (x == '\n') = false := by simp [hc]
        have hpieces : splitOn (· == '\n') (c :: rest) = (c :: first) :: more := splitOn_append_left hfeed hrest
        rw [hpieces] at h
        cases h
        have hnext : refeed ('\n' :: spaces k) (c :: rest) = [c] ++ refeed ('\n' :: spaces k) rest := by
          rw [refeed, List.flatMap_cons, if_neg hc]
          rfl
        rw [hnext, splitOn_append_left hfeed hih]
        rfl
  obtain ⟨piece, pieces, h⟩ := List.exists_cons_of_ne_nil (splitOn_ne_nil (· == '\n') cs)
  rw [indentLines, splitOn_spaces_append k (hrefeed piece pieces h), h, List.map_cons]

theorem forall₂_shifted_withReturns (cs : List Char) :
    List.Forall₂ (Shifted 0) (splitOn (· == '\n') cs) (splitOn (· == '\n') (withReturns cs)) := by
  induction cs with
  | nil => exact forall₂_shifted_self _
  | cons c rest ih =>
    by_cases hc : c = '\n'
    · subst hc
      exact .cons (.of_allBlank (by decide) (by decide)) ih
    · have hnext : withReturns (c :: rest) = c :: withReturns rest := by
        rw [withReturns, refeed, List.flatMap_cons, if_neg hc]
        rfl
      rw [hnext]
      exact forall₂_shifted_cons c ih

/-- spaces at the end of a line are at the end of its piece -/
theorem forall₂_shifted_padded (k : Nat) (before : List Char) {after : List Char} (h : EndsLine after) :
    List.Forall₂ (Shifted 0) (splitOn (· == '\n') (before ++ after))
      (splitOn (· == '\n') (before ++ (spaces k ++ after))) := by
  induction before with
  | nil =>
    rw [List.nil_append, List.nil_append]
    cases h with
    | text =>
      have hpieces : splitOn (· == '\n') (spaces k ++ []) = [spaces k ++ []] := splitOn_spaces_append k rfl
      rw [hpieces, List.append_nil]
      exact .cons (.of_allBlank rfl (allBlank_spaces k)) .nil
    | feed rest =>
      rw [splitOn_append_cons rfl, splitOn_eq_singleton (beq_of_not_mem (not_mem_spaces k (by decide)))]
      exact .cons (.of_allBlank rfl (allBlank_spaces k)) (forall₂_shifted_self _)
    | returnFeed rest =>
      have hreturn : splitOn (· == '\n') ('\r' :: '\n' :: rest) = ['\r'] :: splitOn (· == '\n') rest := rfl
      have hblank : allBlank (spaces k ++ ['\r']) = true := by
        rw [allBlank_append, allBlank_spaces]
        decide
      rw [splitOn_spaces_append k hreturn, hreturn]
      exact .cons (.of_allBlank (by decide) hblank) (forall₂_shifted_self _)
  | cons c rest ih => exact forall₂_shifted_cons c ih

/-- One change shifts all pieces alike. -/
theorem Reset.forall₂_shifted (h : Reset raw raw') :
    ∃ k, List.Forall₂ (Shifted k) (splitOn (· == '\n') raw) (splitOn (· == '\n') raw') := by
  cases h with
  | indented k =>
    refine ⟨k, ?_⟩
    rw [splitOn_indentLines, List.forall₂_map_right_iff, List.forall₂_same]
    exact fun l _ => .spaces_append k l
  | returns => exact ⟨0, forall₂_shifted_withReturns raw⟩
  | padded k before hends => exact ⟨0, forall₂_shifted_padded k before hends⟩

/-! ## Extraction -/

theorem Reset.clean_eq (h : Reset raw raw') : clean raw' = clean raw := by
  obtain ⟨k, hpieces⟩ := h.forall₂_shifted
  rw [clean_eq_pieces, clean_eq_pieces, dedentAll_expandTabs_shifted hpieces]

theorem clean_reset (h : Relation.EqvGen Reset raw raw') : clean raw' = clean raw := by
  induction h with
  | rel _ _ hstep => exact hstep.clean_eq
  | refl => rfl
  | symm _ _ _ ih => exact ih.symm
  | trans _ _ _ _ _ ihfirst ihsecond => exact ihsecond.trans ihfirst

/-- **The setting of a text does not matter.** Take any text and change it, as often as wanted and back and forth: put
any number of spaces in front of every line, the first one included; turn every line feed into a carriage return and a
line feed; put spaces at the end of any lines. Its clean lines stay the same, and so does all that is extracted, for any
parameter names. -/
theorem extract_reset {raw raw' : String} (h : Relation.EqvGen Reset raw.toList raw'.toList) (names : List String) :
    clean raw'.toList = clean raw.toList ∧ extract raw' names = extract raw names := by
  have hclean : clean raw'.toList = clean raw.toList := clean_reset h
  refine ⟨hclean, ?_⟩
  rw [extract, extract, hclean]

/-- A bare header on the first line, moved to the right with its body and ended in another way. -/
theorem extract_reset_header :
    Relation.EqvGen Reset "Args:\n    a: First.\n".toList "  Args: \r\n      a: First.\r\n".toList ∧
    (extract "  Args: \r\n      a: First.\r\n" ["a"]).value =
      ⟨"", "", [("a", ⟨none, some "First."⟩)], none, some .headed⟩ := by
  have hreset : Relation.EqvGen Reset "Args:\n    a: First.\n".toList "  Args: \r\n      a: First.\r\n".toList := by
    have hmoved : Reset "Args:\n    a: First.\n".toList "  Args:\n      a: First.\n  ".toList := .indented 2 _
    have hlast : Reset "  Args:\n      a: First.\n".toList "  Args:\n      a: First.\n  ".toList :=
      .padded 2 "  Args:\n      a: First.\n".toList .text
    have hended : Reset "  Args:\n      a: First.\n".toList "  Args:\r\n      a: First.\r\n".toList := .returns _
    have hpadded : Reset "  Args:\r\n      a: First.\r\n".toList "  Args: \r\n      a: First.\r\n".toList :=
      .padded 1 "  Args:".toList (.returnFeed _)
    exact ((Relation.EqvGen.rel _ _ hmoved).trans _ _ _ (.symm _ _ (.rel _ _ hlast))).trans _ _ _
      (.trans _ _ _ (.rel _ _ hended) (.rel _ _ hpadded))
  refine ⟨hreset, ?_⟩
  rw [(extract_reset hreset ["a"]).2]
  decide +kernel

end ToolSchema.Docstring
