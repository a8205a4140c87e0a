/-
Cleaning in place.

The lines are cut at the byte of the common margin. The margin is the least indentation of the lines with text: those
after the first, and the first too if it is a bare header. It is cut from the same lines, so it never goes beyond the
leading spaces of one.
- `marginOf_eq`: the least indentation, in whatever order the lines are looked at.
- `clean_eq`: cleaning has no fault, and comes to the clean lines of the text.
-/
import ToolSchema.Proofs.Docstring.Cursor.Checked
import ToolSchema.Proofs.Docstring.Prose

namespace ToolSchema.Docstring.Cursor

open Text

variable {ls rest : List Line} {line first : Line} {m : Nat}

/-- the least indentation of the lines with text -/
def marginOf (ls : List Line) : Checked Nat := do
  return (← (ls.filter (!allBlank ·)).mapM indentOf).min?.getD 0

/-- a line after the first -/
def cutLine (margin : Nat) (line : Line) : Checked Line :=
  if allBlank line then return [] else return trimEnd (← cutMargin margin line)

/-- empty lines at the end go one by one, those at the beginning all at once -/
def dropEmpty (ls : List Line) : Checked (List Line) :=
  let ls := (ls.reverse.dropWhile (·.isEmpty)).reverse
  range ls (ls.takeWhile (·.isEmpty)).length ls.length

def clean (raw : List Char) : Checked (List Line) :=
  match lines (expandTabs raw) with
  | [] => return []
  | first :: rest => do
    let header := isBareHeader first
    let margin ← marginOf (if header then rest ++ [first] else rest)
    let top ← if header then trimEnd <$> cutMargin margin first else pure (trim first)
    dropEmpty (top :: (← rest.mapM (cutLine margin)))

/-! ## The margin -/

theorem marginOf_eq (ls : List Line) : marginOf ls = pure (margin ls) := by
  have hindent : indentOf = fun line => pure (indent line) := funext indentOf_eq
  rw [marginOf, hindent, List.mapM_pure, pure_bind, margin]

/-- the order of the lines does not count -/
theorem margin_congr {ls' : List Line} (h : ∀ line, line ∈ ls ↔ line ∈ ls') : margin ls = margin ls' := by
  have hindents : ∀ k, k ∈ indents ls ↔ k ∈ indents ls' := by
    intro k
    rw [indents, indents, List.mem_map, List.mem_map]
    simp only [List.mem_filter, h]
  have hmin : (indents ls).min? = (indents ls').min? := by
    apply Option.ext
    intro k
    rw [List.min?_eq_some_iff, List.min?_eq_some_iff]
    simp only [hindents]
  rw [margin, margin, ← indents, ← indents, hmin]

/-! ## The lines -/

theorem cutLine_eq (h : allBlank line = false → m ≤ indent line) : cutLine m line = pure (dedent m line) := by
  rw [cutLine, dedent]
  cases hl : allBlank line with
  | true => rfl
  | false =>
    simp only [Bool.false_eq_true, if_false]
    rw [cutMargin_eq (h hl), pure_bind]

theorem mapM_cutLine (h : ∀ line ∈ ls, allBlank line = false → m ≤ indent line) :
    ls.mapM (cutLine m) = pure (ls.map (dedent m)) := by
  induction ls with
  | nil => rfl
  | cons line rest ih =>
    rw [List.forall_mem_cons] at h
    rw [List.mapM_cons, cutLine_eq h.1, pure_bind, ih h.2, pure_bind, List.map_cons]

theorem allBlank_of_isBareHeader (h : isBareHeader line = true) : allBlank line = false := by
  rw [Bool.eq_false_iff]
  intro hblank
  rw [isBareHeader, Header.ofLine?, trim_of_allBlank hblank] at h
  cases h

/-- at which end empty lines go first makes no difference -/
theorem dropWhile_reverse_dropWhile (ls : List Line) :
    (ls.reverse.dropWhile (·.isEmpty)).reverse.dropWhile (·.isEmpty) = trimLines ls := by
  induction ls with
  | nil => rfl
  | cons line rest ih =>
    rw [List.reverse_cons, List.dropWhile_append]
    cases line with
    | nil =>
      have hrest : trimLines ([] :: rest) = trimLines rest := rfl
      rw [hrest, ← ih]
      split
      · next hempty =>
        rw [List.isEmpty_iff.1 hempty]
        rfl
      · rw [List.reverse_append]
        rfl
    | cons c more =>
      rw [trimLines_cons (List.cons_ne_nil c more)]
      split
      · next hempty =>
        rw [List.isEmpty_iff.1 hempty]
        rfl
      · rw [List.reverse_append]
        rfl

theorem dropEmpty_eq (ls : List Line) : dropEmpty ls = pure (trimLines ls) := by
  rw [dropEmpty, ← dropWhile_reverse_dropWhile]
  generalize (ls.reverse.dropWhile (·.isEmpty)).reverse = filled
  rw [range_of_le (List.takeWhile_sublist _).length_le (Nat.le_refl _), List.take_length, drop_length_takeWhile]

/-- **Cleaning has no fault.** Every cut is made inside the line and between characters, and comes to a clean line. -/
theorem clean_eq (raw : List Char) : clean raw = pure (Docstring.clean raw) := by
  rw [clean, Docstring.clean]
  cases lines (expandTabs raw) with
  | nil => rfl
  | cons first rest =>
    simp only [dedentAll, marginOf_eq, pure_bind]
    cases hheader : isBareHeader first with
    | true =>
      have hmargin : margin (rest ++ [first]) = margin (first :: rest) := by
        apply margin_congr
        intro line
        rw [List.mem_append, List.mem_singleton, List.mem_cons, or_comm]
      have hfilled : allBlank first = false := allBlank_of_isBareHeader hheader
      have htop : dedent (margin (first :: rest)) first = trimEnd (first.drop (margin (first :: rest))) := by
        rw [dedent, if_neg (by simp [hfilled])]
      have hrest : ∀ line ∈ rest, allBlank line = false → margin (first :: rest) ≤ indent line := by
        intro line hline
        exact margin_le (List.mem_cons_of_mem first hline)
      simp only [if_true, hmargin]
      rw [cutMargin_eq (margin_le List.mem_cons_self hfilled), map_pure, pure_bind, mapM_cutLine hrest, pure_bind,
        dropEmpty_eq, List.map_cons, htop]
    | false =>
      have hrest : ∀ line ∈ rest, allBlank line = false → margin rest ≤ indent line := fun line hline => margin_le hline
      simp only [Bool.false_eq_true, if_false]
      rw [mapM_cutLine hrest, pure_bind, dropEmpty_eq]

end ToolSchema.Docstring.Cursor
