/-
Texts cut at bytes, and lines read by number.

A reader that works in place can go wrong where a function on lists cannot: it cuts a text at a byte, takes a line or a
range of lines by number, and moves its own line number from round to round. Here each such access is checked, and one
that is out of place is a fault.
- `cutMargin_eq`: a margin no wider than the leading spaces of a line is cut off without a fault.
- `range_eq`: a range in bounds is without a fault.
- `sweep_ends`: a loop whose rounds all advance comes to its end, and keeps what its rounds keep.
- `seek_eq`, `sweep_lines`: the two loops that only look for an end.
-/
import ToolSchema.Proofs.Docstring.Clean

namespace ToolSchema.Docstring.Cursor

open Text

/-- what is wrong with an access -/
inductive Fault where
  /-- a text is cut behind its end, or inside a character -/
  | cut
  /-- more is cut off a line than its leading spaces -/
  | margin
  /-- a number below zero -/
  | negative
  /-- there is no line of this number -/
  | line
  /-- a range of lines ends before its start, or behind the last line -/
  | range
  /-- there is no entry of this number -/
  | entry
  /-- a round of a loop does not advance -/
  | stuck
  deriving DecidableEq, Repr

/-- a result, or the first fault on the way to it -/
abbrev Checked := Except Fault

/-- a difference of sizes -/
def minus (a b : Nat) : Checked Nat :=
  if b ≤ a then return a - b else throw .negative

/-! ## Bytes -/

/-- the size of a text in bytes -/
def byteLength : List Char → Nat
  | [] => 0
  | c :: cs => c.utf8Size + byteLength cs

/-- a text from the byte of this number on -/
def cutFrom : Nat → List Char → Checked (List Char)
  | 0, cs => return cs
  | _ + 1, [] => throw .cut
  | k + 1, c :: cs => if c.utf8Size ≤ k + 1 then cutFrom (k + 1 - c.utf8Size) cs else throw .cut

/-- the leading spaces of a line, as the bytes that it loses without them -/
def indentOf (line : Line) : Checked Nat :=
  minus (byteLength line) (byteLength (line.dropWhile (· == ' ')))

/-- a line without its margin -/
def cutMargin (margin : Nat) (line : Line) : Checked Line := do
  if (← indentOf line) < margin then throw .margin
  cutFrom margin line

/-- the second byte of the letter is no place to cut -/
example : cutFrom 1 ['é', 'a'] = throw .cut := rfl

theorem indent_cons_of_ne {c : Char} (hc : c ≠ ' ') (rest : Line) : indent (c :: rest) = 0 := by
  rw [indent_eq_zero_iff]
  simpa using hc

theorem byteLength_eq (line : Line) : byteLength line = indent line + byteLength (line.dropWhile (· == ' ')) := by
  induction line with
  | nil => rfl
  | cons c rest ih =>
    by_cases hc : c = ' '
    · subst hc
      have hspace : byteLength (' ' :: rest) = 1 + byteLength rest := rfl
      rw [hspace, ih, indent_cons_space, List.dropWhile_cons_of_pos rfl]
      omega
    · rw [indent_cons_of_ne hc, List.dropWhile_cons_of_neg (by simpa using hc), Nat.zero_add]

theorem indentOf_eq (line : Line) : indentOf line = pure (indent line) := by
  have hlength := byteLength_eq line
  rw [indentOf, minus, if_pos (by omega), hlength, Nat.add_sub_cancel]

/-- spaces are one byte each, so a cut among them is between characters -/
theorem cutFrom_eq {k : Nat} {line : Line} (h : k ≤ indent line) : cutFrom k line = pure (line.drop k) := by
  induction k generalizing line with
  | zero => rw [cutFrom, List.drop_zero]
  | succ k ih =>
    cases line with
    | nil => cases h
    | cons c rest =>
      by_cases hc : c = ' '
      · subst hc
        rw [indent_cons_space] at h
        have hsize : ' '.utf8Size = 1 := rfl
        rw [cutFrom, hsize, if_pos (by omega), Nat.add_sub_cancel, ih (by omega), List.drop_succ_cons]
      · rw [indent_cons_of_ne hc] at h
        cases h

theorem cutMargin_eq {margin : Nat} {line : Line} (h : margin ≤ indent line) :
    cutMargin margin line = pure (line.drop margin) := by
  rw [cutMargin, indentOf_eq, pure_bind, if_neg (Nat.not_lt.2 h), cutFrom_eq h]

/-! ## Lines by number -/

def lineAt (ls : List Line) (i : Nat) : Checked Line :=
  match ls[i]? with
  | some line => return line
  | none => throw .line

/-- the lines from one number up to another -/
def range (ls : List Line) (start stop : Nat) : Checked (List Line) :=
  if start ≤ stop ∧ stop ≤ ls.length then return (ls.take stop).drop start else throw .range

variable {ls rest : List Line} {line : Line} {i n : Nat}

theorem lineAt_eq (h : i < ls.length) : lineAt ls i = pure ls[i] := by
  rw [lineAt, List.getElem?_eq_getElem h]

/-- the lines from a line of this number on begin with it -/
theorem drop_of_lt (h : i < ls.length) : ls.drop i = ls[i] :: ls.drop (i + 1) :=
  List.drop_eq_getElem_cons h

theorem range_of_le {start stop : Nat} (h : start ≤ stop) (hstop : stop ≤ ls.length) :
    range ls start stop = pure ((ls.take stop).drop start) := by
  rw [range, if_pos ⟨h, hstop⟩]

theorem range_eq (hstop : i + n ≤ ls.length) : range ls i (i + n) = pure ((ls.drop i).take n) := by
  rw [range_of_le (Nat.le_add_right i n) hstop, List.drop_take, Nat.add_sub_cancel_left]

theorem drop_length_takeWhile {α : Type} (p : α → Bool) (as : List α) :
    as.drop (as.takeWhile p).length = as.dropWhile p := by
  calc as.drop (as.takeWhile p).length
      = (as.takeWhile p ++ as.dropWhile p).drop (as.takeWhile p).length := by rw [List.takeWhile_append_dropWhile]
    _ = as.dropWhile p := List.drop_left

/-! ## Loops -/

section Loops

variable {σ : Type}

/-- Rounds as long as the number is below `stop`. A round gives the next number and state, or leaves the loop. -/
def sweep (stop : Nat) (round : Nat → σ → Checked (Option (Nat × σ))) (i : Nat) (s : σ) : Checked (Nat × σ) :=
  if i < stop then do
    match ← round i s with
    | none => return (i, s)
    | some (next, s) => if i < next then sweep stop round next s else throw .stuck
  else return (i, s)
termination_by stop - i

/-- a loop that stays where it is does not end -/
example : sweep 1 (fun i s => return some (i, s)) 0 () = throw .stuck := by cbv

variable {stop : Nat} {round : Nat → σ → Checked (Option (Nat × σ))} {s : σ}

/-- **Loops end.** If every round advances and keeps `holds`, or leaves the loop with `ends`, then the loop comes to its
end without a fault. -/
theorem sweep_ends {holds ends : Nat → σ → Prop}
    (hround : ∀ i s, i < stop → holds i s →
      (round i s = pure none ∧ ends i s) ∨
        ∃ next s', round i s = pure (some (next, s')) ∧ i < next ∧ holds next s')
    (hstop : ∀ i s, stop ≤ i → holds i s → ends i s) (h : holds i s) :
    ∃ j s', sweep stop round i s = pure (j, s') ∧ ends j s' := by
  induction hleft : stop - i using Nat.strongRecOn generalizing i s with
  | ind left ih =>
    rw [sweep]
    by_cases hi : i < stop
    · rw [if_pos hi]
      rcases hround i s hi h with ⟨hnone, hends⟩ | ⟨next, s', hsome, hnext, hholds⟩
      · rw [hnone, pure_bind]
        exact ⟨i, s, rfl, hends⟩
      · rw [hsome, pure_bind]
        simp only [if_pos hnext]
        exact ih (stop - next) (by omega) hholds rfl
    · rw [if_neg hi]
      exact ⟨i, s, rfl, hstop i s (Nat.le_of_not_lt hi) h⟩

/-- Line after line, as long as the lines qualify: a step for each of them. -/
theorem sweep_lines {p : Line → Bool} {step : σ → Line → Checked σ}
    (hround : ∀ i s, ∀ h : i < ls.length, round i s =
      if p ls[i] then (do return some (i + 1, ← step s ls[i])) else pure none) (i : Nat) (s : σ) :
    sweep ls.length round i s =
      (do return (i + ((ls.drop i).takeWhile p).length, ← ((ls.drop i).takeWhile p).foldlM step s)) := by
  induction hleft : ls.length - i using Nat.strongRecOn generalizing i s with
  | ind left ih =>
    rw [sweep]
    by_cases hi : i < ls.length
    · rw [if_pos hi, hround i s hi, drop_of_lt hi, List.takeWhile_cons]
      cases p ls[i] with
      | true =>
        simp only [if_true, bind_assoc, pure_bind, if_pos (Nat.lt_succ_self i), List.foldlM_cons, List.length_cons]
        refine bind_congr fun s' => ?_
        rw [ih (ls.length - (i + 1)) (by omega) (i + 1) s' rfl]
        simp only [Nat.add_assoc, Nat.add_comm 1]
      | false => rfl
    · rw [if_neg hi, List.drop_eq_nil_of_le (Nat.le_of_not_lt hi)]
      rfl

end Loops

/-! ## Looking for a line -/

/-- a round that leaves the loop at a line that is found -/
def probe (found : Nat → Checked Bool) (i : Nat) (_ : Unit) : Checked (Option (Nat × Unit)) := do
  if ← found i then return none else return some (i + 1, ())

/-- the number of the first line, from this one on, that is found -/
def seek (stop : Nat) (found : Nat → Checked Bool) (i : Nat) : Checked Nat := do
  return (← sweep stop (probe found) i ()).1

/-- The first `n` lines are passed by, and it is only the line behind them, read with all that follow it, that `p`
accepts. -/
structure Stops (p : List Line → Bool) (rest : List Line) (n : Nat) : Prop where
  passed : ∀ k < n, p (rest.drop k) = false
  accepted : n < rest.length → p (rest.drop n) = true

/-- none of the lines from `i` up to `j` is accepted -/
def Passed (p : List Line → Bool) (ls : List Line) (i j : Nat) : Prop :=
  ∃ n, j = i + n ∧ j ≤ ls.length ∧ ∀ k < n, p (ls.drop (i + k)) = false

theorem seek_eq {p : List Line → Bool} {found : Nat → Checked Bool}
    (hfound : ∀ k < ls.length, found k = pure (p (ls.drop k))) (hi : i ≤ ls.length) :
    ∃ n, seek ls.length found i = pure (i + n) ∧ i + n ≤ ls.length ∧ Stops p (ls.drop i) n := by
  have hround : ∀ j s, j < ls.length → Passed p ls i j →
      (probe found j s = pure none ∧ Passed p ls i j ∧ (j < ls.length → p (ls.drop j) = true)) ∨
        ∃ next s', probe found j s = pure (some (next, s')) ∧ j < next ∧ Passed p ls i next := by
    rintro j s hj ⟨n, rfl, hbounded, hpassed⟩
    rw [probe, hfound _ hj, pure_bind]
    cases hp : p (ls.drop (i + n)) with
    | true => exact .inl ⟨rfl, ⟨n, rfl, hbounded, hpassed⟩, fun _ => rfl⟩
    | false =>
      refine .inr ⟨i + n + 1, (), rfl, Nat.lt_succ_self _, n + 1, rfl, hj, fun k hk => ?_⟩
      rcases Nat.lt_succ_iff_lt_or_eq.1 hk with hk | rfl
      · exact hpassed k hk
      · exact hp
  have hstop : ∀ j, Unit → ls.length ≤ j → Passed p ls i j →
      Passed p ls i j ∧ (j < ls.length → p (ls.drop j) = true) := by
    intro j _ hj hpassed
    exact ⟨hpassed, fun hlt => absurd hlt (Nat.not_lt.2 hj)⟩
  have hstart : Passed p ls i i := ⟨0, rfl, hi, fun k hk => absurd hk (Nat.not_lt_zero k)⟩
  obtain ⟨_, _, hsweep, ⟨n, rfl, hbounded, hpassed⟩, haccepted⟩ := sweep_ends hround hstop hstart
  refine ⟨n, by rw [seek, hsweep, pure_bind], hbounded, ?_, ?_⟩
  · intro k hk
    rw [List.drop_drop]
    exact hpassed k hk
  · intro hlt
    rw [List.length_drop] at hlt
    rw [List.drop_drop]
    exact haccepted (by omega)

namespace Stops

variable {p : List Line → Bool}

theorem cons_cases (h : Stops p (line :: rest) n) :
    (n = 0 ∧ p (line :: rest) = true) ∨ ∃ m, n = m + 1 ∧ p (line :: rest) = false ∧ Stops p rest m := by
  cases n with
  | zero => exact .inl ⟨rfl, h.accepted (Nat.zero_lt_succ _)⟩
  | succ m =>
    refine .inr ⟨m, rfl, h.passed 0 (Nat.zero_lt_succ m), ?_, ?_⟩
    · intro k hk
      exact h.passed (k + 1) (Nat.succ_lt_succ hk)
    · intro hlt
      exact h.accepted (Nat.succ_lt_succ hlt)

theorem takeWhile_eq {q : Line → Bool} (h : Stops (fun rest => rest.head?.any fun l => !q l) rest n) :
    rest.takeWhile q = rest.take n ∧ rest.dropWhile q = rest.drop n := by
  induction rest generalizing n with
  | nil => simp
  | cons line rest ih =>
    rcases h.cons_cases with ⟨rfl, hp⟩ | ⟨m, rfl, hp, hrest⟩
    · have hq : q line = false := by simpa using hp
      rw [List.takeWhile_cons, List.dropWhile_cons, hq]
      exact ⟨rfl, rfl⟩
    · have hq : q line = true := by simpa using hp
      rw [List.takeWhile_cons, List.dropWhile_cons, hq, List.take_succ_cons, List.drop_succ_cons, ← (ih hrest).1,
        ← (ih hrest).2]
      exact ⟨rfl, rfl⟩

end Stops

end ToolSchema.Docstring.Cursor
