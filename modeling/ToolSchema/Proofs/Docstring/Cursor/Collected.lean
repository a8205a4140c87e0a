/-
What a layout gathers on its way through the lines.

New entries go to the end of a list that only grows, and lines of text go to entries by number: those of the entries that
were added last. The first marker is remembered by its line number.
- `Filling.foldlM_feed`: a run over items has no fault, and is the grouping of the items under the heads among them.
- `IsFirstMarker.take_eq`: the lines up to the remembered number are those before the first marker.
- `Advances`, `sweep_blocks`: a loop whose rounds take block after block gathers the findings of all of them.
- `toModel?_eq`: the model of what is gathered has no fault, and is that of the findings.
-/
import ToolSchema.Proofs.Docstring.Cursor.Clean
import ToolSchema.Proofs.Docstring.Marker

namespace ToolSchema.Docstring.Cursor

open Text

/-! ## Entries by number -/

/-- an entry with more lines of text -/
def extend (more : List Line) (e : Entry) : Entry :=
  { e with text := e.text ++ more }

/-- a line of text for the entry of this number -/
def addText (text : Line) (entries : List Entry) (i : Nat) : Checked (List Entry) :=
  if i < entries.length then return entries.modify i (extend [text]) else throw .entry

/-- the entries so far, and the numbers of those that take further text -/
structure Filling where
  entries : List Entry
  current : List Nat

namespace Filling

/-- one entry more that takes further text -/
def push (f : Filling) (e : Entry) : Checked Filling := do
  let entries := f.entries ++ [e]
  return ⟨entries, f.current ++ [← minus entries.length 1]⟩

/-- from now on it is these new entries that take further text -/
def start (new : List Entry) (f : Filling) : Checked Filling :=
  new.foldlM push ⟨f.entries, []⟩

def add (text : Line) (f : Filling) : Checked Filling := do
  return ⟨← f.current.foldlM (addText text) f.entries, f.current⟩

/-- an item that is a head starts new entries, any other item is text -/
def feed {α β : Type} (head? : α → Option β) (opened : β → List Entry) (text : α → Line) (f : Filling) (a : α) :
    Checked Filling :=
  match head? a with
  | some b => f.start (opened b)
  | none => f.add (text a)

/-- the last of the entries take further text -/
def last (done now : List Entry) : Filling :=
  ⟨done ++ now, List.range' done.length now.length⟩

end Filling

variable {e : Entry} {done now new : List Entry} {more more' texts : List Line} {text : Line}

theorem extend_nil (e : Entry) : extend [] e = e := by
  rw [extend, List.append_nil]

theorem map_extend_nil (entries : List Entry) : entries.map (extend []) = entries := by
  rw [funext extend_nil, List.map_id']

theorem extend_extend (more more' : List Line) (e : Entry) : extend more' (extend more e) = extend (more ++ more') e := by
  simp only [extend, List.append_assoc]

theorem modify_append_cons {f : Entry → Entry} (done : List Entry) (e : Entry) (now : List Entry) :
    (done ++ e :: now).modify done.length f = done ++ f e :: now := by
  induction done with
  | nil => rfl
  | cons first rest ih => rw [List.cons_append, List.length_cons, List.modify_succ_cons, ih, List.cons_append]

theorem foldlM_addText (text : Line) (done now : List Entry) :
    (List.range' done.length now.length).foldlM (addText text) (done ++ now) =
      pure (done ++ now.map (extend [text])) := by
  induction now generalizing done with
  | nil => rfl
  | cons e rest ih =>
    have hi : done.length < (done ++ e :: rest).length := by simp
    have hshift : done ++ extend [text] e :: rest = (done ++ [extend [text] e]) ++ rest := List.append_cons _ _ _
    have hlength : done.length + 1 = (done ++ [extend [text] e]).length := by simp
    rw [List.length_cons, List.range'_succ, List.foldlM_cons, addText, if_pos hi, pure_bind, modify_append_cons, hshift,
      hlength, ih, List.map_cons, ← List.append_cons]

namespace Filling

theorem push_eq (f : Filling) (e : Entry) : f.push e = pure ⟨f.entries ++ [e], f.current ++ [f.entries.length]⟩ := by
  rw [push, List.length_append, List.length_singleton, minus, if_pos (Nat.le_add_left 1 _), Nat.add_sub_cancel,
    pure_bind]

theorem start_eq (new : List Entry) (f : Filling) : f.start new = pure (last f.entries new) := by
  have hrun : ∀ entries current, new.foldlM push ⟨entries, current⟩ =
      pure ⟨entries ++ new, current ++ List.range' entries.length new.length⟩ := by
    induction new with
    | nil =>
      intro entries current
      simp
    | cons e rest ih =>
      intro entries current
      rw [List.foldlM_cons, push_eq, pure_bind, ih, ← List.append_cons, List.length_append, List.length_singleton,
        ← List.append_cons, List.length_cons, List.range'_succ]
  rw [start, hrun, List.nil_append, last]

theorem add_last (text : Line) (done now : List Entry) :
    (last done now).add text = pure (last done (now.map (extend [text]))) := by
  simp only [add, last, foldlM_addText, pure_bind, List.length_map]

section Feed

variable {α β : Type} {head? : α → Option β} {opened : β → List Entry} {text : α → Line}

/-- **Text finds its entries.** No number of an entry is out of place, and the entries are those of the groups of items
under the heads among them. -/
theorem foldlM_feed (done now : List Entry) (as : List α) :
    ∃ f, as.foldlM (feed head? opened text) (last done now) = pure f ∧
      f.entries = done ++ now.map (extend ((as.takeWhile fun a => (head? a).isNone).map text)) ++
        (blocks head? as).flatMap fun block => (opened block.1).map (extend (block.2.map text)) := by
  induction as generalizing done now with
  | nil =>
    refine ⟨last done now, rfl, ?_⟩
    rw [List.takeWhile_nil, List.map_nil, map_extend_nil, blocks, List.flatMap_nil, List.append_nil]
    rfl
  | cons a rest ih =>
    rw [List.foldlM_cons, feed, blocks]
    cases hhead : head? a with
    | none =>
      obtain ⟨f, hf, hentries⟩ := ih done (now.map (extend [text a]))
      refine ⟨f, by simp only [add_last, pure_bind, hf], ?_⟩
      have hmap : ∀ more, (now.map (extend [text a])).map (extend more) = now.map (extend (text a :: more)) := by
        intro more
        rw [List.map_map]
        exact List.map_congr_left fun e _ => extend_extend [text a] more e
      rw [hentries, hmap, List.takeWhile_cons, hhead]
      rfl
    | some b =>
      obtain ⟨f, hf, hentries⟩ := ih (done ++ now) (opened b)
      have hstart : (last done now).start (opened b) = pure (last (done ++ now) (opened b)) := start_eq _ _
      refine ⟨f, by simp only [hstart, pure_bind, hf], ?_⟩
      rw [hentries, List.takeWhile_cons, hhead]
      simp only [Option.isNone_some, Bool.false_eq_true, if_false, List.map_nil, map_extend_nil, List.flatMap_cons,
        List.append_assoc]

/-- a run that starts with no entry for further text -/
theorem foldlM_feed_nil (entries : List Entry) (as : List α) :
    ∃ f, as.foldlM (feed head? opened text) ⟨entries, []⟩ = pure f ∧
      f.entries = entries ++ (blocks head? as).flatMap fun block => (opened block.1).map (extend (block.2.map text)) := by
  have hlast : last entries [] = ⟨entries, []⟩ := by
    rw [last, List.append_nil]
    rfl
  obtain ⟨f, hf, hentries⟩ := foldlM_feed entries [] as
  rw [hlast] at hf
  rw [List.map_nil, List.append_nil] at hentries
  exact ⟨f, hf, hentries⟩

end Feed

end Filling

/-! ## Findings -/

structure Collected where
  entries : List Entry
  returns : Option (List Line)
  /-- the number of the first line that is a marker -/
  firstMarker : Option Nat

namespace Collected

def empty : Collected := ⟨[], none, none⟩

/-- the line of this number is a marker -/
def mark (i : Nat) (c : Collected) : Collected :=
  { c with firstMarker := some (c.firstMarker.elim i (min · i)) }

/-- text about the return value; there is a place for it even if there is none -/
def addReturns (texts : List Line) (c : Collected) : Collected :=
  { c with returns := some (c.returns.getD [] ++ texts) }

/-- what is gathered, with the lines before the first marker -/
def findings (ls : List Line) (c : Collected) : Findings :=
  ⟨ls.take (c.firstMarker.getD ls.length), c.entries, c.returns⟩

/-- the model of what is gathered, if it is anything -/
def toModel? (style : Style) (names : List String) (ls : List Line) (c : Collected) : Checked (Option Model) :=
  if c.entries.isEmpty && c.returns.isNone then return none
  else do
    let description := prose (← range ls 0 (min (c.firstMarker.getD ls.length) ls.length))
    return some {
      summary := String.ofList (summary (← clean description))
      description := String.ofList description
      params := (addEntries names [] c.entries).value
      returns := (c.returns.bind joinWords).map String.ofList
      style := some style }

theorem toModel?_eq (style : Style) (names : List String) (ls : List Line) (c : Collected) :
    c.toModel? style names ls = pure ((c.findings ls).toModel? style names).value := by
  have hguard : (c.entries.isEmpty && c.returns.isNone) = (c.findings ls).isEmpty := rfl
  have hprose : range ls 0 (min (c.firstMarker.getD ls.length) ls.length) = pure (c.findings ls).prose := by
    rw [range_of_le (Nat.zero_le _) (Nat.min_le_right _ _), ← List.take_take, List.take_length, List.drop_zero]
    rfl
  rw [toModel?, hguard, Findings.toModel?]
  cases (c.findings ls).isEmpty with
  | true => rfl
  | false =>
    simp only [Bool.false_eq_true, if_false, hprose, pure_bind, clean_eq]
    rfl

end Collected

/-! ## The first marker -/

variable {style : Style} {ls : List Line} {i j : Nat} {found : Option Nat}

/-- the first marker among the lines before this one -/
def IsFirstMarker (style : Style) (ls : List Line) (i : Nat) : Option Nat → Prop
  | none => ∀ k < i, ¬ style.Marks ls k
  | some m => style.Marks ls m ∧ ∀ k < m, ¬ style.Marks ls k

namespace IsFirstMarker

theorem zero (style : Style) (ls : List Line) : IsFirstMarker style ls 0 none :=
  fun k hk => absurd hk (Nat.not_lt_zero k)

theorem skip (h : IsFirstMarker style ls i found) (hi : ¬ style.Marks ls i) : IsFirstMarker style ls (i + 1) found := by
  cases found with
  | some m => exact h
  | none =>
    intro k hk
    rcases Nat.lt_succ_iff_lt_or_eq.1 hk with hk | rfl
    · exact h k hk
    · exact hi

theorem mark (h : IsFirstMarker style ls i found) (hi : style.Marks ls i) :
    IsFirstMarker style ls j (some (found.elim i (min · i))) := by
  cases found with
  | none => exact ⟨hi, h⟩
  | some m =>
    -- a marker that is remembered stands before this one
    have hm : min m i = m := Nat.min_eq_left (Nat.le_of_not_lt fun hlt => h.2 i hlt hi)
    rw [Option.elim_some, hm]
    exact h

theorem take_eq (h : IsFirstMarker style ls i found) (hi : ls.length ≤ i) :
    ls.take (found.getD ls.length) = style.before true ls := by
  obtain ⟨k, hk, htake, hnone, hsome⟩ := style.exists_before_eq_take ls
  rw [htake]
  cases found with
  | none =>
    have hall : k = ls.length := Nat.le_antisymm hk (Nat.le_of_not_lt fun hlt => h k (Nat.lt_of_lt_of_le hlt hi) (hsome hlt))
    rw [hall]
    rfl
  | some m =>
    have hlength : m < ls.length := by
      refine Nat.lt_of_not_le fun hle => ?_
      have hmarks := h.1
      rw [Style.Marks, List.drop_eq_nil_of_le hle, Style.begins_nil] at hmarks
      cases hmarks
    have hm : m = k := by
      rcases Nat.lt_trichotomy m k with hlt | heq | hlt
      · exact absurd h.1 (hnone m hlt)
      · exact heq
      · exact absurd (hsome (Nat.lt_trans hlt hlength)) (h.2 k hlt)
    rw [hm]
    rfl

end IsFirstMarker

/-! ## Block after block -/

/-- text about the return value, part after part -/
def gather (returns : Option (List Line)) (parts : List (List Line)) : Option (List Line) :=
  parts.foldl (fun returns texts => some (returns.getD [] ++ texts)) returns

theorem gather_some (texts : List Line) (parts : List (List Line)) :
    gather (some texts) parts = some (texts ++ parts.flatten) := by
  induction parts generalizing texts with
  | nil => rw [gather, List.foldl_nil, List.flatten_nil, List.append_nil]
  | cons part rest ih =>
    have hrest : gather (some texts) (part :: rest) = gather (some (texts ++ part)) rest := rfl
    rw [hrest, ih, List.flatten_cons, List.append_assoc]

theorem gather_none (parts : List (List Line)) : gather none parts = flattenSome parts := by
  cases parts with
  | nil => rfl
  | cons part rest =>
    have hrest : gather none (part :: rest) = gather (some part) rest := rfl
    rw [hrest, gather_some, flattenSome, if_neg (by simp), List.flatten_cons]

/-- the findings of one block -/
def Collected.block (entries : List Entry) (returns : Option (List Line)) (c : Collected) : Collected :=
  ⟨c.entries ++ entries, gather c.returns returns.toList, c.firstMarker⟩

theorem Collected.block_nil (returns : Option (List Line)) (c : Collected) :
    c.block [] returns = { c with returns := gather c.returns returns.toList } := by
  rw [block, List.append_nil]

section Blocks

variable {β : Type} {all : Nat → List β} {entriesOf : β → List Entry} {returnsOf : β → Option (List Line)}
  {round : Nat → Collected → Checked (Option (Nat × Collected))}

/-- what is gathered before this line, with the blocks from it on, is what all blocks have -/
structure Gathers (style : Style) (ls : List Line) (all : Nat → List β) (entriesOf : β → List Entry)
    (returnsOf : β → Option (List Line)) (i : Nat) (c : Collected) : Prop where
  marker : IsFirstMarker style ls i c.firstMarker
  entries : c.entries ++ (all i).flatMap entriesOf = (all 0).flatMap entriesOf
  returns : gather c.returns ((all i).filterMap returnsOf) = gather none ((all 0).filterMap returnsOf)

namespace Gathers

theorem skip {c : Collected} (h : Gathers style ls all entriesOf returnsOf i c) (hi : ¬ style.Marks ls i)
    (hall : all i = all (i + 1)) : Gathers style ls all entriesOf returnsOf (i + 1) c where
  marker := h.marker.skip hi
  entries := hall ▸ h.entries
  returns := hall ▸ h.returns

theorem take {c : Collected} {b : β} (h : Gathers style ls all entriesOf returnsOf i c) (hi : style.Marks ls i)
    (hall : all i = b :: all j) :
    Gathers style ls all entriesOf returnsOf j ((c.mark i).block (entriesOf b) (returnsOf b)) where
  marker := h.marker.mark hi
  entries := by
    rw [← h.entries, hall, List.flatMap_cons, ← List.append_assoc]
    rfl
  returns := by
    rw [← h.returns, hall]
    cases hb : returnsOf b with
    | none =>
      rw [List.filterMap_cons_none hb]
      rfl
    | some texts =>
      rw [List.filterMap_cons_some hb]
      rfl

end Gathers

/-- a round: it goes on by one line where there is no marker, and takes a whole block where there is one -/
inductive Advances (style : Style) (ls : List Line) (all : Nat → List β) (entriesOf : β → List Entry)
    (returnsOf : β → Option (List Line)) (round : Nat → Collected → Checked (Option (Nat × Collected))) (i : Nat)
    (c : Collected) : Prop
  | skip (hmarks : ¬ style.Marks ls i) (hall : all i = all (i + 1)) (hround : round i c = pure (some (i + 1, c)))
  | take (b : β) (j : Nat) (hmarks : style.Marks ls i) (hj : i < j) (hall : all i = b :: all j)
    (hround : round i c = pure (some (j, (c.mark i).block (entriesOf b) (returnsOf b))))

/-- **Block after block.** With rounds that take the blocks one by one, the loop has no fault, and gathers the prose
before the first marker and the findings of all blocks. -/
theorem sweep_blocks (hround : ∀ i c, i < ls.length → Advances style ls all entriesOf returnsOf round i c)
    (hend : ∀ i, ls.length ≤ i → all i = []) :
    ∃ j c, sweep ls.length round 0 .empty = pure (j, c) ∧
      c.findings ls =
        ⟨style.before true ls, (all 0).flatMap entriesOf, flattenSome ((all 0).filterMap returnsOf)⟩ := by
  have hstep : ∀ i c, i < ls.length → Gathers style ls all entriesOf returnsOf i c →
      ∃ next c', round i c = pure (some (next, c')) ∧ i < next ∧ Gathers style ls all entriesOf returnsOf next c' := by
    intro i c hi h
    cases hround i c hi with
    | skip hmarks hall hround => exact ⟨i + 1, c, hround, Nat.lt_succ_self i, h.skip hmarks hall⟩
    | take b j hmarks hj hall hround => exact ⟨j, _, hround, hj, h.take hmarks hall⟩
  refine sweep_ends (fun i c hi h => .inr (hstep i c hi h)) ?_ ⟨.zero style ls, rfl, rfl⟩
  rintro i c hi ⟨hmarker, hentries, hreturns⟩
  rw [hend i hi, List.flatMap_nil, List.append_nil] at hentries
  rw [hend i hi, gather_none] at hreturns
  rw [Collected.findings, hmarker.take_eq hi, hentries, ← hreturns]
  rfl

end Blocks

end ToolSchema.Docstring.Cursor
