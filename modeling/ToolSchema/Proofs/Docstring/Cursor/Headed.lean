/-
Sections in place.

A header sends the line number to the end of its body, which is looked for line by line. In a parameter section an item
adds an entry, and any other line goes to the entry that was added last.
- `collect_eq`: no number of an entry is out of place in a parameter section.
- `round_advances`: a round goes on by one line, or by a header and its body.
- `read_eq`: reading the sections has no fault, and comes to their findings.
-/
import ToolSchema.Proofs.Docstring.Cursor.Collected

namespace ToolSchema.Docstring.Cursor.Headed

open Text Docstring.Headed

variable {ls body : List Line} {i : Nat}

/-! ## Reading -/

/-- a line with text that is not below a header of this indentation -/
def isOutside (ls : List Line) (level : Nat) (i : Nat) : Checked Bool := do
  let line ← lineAt ls i
  return !line.isEmpty && decide ((← indentOf line) ≤ level)

/-- a line of a parameter section -/
def addLine (level : Nat) (f : Filling) (line : Line) : Checked Filling := do
  if line.isEmpty then return f
  match if (← indentOf line) ≤ level then item? line else none with
  | some e => f.start [e]
  | none => f.add line

/-- the entries with those of a parameter section -/
def collect (body : List Line) (entries : List Entry) : Checked (List Entry) :=
  match body.find? (!·.isEmpty) with
  | none => return entries
  | some first => do return (← body.foldlM (addLine (← indentOf first)) ⟨entries, []⟩).entries

def addSection (header : Header) (inline : Line) (body : List Line) (c : Collected) : Checked Collected :=
  match header with
  | .params => do return { c with entries := ← collect body c.entries }
  | .returns => return c.addReturns ((if inline.isEmpty then [] else [inline]) ++ body)
  | .other => return c

def round (ls : List Line) (i : Nat) (c : Collected) : Checked (Option (Nat × Collected)) := do
  let line ← lineAt ls i
  match headerAt? (i == 0) line with
  | none => return some (i + 1, c)
  | some (header, inline) =>
    let c := c.mark i
    let stop ← seek ls.length (isOutside ls (← indentOf line)) (i + 1)
    let body ← range ls (i + 1) stop
    return some (max stop (i + 1), ← addSection header inline body c)

def read (ls : List Line) : Checked Collected := do
  return (← sweep ls.length (round ls) 0 .empty).2

/-! ## Bodies -/

theorem isOutside_eq (level : Nat) (hi : i < ls.length) :
    isOutside ls level i = pure ((ls.drop i).head?.any fun l => !isBody level l) := by
  have hdecide : ∀ line : Line, decide (indent line ≤ level) = !decide (level < indent line) := by
    intro line
    rw [← decide_not]
    exact decide_eq_decide.2 Nat.not_lt.symm
  rw [isOutside, lineAt_eq hi, pure_bind, indentOf_eq, pure_bind, drop_of_lt hi, List.head?_cons, Option.any_some, isBody,
    Bool.not_or, hdecide]

theorem addLine_eq (level : Nat) (f : Filling) (line : Line) :
    addLine level f line =
      if !line.isEmpty then Filling.feed (fun l => if indent l ≤ level then item? l else none) (fun e => [e]) id f line
      else pure f := by
  rw [addLine, indentOf_eq, pure_bind]
  cases line.isEmpty with
  | true => rfl
  | false =>
    rw [Filling.feed]
    cases if indent line ≤ level then item? line else none <;> rfl

/-- a parameter section adds its entries -/
theorem collect_eq (body : List Line) (entries : List Entry) :
    collect body entries = pure (entries ++ Docstring.Headed.entries body) := by
  rw [collect, ← List.head?_filter, Docstring.Headed.entries]
  cases hfilled : body.filter (!·.isEmpty) with
  | nil => simp
  | cons first rest =>
    obtain ⟨f, hf, hentries⟩ := Filling.foldlM_feed_nil entries (first :: rest)
    simp only [List.head?_cons, indentOf_eq, pure_bind, funext fun f => funext (addLine_eq (indent first) f)]
    rw [← List.foldlM_filter, hfilled, hf, pure_bind, hentries, List.map_eq_flatMap]
    simp only [List.map_id, List.map_cons, List.map_nil, extend]

/-! ## Sections -/

/-- the entries of a section of any kind -/
def entriesOf (s : Section) : List Entry :=
  if s.header == .params then entries s.body else []

theorem findings_eq (ls : List Line) :
    findings ls = ⟨Style.before .headed true ls, (sections true ls).flatMap entriesOf,
      flattenSome ((sections true ls).filterMap returnText?)⟩ := by
  have hprose : (findings ls).prose = Style.before .headed true ls := Style.prose_findings .headed ls
  have hentries : ∀ all : List Section,
      ((all.filter (·.header == .params)).flatMap fun s => entries s.body) = all.flatMap entriesOf := by
    intro all
    induction all with
    | nil => rfl
    | cons s rest ih =>
      rw [List.filter_cons, List.flatMap_cons, entriesOf, ← ih]
      split
      · rfl
      · rfl
  rw [← hprose, ← hentries]
  rfl

theorem addSection_eq (header : Header) (inline : Line) (body : List Line) (c : Collected) :
    addSection header inline body c =
      pure (c.block (entriesOf ⟨header, inline, body⟩) (returnText? ⟨header, inline, body⟩)) := by
  cases header with
  | params =>
    rw [addSection, collect_eq, pure_bind]
    rfl
  | returns =>
    have hentries : entriesOf ⟨.returns, inline, body⟩ = [] := rfl
    rw [hentries, Collected.block_nil]
    rfl
  | other =>
    have hentries : entriesOf ⟨.other, inline, body⟩ = [] := rfl
    rw [hentries, Collected.block_nil]
    rfl

/-- the sections among the lines from this number on -/
def sectionsFrom (ls : List Line) (i : Nat) : List Section :=
  sections (i == 0) (ls.drop i)

theorem round_advances (c : Collected) (hi : i < ls.length) :
    Advances .headed ls (sectionsFrom ls) entriesOf returnText? (round ls) i c := by
  have hmarks : Style.Marks .headed ls i ↔ (headerAt? (i == 0) ls[i]).isSome = true := by
    rw [Style.Marks, Style.begins, drop_of_lt hi, List.head?_cons, Option.bind_some]
  cases hheader : headerAt? (i == 0) ls[i] with
  | none =>
    refine .skip (by simp [hmarks, hheader]) ?_ ?_
    · rw [sectionsFrom, drop_of_lt hi, sections, hheader]
      rfl
    · rw [round, lineAt_eq hi, pure_bind, hheader]
  | some h =>
    obtain ⟨header, inline⟩ := h
    obtain ⟨n, hseek, hbound, hstops⟩ := seek_eq (i := i + 1)
      (p := fun rest => rest.head?.any fun l => !isBody (indent ls[i]) l)
      (fun _ hk => isOutside_eq (indent ls[i]) hk) (Nat.succ_le_of_lt hi)
    refine .take ⟨header, inline, (ls.drop (i + 1)).take n⟩ (i + 1 + n) (by simp [hmarks, hheader]) (by omega) ?_ ?_
    · have hlater : (i + 1 + n == 0) = false := by simp
      rw [sectionsFrom, drop_of_lt hi, sections, hheader, sectionsFrom, hlater]
      simp only [hstops.takeWhile_eq.1, hstops.takeWhile_eq.2, List.drop_drop]
    · rw [round, lineAt_eq hi, pure_bind, hheader]
      simp only [indentOf_eq, pure_bind, hseek, range_eq hbound, addSection_eq]
      rw [Nat.max_eq_left (Nat.le_add_right _ _)]

/-- **Sections are read without a fault.** -/
theorem read_eq (ls : List Line) : ∃ c, read ls = pure c ∧ c.findings ls = findings ls := by
  have hend : ∀ i, ls.length ≤ i → sectionsFrom ls i = [] := by
    intro i hi
    rw [sectionsFrom, List.drop_eq_nil_of_le hi, sections]
  obtain ⟨j, c, hsweep, hfindings⟩ := sweep_blocks (fun i c hi => round_advances c hi) hend
  refine ⟨c, by rw [read, hsweep, pure_bind], ?_⟩
  rw [hfindings, findings_eq]
  rfl

end ToolSchema.Docstring.Cursor.Headed
