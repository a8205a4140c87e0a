/-
Tags in place.

The lines are read one after the other. A parameter tag adds an entry and keeps its number, and the lines up to the next
tag go to the entry of this number.
- `Current.Valid`: the number that is kept is that of an entry, and there is a place for return text that is waited for.
- `reads`: whatever lines are left, they are read without a fault, and add what their tags say.
- `read_eq`: reading the tags has no fault, and comes to their findings.
-/
import ToolSchema.Proofs.Docstring.Cursor.Collected

namespace ToolSchema.Docstring.Cursor.Tag

open Text Docstring.Tag

variable {ls rest : List Line} {line : Line} {i : Nat}

/-! ## Reading -/

/-- where the lines after a tag go -/
inductive Current where
  | none
  | param (entry : Nat)
  | returns

/-- a line that is no tag -/
def Current.addText (line : Line) (c : Collected) : Current → Checked Collected
  | .none => return c
  | .param entry => do return { c with entries := ← Cursor.addText line c.entries entry }
  | .returns => return c.addReturns [line]

structure State where
  collected : Collected
  typings : List (Line × Line)
  current : Current

def State.start : State := ⟨.empty, [], .none⟩

/-- a tag at the line of this number -/
def addTag (tag : Tag) (i : Nat) (s : State) : Checked State :=
  let c := s.collected.mark i
  match tag with
  | .param name typeName text => do
    let entries := c.entries ++ [⟨name, typeName, [text]⟩]
    return ⟨{ c with entries := entries }, s.typings, .param (← minus entries.length 1)⟩
  | .type name typeName => return ⟨c, s.typings ++ [(name, typeName)], .none⟩
  | .returns text => return ⟨c.addReturns [text], s.typings, .returns⟩
  | .other => return ⟨c, s.typings, .none⟩

def addLine (s : State) (line : Line × Nat) : Checked State :=
  match ofLine? line.1 with
  | none => do return { s with collected := ← s.current.addText line.1 s.collected }
  | some tag => addTag tag line.2 s

def read (ls : List Line) : Checked Collected := do
  let s ← ls.zipIdx.foldlM addLine .start
  return { s.collected with entries := s.typings.foldl (fun entries t => assign entries t.1 t.2) s.collected.entries }

/-! ## Lines after a tag -/

namespace Current

/-- what is waited for has its place -/
def Valid (c : Collected) : Current → Prop
  | .none => True
  | .param entry => entry < c.entries.length
  | .returns => c.returns.isSome = true

/-- what is gathered, with more lines after the last tag -/
def extend (more : List Line) (c : Collected) : Current → Collected
  | .none => c
  | .param entry => { c with entries := c.entries.modify entry (Cursor.extend more) }
  | .returns => c.addReturns more

variable {current : Current} {c : Collected}

theorem extend_nil (h : current.Valid c) : current.extend [] c = c := by
  cases current with
  | none => rfl
  | param entry =>
    have hid : Cursor.extend [] = id := funext Cursor.extend_nil
    have hentries : c.entries.modify entry (Cursor.extend []) = c.entries := by rw [hid, List.modify_id]
    rw [extend, hentries]
  | returns =>
    obtain ⟨texts, htexts⟩ := Option.isSome_iff_exists.1 h
    rw [extend, Collected.addReturns, htexts, Option.getD_some, List.append_nil, ← htexts]

theorem addText_eq (line : Line) (h : current.Valid c) :
    ∃ c', current.addText line c = pure c' ∧ current.Valid c' ∧ c'.firstMarker = c.firstMarker ∧
      ∀ more, current.extend more c' = current.extend (line :: more) c := by
  cases current with
  | none => exact ⟨c, rfl, trivial, rfl, fun _ => rfl⟩
  | param entry =>
    have hentry : entry < c.entries.length := h
    refine ⟨{ c with entries := c.entries.modify entry (Cursor.extend [line]) }, ?_, ?_, rfl, fun more => ?_⟩
    · rw [addText, Cursor.addText, if_pos hentry, pure_bind]
    · rw [Valid, List.length_modify]
      exact hentry
    · have hboth : Cursor.extend more ∘ Cursor.extend [line] = Cursor.extend (line :: more) :=
        funext fun e => extend_extend [line] more e
      rw [extend, extend, List.modify_modify_eq, hboth]
  | returns =>
    refine ⟨c.addReturns [line], rfl, rfl, rfl, fun more => ?_⟩
    simp only [extend, Collected.addReturns, Option.getD_some, List.append_assoc, List.singleton_append]

end Current

/-- the entry of a tag with its lines, if it has one -/
def entriesOf (group : Tag × List Line) : List Entry :=
  Option.toList <| entry? group

/-- a tag with the lines after it is one block of the findings -/
theorem addTag_eq (tag : Tag) (i : Nat) (s : State) :
    ∃ s', addTag tag i s = pure s' ∧ s'.current.Valid s'.collected ∧
      s'.collected.firstMarker = (s.collected.mark i).firstMarker ∧
      ∀ more,
        s'.current.extend more s'.collected =
            (s.collected.mark i).block (entriesOf (tag, more)) (returnText? (tag, more)) ∧
          s'.typings = s.typings ++ (typing? (tag, more)).toList := by
  have hsame : ∀ c : Collected, c.block [] none = c := fun c => Collected.block_nil none c
  cases tag with
  | param name typeName text =>
    refine ⟨⟨{ s.collected.mark i with entries := s.collected.entries ++ [⟨name, typeName, [text]⟩] }, s.typings,
      .param s.collected.entries.length⟩, ?_, ?_, rfl, fun more => ⟨?_, (List.append_nil _).symm⟩⟩
    · rw [addTag, minus, List.length_append, List.length_singleton, if_pos (Nat.le_add_left 1 _), Nat.add_sub_cancel,
        pure_bind]
      rfl
    · rw [Current.Valid, List.length_append]
      exact Nat.lt_succ_self _
    · rw [Current.extend, modify_append_cons]
      rfl
  | type name typeName => exact ⟨_, rfl, trivial, rfl, fun more => ⟨(hsame _).symm, rfl⟩⟩
  | returns text =>
    refine ⟨_, rfl, rfl, rfl, fun more => ⟨?_, (List.append_nil _).symm⟩⟩
    have hentries : entriesOf (.returns text, more) = [] := rfl
    rw [hentries, Collected.block_nil]
    simp only [Current.extend, Collected.addReturns, Option.getD_some, List.append_assoc, List.singleton_append]
    rfl
  | other => exact ⟨_, rfl, trivial, rfl, fun more => ⟨(hsame _).symm, (List.append_nil _).symm⟩⟩

/-! ## All lines -/

theorem marks_iff (hrest : ls.drop i = line :: rest) : Style.Marks .tag ls i ↔ (ofLine? line).isSome = true := by
  rw [Style.Marks, Style.begins, hrest, List.head?_cons, Option.bind_some]

/-- the findings of groups of lines, after what is gathered already -/
structure Adds (c : Collected) (typings : List (Line × Line)) (groups : List (Tag × List Line)) (s : State) : Prop where
  entries : s.collected.entries = c.entries ++ groups.filterMap entry?
  returns : s.collected.returns = gather c.returns (groups.filterMap returnText?)
  typings : s.typings = typings ++ groups.filterMap typing?

theorem Adds.cons {c : Collected} {typings : List (Line × Line)} {group : Tag × List Line}
    {groups : List (Tag × List Line)} {s : State}
    (h : Adds (c.block (entriesOf group) (returnText? group)) (typings ++ (typing? group).toList) groups s) :
    Adds c typings (group :: groups) s where
  entries := by
    rw [h.entries, Collected.block, entriesOf, List.append_assoc, List.filterMap_cons]
    cases entry? group <;> rfl
  returns := by
    rw [h.returns, Collected.block, List.filterMap_cons]
    cases returnText? group <;> rfl
  typings := by
    rw [h.typings, List.append_assoc, List.filterMap_cons]
    cases typing? group <;> rfl

/-- What is left to read is read without a fault. It adds lines to the last tag, and the findings of the tags among it. -/
def Reads (ls : List Line) (i : Nat) (rest : List Line) (s : State) : Prop :=
  ∃ s', (rest.zipIdx i).foldlM addLine s = pure s' ∧
    Adds (s.current.extend (rest.takeWhile fun l => (ofLine? l).isNone) s.collected) s.typings
      (blocks ofLine? rest) s' ∧
    IsFirstMarker .tag ls (i + rest.length) s'.collected.firstMarker

theorem Reads.text {s : State} {c : Collected} (hline : ofLine? line = none)
    (hc : s.current.addText line s.collected = pure c)
    (hextend : ∀ more, s.current.extend more c = s.current.extend (line :: more) s.collected)
    (h : Reads ls (i + 1) rest ⟨c, s.typings, s.current⟩) : Reads ls i (line :: rest) s := by
  obtain ⟨s', hs', hadds, hmarker⟩ := h
  rw [hextend] at hadds
  refine ⟨s', ?_, ?_, ?_⟩
  · rw [List.zipIdx_cons, List.foldlM_cons, addLine]
    simp only [hline, hc, pure_bind, hs']
  · rw [List.takeWhile_cons, blocks, hline]
    exact hadds
  · rw [List.length_cons, Nat.add_comm rest.length 1, ← Nat.add_assoc]
    exact hmarker

theorem Reads.tag {s next : State} {tag : Tag} (hline : ofLine? line = some tag) (hvalid : s.current.Valid s.collected)
    (hnext : addTag tag i s = pure next)
    (hextend : ∀ more,
      next.current.extend more next.collected =
          (s.collected.mark i).block (entriesOf (tag, more)) (returnText? (tag, more)) ∧
        next.typings = s.typings ++ (typing? (tag, more)).toList)
    (h : Reads ls (i + 1) rest next) : Reads ls i (line :: rest) s := by
  obtain ⟨s', hs', hadds, hmarker⟩ := h
  rw [(hextend _).1, (hextend _).2] at hadds
  refine ⟨s', ?_, ?_, ?_⟩
  · rw [List.zipIdx_cons, List.foldlM_cons, addLine]
    simp only [hline, hnext, pure_bind, hs']
  · rw [List.takeWhile_cons, blocks, hline]
    simp only [Option.isNone_some, Bool.false_eq_true, if_false, Current.extend_nil hvalid]
    -- the mark is no part of the findings
    obtain ⟨hentries, hreturns, htypings⟩ := hadds.cons
    exact ⟨hentries, hreturns, htypings⟩
  · rw [List.length_cons, Nat.add_comm rest.length 1, ← Nat.add_assoc]
    exact hmarker

/-- **Lines are read without a fault**, from any place on and with any tag before it. -/
theorem reads {s : State} (hrest : ls.drop i = rest) (hvalid : s.current.Valid s.collected)
    (hmarker : IsFirstMarker .tag ls i s.collected.firstMarker) : Reads ls i rest s := by
  induction rest generalizing i s with
  | nil =>
    refine ⟨s, rfl, ?_, hmarker⟩
    rw [List.takeWhile_nil, Current.extend_nil hvalid]
    exact ⟨(List.append_nil _).symm, rfl, (List.append_nil _).symm⟩
  | cons line rest ih =>
    have hlater : ls.drop (i + 1) = rest := by
      rw [← List.drop_drop, hrest]
      rfl
    have hmarks := marks_iff hrest
    cases htag : ofLine? line with
    | none =>
      obtain ⟨c, hc, hvalid', hsame, hextend⟩ := Current.addText_eq line hvalid
      have hnone : ¬ Style.Marks .tag ls i := by simp [hmarks, htag]
      rw [← hsame] at hmarker
      exact .text htag hc hextend (ih hlater hvalid' (hmarker.skip hnone))
    | some tag =>
      obtain ⟨next, hnext, hvalid', hsame, hextend⟩ := addTag_eq tag i s
      have hsome : Style.Marks .tag ls i := by simp [hmarks, htag]
      have hmarker' : IsFirstMarker .tag ls (i + 1) next.collected.firstMarker := by
        rw [hsame]
        exact hmarker.mark hsome
      exact .tag htag hvalid hnext hextend (ih hlater hvalid' hmarker')

/-- **Tags are read without a fault.** -/
theorem read_eq (ls : List Line) : ∃ c, read ls = pure c ∧ c.findings ls = findings ls := by
  have hstart : ls.drop 0 = ls := List.drop_zero
  obtain ⟨s, hs, hadds, hmarker⟩ := reads (s := .start) hstart trivial (.zero .tag ls)
  refine ⟨_, by rw [read, hs, pure_bind], ?_⟩
  have hprose : (findings ls).prose = Style.before .tag true ls := Style.prose_findings .tag ls
  have htypings : s.typings = (blocks ofLine? ls).filterMap typing? := hadds.typings
  have hentries : s.collected.entries = (blocks ofLine? ls).filterMap entry? := hadds.entries
  have hreturns : s.collected.returns = flattenSome ((blocks ofLine? ls).filterMap returnText?) := by
    rw [hadds.returns, ← gather_none]
    rfl
  simp only [Collected.findings]
  rw [hmarker.take_eq (Nat.le_of_eq (Nat.zero_add _).symm), ← hprose, htypings, hentries, hreturns]
  rfl

end ToolSchema.Docstring.Cursor.Tag
