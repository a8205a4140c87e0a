/-
Extraction in place.

Every access that extraction makes to texts, lines and entries is in place, and every loop advances: with each access
checked, it comes to its result without a fault, and the result is that of extraction.
- `detect_eq`, `parse_eq`: looking for markers and parsing have no fault.
- `extract_faultless`: extraction has no fault on any text.
-/
import ToolSchema.Proofs.Docstring.Cursor.Headed
import ToolSchema.Proofs.Docstring.Cursor.Table
import ToolSchema.Proofs.Docstring.Cursor.Tag

namespace ToolSchema.Docstring.Cursor

open Text

variable {ls : List Line} {names : List String} {style : Style}

/-! ## Layouts -/

/-- what a layout gathers from the lines -/
def read (ls : List Line) : Style → Checked Collected
  | .tag => Tag.read ls
  | .table => Table.read ls
  | .headed => Headed.read ls

def parse (style : Style) (ls : List Line) (names : List String) : Checked (Option Model) := do
  (← read ls style).toModel? style names ls

/-- **Parsing has no fault.** -/
theorem parse_eq (style : Style) (ls : List Line) (names : List String) :
    parse style ls names = pure (style.parse? ls names).value := by
  have hread : ∃ c, read ls style = pure c ∧ c.findings ls = style.findings ls := by
    cases style with
    | tag => exact Tag.read_eq ls
    | table => exact Table.read_eq ls
    | headed => exact Headed.read_eq ls
  obtain ⟨c, hc, hfindings⟩ := hread
  rw [parse, hc, pure_bind, Collected.toModel?_eq, hfindings, Style.parse?]

/-! ## Markers -/

/-- a title or a header row that documents something -/
def Table.isMarkerAt (ls : List Line) (i : Nat) : Checked Bool := do
  if (← titleAt ls i).any (· != .other) then return true
  else return (Docstring.Table.columns? (← lineAt ls i)).isSome

/-- the lines from this number on begin with a header that documents something -/
def Headed.startsMarker (i : Nat) (rest : List Line) : Bool :=
  rest.head?.any fun line => (Docstring.Headed.headerAt? (i == 0) line).any Docstring.Headed.isMarker

/-- a header that documents something -/
def Headed.isMarkerAt (ls : List Line) (i : Nat) : Checked Bool := do
  return (Docstring.Headed.headerAt? (i == 0) (← lineAt ls i)).any Docstring.Headed.isMarker

def detect (ls : List Line) : Style → Checked Bool
  | .tag => return Docstring.Tag.detect ls
  | .table => (List.range ls.length).anyM (Table.isMarkerAt ls)
  | .headed => (List.range ls.length).anyM (Headed.isMarkerAt ls)

/-- a test of every line has no fault if it has none on any line -/
theorem anyM_range {test : Nat → Checked Bool} {q : Nat → List Line → Bool}
    (h : ∀ i < ls.length, test i = pure (q i (ls.drop i))) :
    (List.range ls.length).anyM test = pure ((List.range ls.length).any fun i => q i (ls.drop i)) := by
  have hall : ∀ is : List Nat, (∀ i ∈ is, i < ls.length) →
      is.anyM test = pure (is.any fun i => q i (ls.drop i)) := by
    intro is his
    induction is with
    | nil => rfl
    | cons i rest ih =>
      rw [List.forall_mem_cons] at his
      rw [List.anyM_cons, h i his.1, pure_bind, ih his.2, List.any_cons]
      cases q i (ls.drop i) with
      | true => rfl
      | false => rfl
  exact hall _ fun i hi => List.mem_range.1 hi

theorem any_range_cons {q : Nat → List Line → Bool} {line : Line} {rest : List Line} :
    ((List.range (line :: rest).length).any fun i => q i ((line :: rest).drop i)) =
      (q 0 (line :: rest) || (List.range rest.length).any fun i => q (i + 1) (rest.drop i)) := by
  rw [List.length_cons, List.range_succ_eq_map, List.any_cons, List.any_map]
  rfl

theorem Table.isMarkerAt_eq {i : Nat} (hi : i < ls.length) :
    isMarkerAt ls i = pure (Docstring.Table.isMarker (ls.drop i)) := by
  rw [isMarkerAt, titleAt_eq hi, pure_bind, lineAt_eq hi, pure_bind, Docstring.Table.isMarker]
  have hhead : (ls.drop i).head?.bind Docstring.Table.columns? = Docstring.Table.columns? ls[i] := by
    rw [drop_of_lt hi, List.head?_cons, Option.bind_some]
  rw [hhead]
  cases (Docstring.Table.title? (ls.drop i)).any (· != .other) with
  | true => rfl
  | false => rfl

theorem Headed.isMarkerAt_eq {i : Nat} (hi : i < ls.length) :
    isMarkerAt ls i = pure (startsMarker i (ls.drop i)) := by
  rw [isMarkerAt, lineAt_eq hi, pure_bind, startsMarker, drop_of_lt hi, List.head?_cons, Option.any_some]

theorem Table.any_isMarker (ls : List Line) :
    ((List.range ls.length).any fun i => Docstring.Table.isMarker (ls.drop i)) = Docstring.Table.detect ls := by
  induction ls with
  | nil => rfl
  | cons line rest ih =>
    rw [any_range_cons (q := fun _ rest => Docstring.Table.isMarker rest), ih, Docstring.Table.detect]

theorem Headed.any_startsMarker (ls : List Line) :
    ((List.range ls.length).any fun i => startsMarker i (ls.drop i)) = Docstring.Headed.detect ls := by
  have hlater : ∀ rest : List Line,
      ((List.range rest.length).any fun i => startsMarker (i + 1) (rest.drop i)) =
        rest.any fun line => (Docstring.Headed.headerAt? false line).any Docstring.Headed.isMarker := by
    intro rest
    induction rest with
    | nil => rfl
    | cons line rest ih =>
      rw [any_range_cons (q := fun i => startsMarker (i + 1)), List.any_cons, ← ih]
      rfl
  cases ls with
  | nil => rfl
  | cons line rest =>
    rw [any_range_cons, hlater]
    rfl

/-- **Looking for markers has no fault.** -/
theorem detect_eq (style : Style) (ls : List Line) : detect ls style = pure (style.detect ls) := by
  cases style with
  | tag => rfl
  | table =>
    rw [detect, anyM_range (q := fun _ rest => Docstring.Table.isMarker rest) fun i hi => Table.isMarkerAt_eq hi,
      Table.any_isMarker]
    rfl
  | headed =>
    rw [detect, anyM_range (q := Headed.startsMarker) fun i hi => Headed.isMarkerAt_eq hi, Headed.any_startsMarker]
    rfl

/-! ## Extraction -/

def select (ls : List Line) (names : List String) : List Style → Checked (Option Model)
  | [] => return none
  | style :: rest => do
    if ← detect ls style then
      match ← parse style ls names with
      | some model => return some model
      | none => select ls names rest
    else select ls names rest

def extract (raw : String) (names : List String) : Checked Model := do
  let ls ← clean raw.toList
  if ls.isEmpty then return .empty
  match ← select ls names Style.all with
  | some model => return model
  | none =>
    return { Model.empty with
      summary := String.ofList (summary ls)
      description := String.ofList (prose (← range ls 0 (min ls.length ls.length))) }

theorem select_eq (ls : List Line) (names : List String) (styles : List Style) :
    select ls names styles = pure (select? ls names styles).value := by
  induction styles with
  | nil => rfl
  | cons style rest ih =>
    rw [select, detect_eq, pure_bind, parse_eq, pure_bind, ih, select?]
    cases style.detect ls with
    | false => rfl
    | true =>
      simp only [if_true, Traced.bind_value]
      cases (style.parse? ls names).value with
      | none => rfl
      | some model => rfl

/-- **Extraction has no fault and ends.** Let every access be checked: a text is cut at a byte between two of its
characters and not behind its end, and at a margin no wider than its leading spaces; lines and entries have the numbers
they are taken by; a range of lines ends behind its start and inside the text; no size is less than zero; every round of
a loop advances. Then, for any text and any names, cleaning comes to the clean lines of the text, every layout comes to
its model of any lines, and extraction to the model of the text. -/
theorem extract_faultless (raw : String) (names : List String) :
    clean raw.toList = .ok (Docstring.clean raw.toList) ∧
    (∀ (style : Style) (ls : List Line), parse style ls names = .ok (style.parse? ls names).value) ∧
    extract raw names = .ok (Docstring.extract raw names).value := by
  refine ⟨clean_eq raw.toList, fun style ls => parse_eq style ls names, ?_⟩
  rw [extract, clean_eq, pure_bind, Docstring.extract, select_eq, pure_bind, Nat.min_self,
    range_of_le (Nat.zero_le _) (Nat.le_refl _), List.take_length, List.drop_zero, pure_bind]
  cases hempty : (Docstring.clean raw.toList).isEmpty with
  | true => rfl
  | false =>
    simp only [Bool.false_eq_true, if_false, Traced.bind_value]
    cases (select? (Docstring.clean raw.toList) names Style.all).value with
    | none => rfl
    | some model => rfl

end ToolSchema.Docstring.Cursor
