/-
Marker lines, and the prose before them.

Each layout finds its first marker on the way through the lines, and what stands before it is the description
(`prose_findings`). Whether a line is a marker does not depend on the blanks around it (`begins_map_trim`), and no line
becomes one when lines before or after it are taken away (`Unmarked.of_isInfix`). So the description, cleaned once more with
a first line of its own, still has no marker in it.
- `before_eq_take`: the prose is all lines before the first marker.
- `parse?_eq_none`: without a marker a layout finds nothing.
- `extract_description_unmarked`: a layout finds nothing in the description of its own model.
-/
import ToolSchema.Proofs.Docstring.Detection
import ToolSchema.Proofs.Docstring.Prose

namespace ToolSchema.Docstring

open Text

variable {style : Style} {isFirst : Bool} {line : Line} {ls rest : List Line} {names : List String}

/-! ## Marker lines -/

namespace Style

/-- The lines begin with a marker of the layout: any tag, a title with dashes below it or a header row, any section
header. On the first line of all, a return header with text after it is none. -/
def begins (isFirst : Bool) (ls : List Line) : Style → Bool
  | .tag => (ls.head?.bind Tag.ofLine?).isSome
  | .table => Table.startsBlock ls
  | .headed => (ls.head?.bind (Headed.headerAt? isFirst)).isSome

/-- the line of this number is a marker of the layout -/
def Marks (style : Style) (ls : List Line) (i : Nat) : Prop :=
  style.begins (i == 0) (ls.drop i) = true

/-- no line is a marker -/
def Unmarked (style : Style) (isFirst : Bool) (ls : List Line) : Prop :=
  ∀ i, style.begins (isFirst && i == 0) (ls.drop i) = false

/-- the lines before the first marker -/
def before (style : Style) (isFirst : Bool) : List Line → List Line
  | [] => []
  | line :: rest => if style.begins isFirst (line :: rest) then [] else line :: style.before false rest

theorem unmarked_cons_iff :
    style.Unmarked isFirst (line :: rest) ↔ style.begins isFirst (line :: rest) = false ∧ style.Unmarked false rest := by
  constructor
  · intro h
    refine ⟨?_, fun i => ?_⟩
    · have hfirst := h 0
      simpa using hfirst
    · have hlater := h (i + 1)
      simpa using hlater
  · rintro ⟨hfirst, hlater⟩ i
    cases i with
    | zero => simpa using hfirst
    | succ i =>
      have hi := hlater i
      simpa using hi

theorem begins_nil (style : Style) (isFirst : Bool) : style.begins isFirst [] = false := by
  cases style <;> rfl

theorem unmarked_nil (style : Style) (isFirst : Bool) : style.Unmarked isFirst [] := by
  intro i
  rw [List.drop_nil, begins_nil]

theorem before_eq_self_iff : style.before isFirst ls = ls ↔ style.Unmarked isFirst ls := by
  induction ls generalizing isFirst with
  | nil => exact iff_of_true rfl (unmarked_nil style isFirst)
  | cons line rest ih =>
    rw [unmarked_cons_iff, ← ih, before]
    cases style.begins isFirst (line :: rest) <;> simp

instance (style : Style) (isFirst : Bool) (ls : List Line) : Decidable (style.Unmarked isFirst ls) :=
  decidable_of_iff _ before_eq_self_iff

/-- **The prose is all lines before the first marker.** -/
theorem before_eq_take (style : Style) (isFirst : Bool) (ls : List Line) :
    ∃ k ≤ ls.length, style.before isFirst ls = ls.take k ∧
      (∀ i < k, style.begins (isFirst && i == 0) (ls.drop i) = false) ∧
      (k < ls.length → style.begins (isFirst && k == 0) (ls.drop k) = true) := by
  induction ls generalizing isFirst with
  | nil => exact ⟨0, Nat.le_refl 0, rfl, fun i hi => absurd hi (Nat.not_lt_zero i), fun h => absurd h (Nat.lt_irrefl 0)⟩
  | cons line rest ih =>
    rw [before]
    cases hbegins : style.begins isFirst (line :: rest) with
    | true =>
      refine ⟨0, Nat.zero_le _, rfl, fun i hi => absurd hi (Nat.not_lt_zero i), fun _ => ?_⟩
      simpa using hbegins
    | false =>
      obtain ⟨k, hk, htake, hbefore, hmarker⟩ := ih false
      refine ⟨k + 1, Nat.succ_le_succ hk, ?_, ?_, ?_⟩
      · simp [htake]
      · intro i hi
        cases i with
        | zero => simpa using hbegins
        | succ i =>
          have hbeforei := hbefore i (Nat.lt_of_succ_lt_succ hi)
          simpa using hbeforei
      · intro hlength
        have hend := hmarker (Nat.lt_of_succ_lt_succ hlength)
        simpa using hend

theorem exists_before_eq_take (style : Style) (ls : List Line) :
    ∃ k ≤ ls.length, style.before true ls = ls.take k ∧ (∀ i < k, ¬ style.Marks ls i) ∧
      (k < ls.length → style.Marks ls k) := by
  obtain ⟨k, hk, htake, hbefore, hmarker⟩ := style.before_eq_take true ls
  refine ⟨k, hk, htake, fun i hi => ?_, fun hlength => ?_⟩
  · have hnone := hbefore i hi
    rw [Bool.true_and] at hnone
    rw [Marks, hnone]
    exact Bool.false_ne_true
  · have hsome := hmarker hlength
    rwa [Bool.true_and] at hsome

theorem prose_findings (style : Style) (ls : List Line) : (style.findings ls).prose = style.before true ls := by
  cases style with
  | tag =>
    -- a tag is one on any line
    have htags : ∀ isFirst, ls.takeWhile (fun l => (Tag.ofLine? l).isNone) = before .tag isFirst ls := by
      induction ls with
      | nil => exact fun _ => rfl
      | cons line rest ih =>
        intro isFirst
        rw [List.takeWhile_cons, before, ih false, begins, List.head?_cons, Option.bind_some]
        cases Tag.ofLine? line <;> rfl
    exact htags true
  | table =>
    have hblocks : ∀ isFirst, Table.body ls = before .table isFirst ls := by
      induction ls with
      | nil => exact fun _ => rfl
      | cons line rest ih =>
        intro isFirst
        rw [Table.body, before, ih false, begins]
    exact hblocks true
  | headed =>
    have hheaders : ∀ isFirst, Headed.proseBefore isFirst ls = before .headed isFirst ls := by
      induction ls with
      | nil => exact fun _ => rfl
      | cons line rest ih =>
        intro isFirst
        rw [Headed.proseBefore, before, ih false, begins, List.head?_cons, Option.bind_some]
    exact hheaders true

/-! ## Fewer lines -/

/-- only the first line is read with more care -/
theorem begins_of_begins {isFirst' : Bool} (h : isFirst' = true → isFirst = true)
    (hbegins : style.begins isFirst ls = true) : style.begins isFirst' ls = true := by
  cases style with
  | tag => exact hbegins
  | table => exact hbegins
  | headed =>
    cases isFirst' with
    | true =>
      rw [h rfl] at hbegins
      exact hbegins
    | false =>
      cases ls with
      | nil => exact hbegins
      | cons line rest =>
        rw [begins, List.head?_cons, Option.bind_some, Headed.headerAt?, Option.isSome_filter] at hbegins ⊢
        obtain ⟨header, hheader, -⟩ := (Option.any_eq_true _ _).1 hbegins
        rw [hheader]
        rfl

/-- a marker is one line, or two that follow each other -/
theorem begins_append (hbegins : style.begins isFirst ls = true) (more : List Line) :
    style.begins isFirst (ls ++ more) = true := by
  cases ls with
  | nil => cases style <;> cases hbegins
  | cons line rest =>
    cases style with
    | tag => exact hbegins
    | headed => exact hbegins
    | table =>
      rw [begins, Table.startsBlock, Bool.or_eq_true] at hbegins ⊢
      rcases hbegins with htitle | hcolumns
      · left
        cases rest with
        | nil => cases htitle
        | cons next rest => exact htitle
      · exact .inr hcolumns

theorem Unmarked.of_isInfix {part : List Line} (hpart : part <:+: ls) (h : style.Unmarked isFirst ls) :
    style.Unmarked true part := by
  obtain ⟨lead, trail, rfl⟩ := hpart
  intro i
  rw [Bool.eq_false_iff]
  intro hbegins
  by_cases hi : i ≤ part.length
  · have hdrop : (lead ++ part ++ trail).drop (lead.length + i) = part.drop i ++ trail := by
      rw [List.append_assoc, List.drop_length_add_append, List.drop_append_of_le_length hi]
    have hwhole := h (lead.length + i)
    rw [hdrop, Bool.eq_false_iff] at hwhole
    refine hwhole (begins_append (begins_of_begins ?_ hbegins) trail)
    simp
  · rw [List.drop_eq_nil_of_le (Nat.le_of_not_le hi), begins_nil] at hbegins
    cases hbegins

theorem unmarked_before (style : Style) (isFirst : Bool) (ls : List Line) :
    style.Unmarked isFirst (style.before isFirst ls) := by
  obtain ⟨k, hk, htake, hbefore, -⟩ := style.before_eq_take isFirst ls
  intro i
  rw [htake, Bool.eq_false_iff]
  intro hbegins
  by_cases hi : i < k
  · have hsplit : ls.drop i = (ls.take k).drop i ++ ls.drop k := by
      conv_lhs => rw [← List.take_append_drop k ls]
      rw [List.drop_append_of_le_length]
      rw [List.length_take_of_le hk]
      exact Nat.le_of_lt hi
    have hwhole := hbefore i hi
    rw [hsplit, begins_append hbegins] at hwhole
    cases hwhole
  · rw [List.drop_take, Nat.sub_eq_zero_of_le (Nat.le_of_not_lt hi), List.take_zero, begins_nil] at hbegins
    cases hbegins

end Style

/-! ## Blanks around a line -/

theorem Tag.ofLine?_trim (line : Line) : Tag.ofLine? (trim line) = Tag.ofLine? line := by
  rw [ofLine?, ofLine?, trim_trim]

theorem Headed.headerAt?_trim (isFirst : Bool) (line : Line) : headerAt? isFirst (trim line) = headerAt? isFirst line := by
  rw [headerAt?, headerAt?, Header.ofLine?, Header.ofLine?, trim_trim]

namespace Table

theorem columns?_trim (line : Line) : columns? (trim line) = columns? line := by
  rw [columns?, columns?, cells?, cells?, trim_trim]

theorem isUnderline_trim (line : Line) : isUnderline (trim line) = isUnderline line := by
  rw [isUnderline, isUnderline, trim_trim]

theorem title?_map_trim (ls : List Line) : title? (ls.map trim) = title? ls := by
  match ls with
  | [] => rfl
  | [line] => rfl
  | line :: next :: rest =>
    rw [List.map_cons, List.map_cons, title?, title?, trim_trim, isUnderline_trim]

end Table

theorem Style.begins_map_trim (isFirst : Bool) (ls : List Line) : style.begins isFirst (ls.map trim) = style.begins isFirst ls := by
  have hhead : ∀ {α : Type} (f : Line → Option α), (∀ line, f (trim line) = f line) →
      (ls.map trim).head?.bind f = ls.head?.bind f := by
    intro α f hf
    cases ls with
    | nil => rfl
    | cons line rest => exact hf line
  cases style with
  | tag => rw [begins, begins, hhead _ Tag.ofLine?_trim]
  | table => rw [begins, begins, Table.startsBlock, Table.startsBlock, Table.title?_map_trim, hhead _ Table.columns?_trim]
  | headed => rw [begins, begins, hhead _ (Headed.headerAt?_trim isFirst)]

theorem Style.unmarked_map_trim : style.Unmarked isFirst (ls.map trim) ↔ style.Unmarked isFirst ls := by
  refine forall_congr' fun i => ?_
  rw [← List.map_drop, begins_map_trim]

/-- cleaning takes lines away at both ends and blanks around lines -/
theorem unmarked_clean_prose (hflat : ∀ l ∈ ls, IsFlat l) (h : style.Unmarked isFirst ls) :
    style.Unmarked true (clean (prose ls)) := by
  rw [← Style.unmarked_map_trim, map_trim_clean_prose hflat]
  exact (Style.unmarked_map_trim.2 h).of_isInfix (trimLines_isInfix _)

/-! ## Lines without a marker -/

/-- prose hides no section behind it -/
theorem Headed.sections_prose_append (h : Style.Unmarked .headed isFirst ls) (rest : List Line) :
    sections isFirst (ls ++ rest) = sections (isFirst && ls.isEmpty) rest := by
  induction ls generalizing isFirst with
  | nil => rw [List.nil_append, List.isEmpty_nil, Bool.and_true]
  | cons line ls ih =>
    obtain ⟨hfirst, hrest⟩ := Style.unmarked_cons_iff.1 h
    have hnone : headerAt? isFirst line = none := by simpa [Style.begins] using hfirst
    rw [List.cons_append, sections, hnone, List.isEmpty_cons, Bool.and_false]
    exact ih hrest

theorem Headed.sections_eq_nil (h : Style.Unmarked .headed isFirst ls) : sections isFirst ls = [] := by
  have hwhole := sections_prose_append h []
  rwa [List.append_nil, sections] at hwhole

namespace Table

/-- only dashes could make a title of the last of some lines -/
theorem startsBlock_append (hne : ls ≠ []) (hnext : ∀ l ∈ rest.head?, isUnderline l = false) :
    startsBlock (ls ++ rest) = startsBlock ls := by
  obtain ⟨line, ls, rfl⟩ := List.exists_cons_of_ne_nil hne
  have htitle : title? (line :: ls ++ rest) = title? (line :: ls) := by
    match ls, rest with
    | next :: ls, rest => rfl
    | [], [] => rfl
    | [], next :: rest =>
      have hnext : isUnderline next = false := hnext next rfl
      rw [List.singleton_append, title?, hnext, if_pos (by simp)]
      rfl
  rw [startsBlock, htitle, startsBlock]
  rfl

/-- prose hides no block behind it -/
theorem blocks_prose_append (h : Style.Unmarked .table isFirst ls) (hnext : ∀ l ∈ rest.head?, isUnderline l = false) :
    blocks (ls ++ rest) = blocks rest := by
  induction ls generalizing isFirst with
  | nil => rfl
  | cons line ls ih =>
    obtain ⟨hfirst, hrest⟩ := Style.unmarked_cons_iff.1 h
    rw [Style.begins, ← startsBlock_append (List.cons_ne_nil line ls) hnext, startsBlock,
      Bool.or_eq_false_iff] at hfirst
    have htitle : title? (line :: ls ++ rest) = none := by simpa using hfirst.1
    have hcolumns : columns? line = none := by simpa using hfirst.2
    rw [List.cons_append] at htitle ⊢
    rw [blocks, htitle, hcolumns]
    exact ih hrest

theorem body_prose_append (h : Style.Unmarked .table isFirst ls) (hnext : ∀ l ∈ rest.head?, isUnderline l = false) :
    body (ls ++ rest) = ls ++ body rest := by
  induction ls generalizing isFirst with
  | nil => rfl
  | cons line ls ih =>
    obtain ⟨hfirst, hrest⟩ := Style.unmarked_cons_iff.1 h
    rw [Style.begins, ← startsBlock_append (List.cons_ne_nil line ls) hnext, List.cons_append] at hfirst
    rw [List.cons_append, body, hfirst, if_neg Bool.false_ne_true, ih hrest, List.cons_append]

/-- prose ends where the first block begins -/
theorem body_before (h : Style.Unmarked .table isFirst ls) (hnext : ∀ l ∈ rest.head?, isUnderline l = false)
    (hstart : startsBlock rest = true) : body (ls ++ rest) = ls := by
  have hrest : body rest = [] := by
    cases rest with
    | nil => rfl
    | cons line rest => rw [body, if_pos hstart]
  rw [body_prose_append h hnext, hrest, List.append_nil]

theorem blocks_eq_nil (h : Style.Unmarked .table isFirst ls) : blocks ls = [] := by
  have hwhole := @blocks_prose_append isFirst ls [] h nofun
  rwa [List.append_nil, blocks] at hwhole

end Table

theorem Tag.blocks_eq_nil (h : Style.Unmarked .tag isFirst ls) : blocks ofLine? ls = [] := by
  induction ls generalizing isFirst with
  | nil => rfl
  | cons line rest ih =>
    obtain ⟨hfirst, hrest⟩ := Style.unmarked_cons_iff.1 h
    have hnone : ofLine? line = none := by simpa [Style.begins] using hfirst
    rw [blocks, hnone]
    exact ih hrest

/-- **Without a marker there is nothing to find.** -/
theorem parse?_eq_none (h : style.Unmarked true ls) : (style.parse? ls names).value = none := by
  have hempty : (style.findings ls).isEmpty = true := by
    cases style with
    | tag =>
      rw [Style.findings, Tag.findings, Tag.blocks_eq_nil h]
      rfl
    | table =>
      rw [Style.findings, Table.findings, Table.blocks_eq_nil h]
      rfl
    | headed =>
      rw [Style.findings, Headed.findings, Headed.sections_eq_nil h]
      rfl
  rw [Style.parse?, Findings.toModel?, if_pos hempty]
  rfl

/-- a layout with a model has a first marker, and its prose ends there -/
theorem exists_first_marker {model : Model} (h : (style.parse? ls names).value = some model) :
    ∃ k, style.Marks ls k ∧ (∀ i < k, ¬ style.Marks ls i) ∧ (style.findings ls).prose = ls.take k := by
  obtain ⟨k, hk, htake, hbefore, hmarker⟩ := style.exists_before_eq_take ls
  rw [Style.prose_findings, htake]
  refine ⟨k, hmarker (Nat.lt_of_not_le fun hall => ?_), hbefore, rfl⟩
  have hunmarked : style.Unmarked true ls := by
    have hwhole := style.unmarked_before true ls
    rwa [htake, List.take_of_length_le hall] at hwhole
  rw [parse?_eq_none hunmarked] at h
  cases h

/-! ## Descriptions -/

/-- prose is some of the clean lines -/
theorem isFlat_of_mem_prose {raw : List Char} (h : line ∈ (style.findings (clean raw)).prose) : IsFlat line := by
  obtain ⟨k, -, htake, -⟩ := style.exists_before_eq_take (clean raw)
  rw [Style.prose_findings, htake] at h
  exact isFlat_of_mem_clean (List.mem_of_mem_take h)

theorem parse?_of_style (raw : String) (h : (extract raw names).value.style = some style) :
    (style.parse? (clean raw.toList) names).value = some (extract raw names).value := by
  rcases extract_cases raw names with ⟨style', hparse, hstyle⟩ | hplain
  · rw [h] at hstyle
    cases hstyle
    exact hparse
  · rw [hplain] at h
    cases h

/-- **Marker text never leaks into the description.** Take any text and any names, and let the model be one of a layout.
The description is the text of all clean lines before the first marker of this layout, without blanks around it. Cleaned
once more, for whatever names, it holds nothing for the layout to find. -/
theorem extract_description_unmarked (raw : String) (names : List String) (style : Style)
    (h : (extract raw names).value.style = some style) :
    (∀ known, (style.parse? (clean (extract raw names).value.description.toList) known).value = none) ∧
    ∃ k, style.Marks (clean raw.toList) k ∧ (∀ i < k, ¬ style.Marks (clean raw.toList) i) ∧
      (extract raw names).value.description = String.ofList (trim (joinLines ((clean raw.toList).take k))) := by
  have hparse := parse?_of_style raw h
  have hdescription : (extract raw names).value.description =
      String.ofList (prose (style.findings (clean raw.toList)).prose) := by
    rw [(toModel?_eq_some_iff.1 hparse).2]
  obtain ⟨k, hmarks, hbefore, htake⟩ := exists_first_marker hparse
  refine ⟨fun known => ?_, k, hmarks, hbefore, ?_⟩
  · have hunmarked : style.Unmarked true (style.findings (clean raw.toList)).prose := by
      rw [Style.prose_findings]
      exact style.unmarked_before true _
    rw [hdescription, String.toList_ofList]
    exact parse?_eq_none (unmarked_clean_prose (fun _ hl => isFlat_of_mem_prose hl) hunmarked)
  · rw [hdescription, htake]
    rfl

/-- a text whose first line reads like a return section, with an indented line below it -/
def inlineReturn : String :=
  "Returns: the sum\n\n      of all.\n    Args:\n        a: First."

/-- The first line is prose, and so is the indented line. Cleaned once more they stand at the margin, and there still is no
section among them. -/
theorem extract_description_unmarked_inline :
    (extract inlineReturn ["a"]).value.style = some .headed ∧
    (extract inlineReturn ["a"]).value.description = "Returns: the sum\n\n  of all." ∧
    clean "Returns: the sum\n\n  of all.".toList = ["Returns: the sum".toList, [], "of all.".toList] ∧
    (Style.parse? .headed (clean "Returns: the sum\n\n  of all.".toList) ["a"]).value = none := by
  have hstyle : (extract inlineReturn ["a"]).value.style = some .headed := by decide +kernel
  have hdescription : (extract inlineReturn ["a"]).value.description = "Returns: the sum\n\n  of all." := by
    decide +kernel
  have hnone := (extract_description_unmarked _ _ _ hstyle).1 ["a"]
  rw [hdescription] at hnone
  exact ⟨hstyle, hdescription, by decide +kernel, hnone⟩

end ToolSchema.Docstring
