/-
Well-formed models.

What a model says about a parameter or the return value is a phrase of the text: words of the text with single spaces
between them. This holds whatever layout the words come from, since a layout quotes the lines it reads
(`quotes_findings`), a line is a part of the text (`exists_infix_of_mem_clean`), and only tabs and blanks change on the
way. The summary is the first line of the description, in a layout's model as in that of plain text.
- `isPhrase_of_joinWords`: the words that quote clean lines make a phrase.
- `addEntries_wellFormed`: parameters stay well formed entry by entry.
- `extract_wellFormed`: every extracted model is well formed.
-/
import ToolSchema.Proofs.Docstring.Marker
import ToolSchema.Proofs.Docstring.Quotation
import ToolSchema.Proofs.Docstring.Restrict

namespace ToolSchema.Docstring

open Text

variable {raw text : List Char} {names : List String} {params : Entries ParamDoc} {fragments : List Line}

/-! ## Phrases -/

/-- words of the text with single spaces between them: at least one, and no blank at either end -/
structure IsPhrase (raw text : List Char) : Prop where
  filled : text ≠ []
  trimmed : trim text = text
  spaced : text = [' '].intercalate (words text)
  quoted : ∀ w ∈ words text, w <:+: raw

/-- a word of a clean line stands in the text -/
theorem infix_of_infix_clean {w : List Char} {line : Line} (hline : line ∈ clean raw)
    (hword : ∀ c ∈ w, isBlank c = false) (h : w <:+: line) : w <:+: raw := by
  obtain ⟨piece, hpiece, hpart⟩ := exists_infix_of_mem_clean hline
  exact infix_of_infix_expandTabs hword (h.trans (hpart.trans (infix_of_mem_splitOn hpiece)))

theorem isPhrase_of_joinWords (hquotes : ∀ part ∈ fragments, Quotes (clean raw) part)
    (h : joinWords fragments = some text) : IsPhrase raw text := by
  have hwords : ∀ w ∈ fragments.flatMap words, w ≠ [] ∧ ∀ c ∈ w, isBlank c = false := fun _ => mem_flatMap_words
  rw [joinWords] at h
  split at h
  · cases h
  · next hfilled =>
    cases h
    refine ⟨by simpa using hfilled, trim_intercalate hwords, by rw [words_intercalate hwords], ?_⟩
    intro w hw
    rw [words_intercalate hwords] at hw
    obtain ⟨part, hpart, hmem⟩ := List.mem_flatMap.1 hw
    obtain ⟨line, hline, hword⟩ := hquotes part hpart w hmem
    exact infix_of_infix_clean hline (hwords w hw).2 hword

/-! ## Parameters -/

/-- each known, listed once, and described by a phrase if at all -/
structure ParamsWellFormed (raw : List Char) (names : List String) (params : Entries ParamDoc) : Prop where
  known : ∀ name ∈ Entries.keys params, name ∈ names
  distinct : (Entries.keys params).Nodup
  described : ∀ p ∈ params, ∀ text, p.2.description = some text → IsPhrase raw text.toList

theorem paramsWellFormed_nil (raw : List Char) (names : List String) : ParamsWellFormed raw names [] where
  known := fun _ h => absurd h List.not_mem_nil
  distinct := List.nodup_nil
  described := fun _ h => absurd h List.not_mem_nil

theorem addEntry_wellFormed {e : Entry} (hquotes : ∀ part ∈ e.text, Quotes (clean raw) part)
    (h : ParamsWellFormed raw names params) : ParamsWellFormed raw names (addEntry names params e).value := by
  rw [addEntry_value]
  split
  · next hname =>
    refine ⟨?_, Entries.nodup_put _ _ _ h.distinct, ?_⟩
    · intro name hmem
      rw [Entries.keys_put] at hmem
      split at hmem
      · exact h.known name hmem
      · rcases List.mem_append.1 hmem with hmem | hmem
        · exact h.known name hmem
        · rw [List.mem_singleton.1 hmem]
          exact List.contains_iff_mem.1 hname
    · intro p hp text htext
      rcases Entries.eq_or_mem_of_mem_put hp with rfl | hp
      · -- the text that was there, or else that of the entry
        rcases Option.or_eq_some_iff.1 htext with hold | ⟨-, hnew⟩
        · cases hlookup : params.lookup (String.ofList e.name) with
          | none =>
            rw [hlookup] at hold
            cases hold
          | some p =>
            rw [hlookup] at hold
            exact h.described _ (Entries.mem_of_lookup hlookup) text hold
        · obtain ⟨joined, hjoined, rfl⟩ := Option.map_eq_some_iff.1 hnew
          rw [String.toList_ofList]
          exact isPhrase_of_joinWords hquotes hjoined
      · exact h.described p hp text htext
  · exact h

theorem addEntries_wellFormed {entries : List Entry}
    (hquotes : ∀ e ∈ entries, ∀ part ∈ e.text, Quotes (clean raw) part) (h : ParamsWellFormed raw names params) :
    ParamsWellFormed raw names (addEntries names params entries).value := by
  induction entries generalizing params with
  | nil => exact h
  | cons e rest ih =>
    rw [List.forall_mem_cons] at hquotes
    rw [addEntries, Traced.bind_value]
    exact ih hquotes.2 (addEntry_wellFormed hquotes.1 h)

/-! ## Models -/

/-- what every model of a text keeps to -/
structure Model.WellFormed (raw : List Char) (names : List String) (m : Model) : Prop where
  params : ParamsWellFormed raw names m.params
  returned : ∀ text, m.returns = some text → IsPhrase raw text.toList
  summary : m.summary.toList = trim (firstLine m.description.toList)
  empty : m.summary = "" ↔ m.description = ""

/-- where there is a summary, there is text in it, and in the description -/
theorem Model.WellFormed.allBlank_eq_false {m : Model} (h : m.WellFormed raw names) (hsummary : m.summary ≠ "") :
    allBlank m.summary.toList = false ∧ allBlank m.description.toList = false := by
  have hfilled : trim (firstLine m.description.toList) ≠ [] := by
    rw [← h.summary]
    simpa using hsummary
  have hline : allBlank (firstLine m.description.toList) = false := by
    rw [← Bool.not_eq_true]
    intro hblank
    exact hfilled (trim_of_allBlank hblank)
  constructor
  · rw [h.summary, allBlank_trim]
    exact hline
  · rw [← Bool.not_eq_true]
    intro hblank
    rw [allBlank_firstLine hblank] at hline
    cases hline

/-- the summary and the description of one list of lines -/
theorem summary_and_prose {ls : List Line} (h : ∀ l ∈ ls, '\n' ∉ l) :
    (String.ofList (summary ls)).toList = trim (firstLine (String.ofList (prose ls)).toList) ∧
      (String.ofList (summary ls) = "" ↔ String.ofList (prose ls) = "") := by
  have hempty : ∀ {cs : List Char}, String.ofList cs = "" ↔ cs = [] := by
    intro cs
    rw [← String.toList_inj, String.toList_ofList, String.toList_empty]
  rw [String.toList_ofList, String.toList_ofList, hempty, hempty]
  exact ⟨summary_eq_trim_firstLine h, summary_eq_nil_iff h⟩

theorem plain_wellFormed (raw : List Char) (names : List String) : (plain (clean raw)).WellFormed raw names where
  params := paramsWellFormed_nil raw names
  returned := fun _ h => by cases h
  summary := (summary_and_prose fun _ hl => (isFlat_of_mem_clean hl).1).1
  empty := (summary_and_prose fun _ hl => (isFlat_of_mem_clean hl).1).2

theorem parse?_wellFormed {style : Style} {m : Model} (h : (style.parse? (clean raw) names).value = some m) :
    m.WellFormed raw names := by
  have hquotes := quotes_findings style (clean raw)
  have hflat : ∀ l ∈ (style.findings (clean raw)).prose, IsFlat l := fun _ hl => isFlat_of_mem_prose hl
  rw [(toModel?_eq_some_iff.1 h).2, summary_clean_prose hflat]
  refine ⟨addEntries_wellFormed hquotes.entries (paramsWellFormed_nil raw names), ?_, ?_, ?_⟩
  · intro text htext
    obtain ⟨joined, hjoined, rfl⟩ := Option.map_eq_some_iff.1 htext
    obtain ⟨parts, hparts, hjoined⟩ := Option.bind_eq_some_iff.1 hjoined
    rw [String.toList_ofList]
    exact isPhrase_of_joinWords (hquotes.returns parts hparts) hjoined
  · exact (summary_and_prose fun l hl => (hflat l hl).1).1
  · exact (summary_and_prose fun l hl => (hflat l hl).1).2

/-- **Every extracted model is well formed.** Whatever the text and the names: each parameter is one of the names and
listed once; each text about a parameter or the return value is a phrase of words from the text; the summary is the
first line of the description, and both are empty or none is. -/
theorem extract_wellFormed (raw : String) (names : List String) :
    (extract raw names).value.WellFormed raw.toList names := by
  rcases extract_cases raw names with ⟨style, hparse, -⟩ | hplain
  · exact parse?_wellFormed hparse
  · rw [hplain]
    exact plain_wellFormed raw.toList names

end ToolSchema.Docstring
