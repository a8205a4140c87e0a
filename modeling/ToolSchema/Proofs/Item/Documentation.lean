/-
The documentation of an item as one text.

Documentation is written line by line, mostly with a space in front of each line, and `docstring?` takes that space away.
Where every line with text has one, this moves them all alike. Cleaning does not see how far all lines stand to the
right, so it does not see this either.
- `docLines_eq_map`: for each written line there is one documentation line, empty just if the written one is blank.
- `clean_docLines`: both have the same clean lines.
- `extract_docstring?`: so documentation says the same whether it is read through its item or as it is written.
-/
import ToolSchema.Docstring.Extract
import ToolSchema.Item.Constructor
import ToolSchema.Proofs.Docstring.Indentation

namespace ToolSchema.Item

open Text Docstring

variable {docs : List (Option String)} {l : Line}

/-! ## Written documentation -/

/-- the documentation strings as they are, with line feeds between them -/
def written (docs : List (Option String)) : String :=
  "\n".intercalate (docs.filterMap id)

/-- the lines of all documentation strings as they are -/
def writtenLines (docs : List (Option String)) : List Line :=
  (docs.filterMap id).flatMap fun s => splitOn (· == '\n') s.toList

theorem splitOn_written (h : docs.filterMap id ≠ []) :
    splitOn (· == '\n') (written docs).toList = writtenLines docs := by
  have hfeed : "\n".toList = ['\n'] := rfl
  have hne : (docs.filterMap id).map String.toList ≠ [] := by simpa using h
  rw [written, String.toList_intercalate, hfeed, splitOn_intercalate_texts hne, List.flatMap_map, writtenLines]

theorem not_mem_of_mem_writtenLines (h : l ∈ writtenLines docs) : '\n' ∉ l := by
  obtain ⟨s, -, hpiece⟩ := List.mem_flatMap.1 h
  intro hfeed
  cases separator_of_mem_splitOn hpiece hfeed

/-- documentation is blank as it is written if its lines are -/
theorem allBlank_written (docs : List (Option String)) :
    allBlank (written docs).toList = true ↔ ∀ l ∈ writtenLines docs, allBlank l = true := by
  by_cases hnone : docs.filterMap id = []
  · rw [written, writtenLines, hnone]
    decide
  · have hfeed : ∀ c, (c == '\n') = true → isBlank c = true := by
      intro c hc
      rw [beq_iff_eq.1 hc]
      decide
    rw [allBlank_iff_splitOn hfeed, splitOn_written hnone]

/-! ## Documentation lines -/

theorem docLine_of_head? (h : l.head? ≠ some ' ') : docLine l = trimEnd l := by
  rw [docLine]
  rintro rest rfl
  exact h rfl

theorem docLine_isInfix (l : Line) : docLine l <:+: l := by
  by_cases h : l.head? = some ' '
  · obtain ⟨rest, rfl⟩ := List.head?_eq_some_iff.1 h
    exact (trimEnd_isPrefix rest).isInfix.trans (List.suffix_cons ' ' rest).isInfix
  · rw [docLine_of_head? h]
    exact (trimEnd_isPrefix l).isInfix

theorem isEmpty_docLine (l : Line) : (docLine l).isEmpty = allBlank l := by
  by_cases h : l.head? = some ' '
  · obtain ⟨rest, rfl⟩ := List.head?_eq_some_iff.1 h
    exact isEmpty_trimEnd rest
  · rw [docLine_of_head? h, isEmpty_trimEnd]

theorem docLines_eq_map (docs : List (Option String)) : docLines docs = (writtenLines docs).map docLine :=
  List.map_flatMap.symm

theorem all_isEmpty_docLines (docs : List (Option String)) :
    (docLines docs).all (·.isEmpty) = true ↔ ∀ l ∈ writtenLines docs, allBlank l = true := by
  rw [docLines_eq_map, List.all_map, List.all_eq_true]
  simp only [Function.comp_apply, isEmpty_docLine]

theorem docstring?_eq_none_iff (docs : List (Option String)) :
    docstring? docs = none ↔ ∀ l ∈ writtenLines docs, allBlank l = true := by
  rw [← all_isEmpty_docLines, docstring?]
  cases (docLines docs).all (·.isEmpty) <;> simp

/-! ## The space in front -/

/-- a line as it is, but with a space in front also if it is blank -/
def spaced (l : Line) : Line :=
  if allBlank l then [' '] else l

theorem shifted_spaced (l : Line) : Shifted 0 l (spaced l) := by
  rw [spaced]
  split
  · next hblank => exact .of_allBlank hblank (by decide)
  · exact .refl l

/-- A documentation line lacks the space in front, and blanks at its end. -/
theorem shifted_docLine (h : allBlank l = false → l.head? = some ' ') : Shifted 1 (docLine l) (spaced l) := by
  rw [spaced]
  split
  · next hblank =>
    rw [List.isEmpty_iff.1 ((isEmpty_docLine l).trans hblank)]
    exact .spaces_append 1 []
  · next hfilled =>
    obtain ⟨rest, rfl⟩ := List.head?_eq_some_iff.1 (h (Bool.eq_false_iff.2 hfilled))
    obtain ⟨trail, htrail, hrest⟩ := exists_trimEnd rest
    refine ⟨trimEnd rest, [], trail, rfl, htrail, (List.append_nil _).symm, ?_⟩
    exact congrArg (' ' :: ·) hrest

/-- **Cleaning does not see the space in front of documentation lines.** -/
theorem clean_docLines (h : ∀ l ∈ writtenLines docs, allBlank l = false → l.head? = some ' ') :
    clean (joinLines (docLines docs)) = clean (written docs).toList := by
  by_cases hnone : docs.filterMap id = []
  · rw [docLines, written, hnone]
    rfl
  · -- blank lines may lack the space, so both sides are compared with lines that all have it
    have hpieces : splitOn (· == '\n') (joinLines (docLines docs)) = docLines docs := by
      refine splitOn_intercalate ?_ ?_
      · rw [docLines_eq_map, ne_eq, List.map_eq_nil_iff, ← splitOn_written hnone]
        exact splitOn_ne_nil _ _
      · rw [docLines_eq_map, List.forall_mem_map]
        exact fun l hl hmem => not_mem_of_mem_writtenLines hl ((docLine_isInfix l).subset hmem)
    have hblanks : List.Forall₂ (Shifted 0) (writtenLines docs) ((writtenLines docs).map spaced) := by
      rw [List.forall₂_map_right_iff, List.forall₂_same]
      exact fun l _ => shifted_spaced l
    have hspaces : List.Forall₂ (Shifted 1) (docLines docs) ((writtenLines docs).map spaced) := by
      rw [docLines_eq_map, List.forall₂_map_right_iff, List.forall₂_map_left_iff, List.forall₂_same]
      exact fun l hl => shifted_docLine (h l hl)
    rw [clean_eq_pieces, clean_eq_pieces, hpieces, splitOn_written hnone, ← dedentAll_expandTabs_shifted hspaces,
      dedentAll_expandTabs_shifted hblanks]

/-- blank documentation has no clean lines, and no documentation at all has none either -/
theorem clean_docstring? (h : ∀ l ∈ writtenLines docs, allBlank l = false → l.head? = some ' ') :
    clean ((docstring? docs).getD "").toList = clean (written docs).toList := by
  by_cases hblank : ∀ l ∈ writtenLines docs, allBlank l = true
  · rw [(docstring?_eq_none_iff docs).2 hblank, (clean_eq_nil_iff _).2 ((allBlank_written docs).2 hblank)]
    rfl
  · rw [← all_isEmpty_docLines] at hblank
    rw [← clean_docLines h, docstring?, if_neg hblank, Option.getD_some, String.toList_ofList]

/-! ## Extraction -/

/-- **Documentation says the same through its item.** Take any attributes of an item, of which some are documentation
strings, and let every line with text in these begin with a space. Then all that is extracted from the documentation of
the item, or from the empty text where it has none, is extracted from the strings with line feeds between them, for any
parameter names. The item has no documentation if and only if all lines of the strings are blank. -/
theorem extract_docstring? (docs : List (Option String))
    (h : ∀ l ∈ writtenLines docs, allBlank l = false → l.head? = some ' ') :
    (∀ names, extract ((docstring? docs).getD "") names = extract (written docs) names) ∧
    (docstring? docs = none ↔ ∀ l ∈ writtenLines docs, allBlank l = true) := by
  refine ⟨fun names => ?_, docstring?_eq_none_iff docs⟩
  rw [extract, extract, clean_docstring? h]

/-- a header on the first line, its body in strings with another attribute between them, and blanks of several kinds at
the ends of lines -/
def cityDocs : List (Option String) :=
  [some " Args:\r", some "     city: The city,\n\t\n         in full. ", none, some "     unit: The unit."]

/-- The blank line has a tab in it and no space in front. -/
theorem extract_cityDocs :
    (∀ l ∈ writtenLines cityDocs, allBlank l = false → l.head? = some ' ') ∧
    docstring? cityDocs = some "Args:\n    city: The city,\n\n        in full.\n    unit: The unit." ∧
    (extract ((docstring? cityDocs).getD "") ["city", "unit"]).value =
      ⟨"", "", [("city", ⟨none, some "The city, in full."⟩), ("unit", ⟨none, some "The unit."⟩)], none,
        some .headed⟩ := by
  have hspace : ∀ l ∈ writtenLines cityDocs, allBlank l = false → l.head? = some ' ' := by decide +kernel
  refine ⟨hspace, by decide +kernel, ?_⟩
  rw [(extract_docstring? cityDocs hspace).1]
  decide +kernel

/-- Where only some of the lines begin with a space, a body may lose its place under its header. -/
example :
    (extract ((docstring? [some "Args:", some " a: First."]).getD "") ["a"]).value.isDocumented "a" = false ∧
    (extract (written [some "Args:", some " a: First."]) ["a"]).value.isDocumented "a" = true := by decide +kernel

end ToolSchema.Item
