/-
Documentation as it is written in one of four layouts.

A written text has a summary, an empty line, the heading of the layout and one item for each parameter. `isPlain` is
what a summary or a text may be so that no layout takes it for one of its marks. Cleaning a written text trims the
summary and the texts and leaves the layout alone (`clean_write`), so that what a layout reads is again a written text.
-/
import ToolSchema.Docstring.Model
import ToolSchema.Proofs.Docstring.Clean

namespace ToolSchema.Docstring

open Text

/-! ## Layouts -/

inductive Layout where
  /-- `:param name: text` -/
  | tagged
  /-- `name: text` below `Args:` -/
  | headed
  /-- `name : str` below an underlined title, and the text below the name -/
  | underlined
  /-- a table between pipes -/
  | piped

namespace Layout

/-- the layout as extraction reports it -/
def style : Layout → Style
  | .tagged => .tag
  | .headed => .headed
  | .underlined => .table
  | .piped => .table

/-- the type that the layout writes, the same for all parameters -/
def typeName : Layout → Option String
  | .tagged => none
  | .headed => none
  | .underlined => some "str"
  | .piped => some "str"

def heading : Layout → List Line
  | .tagged => []
  | .headed => ["Args:".toList]
  | .underlined => ["Parameters".toList, "----------".toList]
  | .piped => ["| Name | Type | Description |".toList, "|---|---|---|".toList]

/-- the first line of an item -/
def itemLine (name text : Line) : Layout → Line
  | .tagged => ":param ".toList ++ name ++ ": ".toList ++ text
  | .headed => "    ".toList ++ name ++ ": ".toList ++ text
  | .underlined => name ++ " : str".toList
  | .piped => "| ".toList ++ name ++ " | str | ".toList ++ text ++ " |".toList

theorem itemLine_tagged (name text : Line) :
    itemLine name text .tagged = ':' :: (['p', 'a', 'r', 'a', 'm'] ++ ' ' :: name ++ ':' :: ' ' :: text) := by
  have h : itemLine name text .tagged = ":param ".toList ++ name ++ ": ".toList ++ text := rfl
  rw [h]
  simp

theorem itemLine_headed (name text : Line) :
    itemLine name text .headed = [' ', ' ', ' ', ' '] ++ (name ++ ':' :: ' ' :: text) := by
  have h : itemLine name text .headed = "    ".toList ++ name ++ ": ".toList ++ text := rfl
  rw [h]
  simp

theorem itemLine_underlined (name text : Line) :
    itemLine name text .underlined = name ++ [' ', ':', ' '] ++ ['s', 't', 'r'] := by
  have h : itemLine name text .underlined = name ++ " : str".toList := rfl
  rw [h]
  simp

theorem itemLine_piped (name text : Line) :
    itemLine name text .piped =
      '|' :: (' ' :: name ++ [' '] ++ '|' :: ([' ', 's', 't', 'r', ' '] ++ '|' :: (' ' :: text ++ [' '])) ++ ['|']) := by
  have h : itemLine name text .piped = "| ".toList ++ name ++ " | str | ".toList ++ text ++ " |".toList := rfl
  rw [h]
  simp

/-- the lines that follow it -/
def moreLines (text : Line) : Layout → List Line
  | .underlined => ["    ".toList ++ text]
  | _ => []

theorem moreLines_underlined (text : Line) : moreLines text .underlined = [[' ', ' ', ' ', ' '] ++ text] := by
  have h : moreLines text .underlined = ["    ".toList ++ text] := rfl
  rw [h]
  simp

def items (layout : Layout) (params : List (Line × Line)) : List Line :=
  params.flatMap fun p => layout.itemLine p.1 p.2 :: layout.moreLines p.2

section

variable {α β : Type} {P : Line × Line → Prop} {written : ∀ p, P p → α} {params : List (Line × Line)}

theorem map_pmap_eq_map {f : α → β} {g : Line × Line → β} (hall : ∀ p ∈ params, P p)
    (h : ∀ p hp, f (written p hp) = g p) : (params.pmap written hall).map f = params.map g := by
  rw [List.map_pmap]
  exact (List.pmap_congr_left params fun p _ hp _ => h p hp).trans (List.pmap_eq_map hall)

/-- items that are each written as the lines of something are the lines of all of these -/
theorem items_eq_flatMap_pmap {layout : Layout} {lines : α → List Line} (hall : ∀ p ∈ params, P p)
    (h : ∀ p hp, lines (written p hp) = layout.itemLine p.1 p.2 :: layout.moreLines p.2) :
    layout.items params = (params.pmap written hall).flatMap lines := by
  rw [items, List.flatMap_def, List.flatMap_def, map_pmap_eq_map hall h]

end

def lines (layout : Layout) (summary : Line) (params : List (Line × Line)) : List Line :=
  summary :: [] :: (layout.heading ++ layout.items params)

/-- the written text -/
def write (layout : Layout) (summary : Line) (params : List (Line × Line)) : String :=
  String.ofList (unlines (layout.lines summary params))

end Layout

/-! ## Plain text -/

/-- A line that no layout takes for one of its marks: there is something on it, but no colon, pipe, tab or line feed, and
not only dashes. -/
def isPlain (text : Line) : Bool :=
  !allBlank text && !text.any ([':', '|', '\t', '\n'].contains ·) && !(trim text).all (· == '-')

variable {text name : Line} {c : Char}

theorem allBlank_of_isPlain (h : isPlain text = true) : allBlank text = false := by
  simp only [isPlain, Bool.and_eq_true, Bool.not_eq_true'] at h
  exact h.1.1

theorem not_mem_of_isPlain (h : isPlain text = true) (hc : c ∈ [':', '|', '\t', '\n']) : c ∉ text := by
  simp only [isPlain, Bool.and_eq_true, Bool.not_eq_true', List.any_eq_false] at h
  intro hmem
  exact h.1.2 c hmem (List.contains_iff_mem.2 hc)

theorem not_dashes_of_isPlain (h : isPlain text = true) : (trim text).all (· == '-') = false := by
  simp only [isPlain, Bool.and_eq_true, Bool.not_eq_true'] at h
  exact h.2

/-- plain text stays plain when blanks are taken away around it -/
theorem isPlain_of_subset {rest : Line} (h : isPlain text = true) (hsubset : rest ⊆ text)
    (hblank : allBlank rest = allBlank text) (htrim : trim rest = trim text) : isPlain rest = true := by
  simp only [isPlain, hblank, htrim, Bool.and_eq_true, Bool.not_eq_true', List.any_eq_false] at h ⊢
  exact ⟨⟨h.1.1, fun c hc => h.1.2 c (hsubset hc)⟩, h.2⟩

theorem isPlain_trimEnd (h : isPlain text = true) : isPlain (trimEnd text) = true := by
  have hsubset : trimEnd text ⊆ text := by
    obtain ⟨trail, -, htext⟩ := exists_trimEnd text
    intro c hc
    rw [htext]
    exact List.mem_append_left trail hc
  exact isPlain_of_subset h hsubset (allBlank_trimEnd text) (trim_trimEnd text)

theorem isPlain_trim (h : isPlain text = true) : isPlain (trim text) = true :=
  isPlain_of_subset h (fun _ => mem_of_mem_trim) (allBlank_trim text) (trim_trim text)

theorem indent_of_isIdentifier (h : isIdentifier name = true) (rest : Line) : indent (name ++ rest) = 0 := by
  obtain ⟨d, ds, rfl⟩ := exists_cons_of_isIdentifier h
  have hd : d ≠ ' ' := ne_of_continuesIdentifier (continuesIdentifier_of_mem h List.mem_cons_self) (by decide)
  rw [indent_eq_zero_iff]
  simpa using hd

/-! ## Lines without a mark -/

/-- no tag, no row and no underline -/
structure Unmarked (line : Line) : Prop where
  colon : (trim line).head? ≠ some ':'
  pipe : (trim line).head? ≠ some '|'
  dashes : (trim line).all (· == '-') = false

theorem unmarked_of_isPlain (h : isPlain text = true) : Unmarked text := by
  have hhead : ∀ c ∈ [':', '|', '\t', '\n'], (trim text).head? ≠ some c := fun c hc hhead =>
    not_mem_of_isPlain h hc (mem_of_mem_trim (List.mem_of_head? hhead))
  exact ⟨hhead ':' (by decide), hhead '|' (by decide), not_dashes_of_isPlain h⟩

theorem unmarked_of_isIdentifier (h : isIdentifier name = true) (rest : Line) : Unmarked (name ++ rest) := by
  obtain ⟨d, ds, rfl⟩ := exists_cons_of_isIdentifier h
  have hd : continuesIdentifier d = true := continuesIdentifier_of_mem h List.mem_cons_self
  have htrim : trim (d :: ds ++ rest) = d :: trimEnd (ds ++ rest) := trim_cons (isBlank_of_continuesIdentifier hd)
  have hne : ∀ c, continuesIdentifier c = false → d ≠ c := fun c hc => ne_of_continuesIdentifier hd hc
  have hhead : (trim (d :: ds ++ rest)).head? = some d := by
    rw [htrim]
    rfl
  refine ⟨fun h => ?_, fun h => ?_, ?_⟩
  · exact hne ':' (by decide) (Option.some.inj (hhead.symm.trans h))
  · exact hne '|' (by decide) (Option.some.inj (hhead.symm.trans h))
  · have hdash : (d == '-') = false := beq_eq_false_iff_ne.2 (hne '-' (by decide))
    rw [htrim, List.all_cons, hdash, Bool.false_and]

/-- indentation hides no mark and makes none -/
theorem Unmarked.indented {line lead : Line} (h : Unmarked line) (hlead : allBlank lead = true) :
    Unmarked (lead ++ line) := by
  have htrim : trim (lead ++ line) = trim line := trim_append_of_allBlank hlead
  exact ⟨htrim ▸ h.colon, htrim ▸ h.pipe, htrim ▸ h.dashes⟩

namespace Layout

/-- parameters that can be written in any layout -/
def Fits (params : List (Line × Line)) : Prop :=
  ∀ p ∈ params, isIdentifier p.1 = true ∧ isPlain p.2 = true

instance (params : List (Line × Line)) : Decidable (Fits params) :=
  inferInstanceAs (Decidable (∀ p ∈ params, isIdentifier p.1 = true ∧ isPlain p.2 = true))

theorem unmarked_of_mem_items {layout : Layout} {params : List (Line × Line)} (hfits : Fits params)
    (hlayout : layout = .headed ∨ layout = .underlined) : ∀ l ∈ layout.items params, Unmarked l := by
  intro l hl
  obtain ⟨p, hp, hl⟩ := List.mem_flatMap.1 hl
  obtain ⟨hname, htext⟩ := hfits p hp
  rcases hlayout with rfl | rfl
  · rw [List.mem_singleton.1 hl, itemLine_headed]
    exact (unmarked_of_isIdentifier hname _).indented (by decide)
  · rw [moreLines_underlined, itemLine_underlined, List.append_assoc] at hl
    rcases List.mem_cons.1 hl with rfl | hl
    · exact unmarked_of_isIdentifier hname _
    · rw [List.mem_singleton.1 hl]
      exact (unmarked_of_isPlain htext).indented (by decide)

/-! ## Cleaning -/

/-- what cleaning leaves of a text -/
def kept (text : Line) : Layout → Line
  | .piped => text
  | _ => trimEnd text

variable {layout : Layout} {params : List (Line × Line)}

theorem isPlain_kept (h : isPlain text = true) : isPlain (layout.kept text) = true := by
  cases layout with
  | piped => exact h
  | _ => exact isPlain_trimEnd h

theorem words_kept (text : Line) : words (layout.kept text) = words text := by
  cases layout with
  | piped => rfl
  | _ =>
    obtain ⟨trail, htrail, htext⟩ := exists_trimEnd text
    have hwords : words (trimEnd text ++ trail) = words (trimEnd text) := words_append_of_allBlank htrail
    rw [← htext] at hwords
    exact hwords.symm

theorem trimEnd_itemLine (htext : isPlain text = true) :
    trimEnd (layout.itemLine name text) = layout.itemLine name (layout.kept text) := by
  have hblank := allBlank_of_isPlain htext
  cases layout with
  | tagged | headed => exact trimEnd_append hblank
  | underlined => exact trimEnd_append (by decide)
  | piped => exact trimEnd_append (by decide)

theorem map_trimEnd_moreLines (htext : isPlain text = true) :
    (layout.moreLines text).map trimEnd = layout.moreLines (layout.kept text) := by
  cases layout with
  | underlined =>
    rw [moreLines, List.map_singleton, trimEnd_append (allBlank_of_isPlain htext)]
    rfl
  | _ => rfl

theorem map_trimEnd_items (hfits : Fits params) :
    (layout.items params).map trimEnd = layout.items (params.map fun p => (p.1, layout.kept p.2)) := by
  induction params with
  | nil => rfl
  | cons p rest ih =>
    rw [Fits, List.forall_mem_cons] at hfits
    simp only [items, List.flatMap_cons, List.map_cons, List.map_append] at ih ⊢
    rw [ih hfits.2, trimEnd_itemLine hfits.1.2, map_trimEnd_moreLines hfits.1.2]

theorem map_trimEnd_heading (layout : Layout) : layout.heading.map trimEnd = layout.heading := by
  cases layout <;> decide

theorem not_mem_mark {mark : String} (hc : c ∈ ['\t', '\n'])
    (hmark : '\t' ∉ mark.toList ∧ '\n' ∉ mark.toList) : c ∉ mark.toList := by
  simp only [List.mem_cons, List.not_mem_nil, or_false] at hc
  rcases hc with rfl | rfl
  · exact hmark.1
  · exact hmark.2

/-- the layouts themselves write no tabs, and no line feeds inside a line -/
theorem not_mem_item (hc : c ∈ ['\t', '\n']) (hname : c ∉ name) (htext : c ∉ text) :
    ∀ l ∈ layout.itemLine name text :: layout.moreLines text, c ∉ l := by
  have hspaces : c ∉ "    ".toList := not_mem_mark hc (by decide)
  have hcolon : c ∉ ": ".toList := not_mem_mark hc (by decide)
  rw [List.forall_mem_cons]
  cases layout with
  | tagged =>
    have hparam : c ∉ ":param ".toList := not_mem_mark hc (by decide)
    exact ⟨List.not_mem_append (List.not_mem_append (List.not_mem_append hparam hname) hcolon) htext, nofun⟩
  | headed =>
    exact ⟨List.not_mem_append (List.not_mem_append (List.not_mem_append hspaces hname) hcolon) htext, nofun⟩
  | underlined =>
    have htype : c ∉ " : str".toList := not_mem_mark hc (by decide)
    refine ⟨List.not_mem_append hname htype, fun l hl => ?_⟩
    rw [List.mem_singleton.1 hl]
    exact List.not_mem_append hspaces htext
  | piped =>
    have hopen : c ∉ "| ".toList := not_mem_mark hc (by decide)
    have hbetween : c ∉ " | str | ".toList := not_mem_mark hc (by decide)
    have hclose : c ∉ " |".toList := not_mem_mark hc (by decide)
    exact ⟨List.not_mem_append (List.not_mem_append (List.not_mem_append (List.not_mem_append hopen hname) hbetween)
      htext) hclose, nofun⟩

theorem not_mem_of_mem_items (hfits : Fits params) (hc : c ∈ ['\t', '\n']) : ∀ l ∈ layout.items params, c ∉ l := by
  intro l hl
  obtain ⟨p, hp, hl⟩ := List.mem_flatMap.1 hl
  obtain ⟨hidentifier, hplain⟩ := hfits p hp
  have hname : continuesIdentifier c = false := by
    simp only [List.mem_cons, List.not_mem_nil, or_false] at hc
    rcases hc with rfl | rfl <;> decide
  have htext : c ∉ p.2 := not_mem_of_isPlain hplain (List.mem_cons_of_mem _ (List.mem_cons_of_mem _ hc))
  exact not_mem_item hc (not_mem_of_isIdentifier hidentifier hname) htext l hl

/-- the written text ends in a line with something on it -/
theorem exists_last (layout : Layout) (hne : params ≠ []) (hfits : Fits params) :
    ∃ before last, layout.heading ++ layout.items params = before ++ [last] ∧ allBlank last = false := by
  obtain ⟨init, p, rfl⟩ : ∃ init p, params = init ++ [p] :=
    ⟨params.dropLast, params.getLast hne, (List.dropLast_concat_getLast hne).symm⟩
  obtain ⟨hidentifier, hplain⟩ := hfits p (List.mem_append_right init List.mem_cons_self)
  have hitems : layout.items (init ++ [p]) = layout.items init ++ (layout.itemLine p.1 p.2 :: layout.moreLines p.2) := by
    simp only [items, List.flatMap_append, List.flatMap_singleton]
  have htext : allBlank p.2 = false := allBlank_of_isPlain hplain
  rw [hitems, ← List.append_assoc]
  cases layout with
  | tagged => exact ⟨_, itemLine p.1 p.2 .tagged, rfl, allBlank_append_right htext⟩
  | headed => exact ⟨_, itemLine p.1 p.2 .headed, rfl, allBlank_append_right htext⟩
  | underlined =>
    refine ⟨underlined.heading ++ underlined.items init ++ [itemLine p.1 p.2 .underlined], "    ".toList ++ p.2, ?_,
      allBlank_append_right htext⟩
    rw [List.append_assoc _ [_] [_]]
    rfl
  | piped => exact ⟨_, itemLine p.1 p.2 .piped, rfl, allBlank_append_right (by decide)⟩

/-- some line after the first is not indented -/
theorem exists_margin (layout : Layout) (hne : params ≠ []) :
    ∃ l ∈ layout.heading ++ layout.items params, allBlank l = false ∧ indent l = 0 := by
  cases layout with
  | tagged =>
    obtain ⟨p, rest, rfl⟩ := List.exists_cons_of_ne_nil hne
    exact ⟨itemLine p.1 p.2 .tagged, by simp [items, heading], rfl, rfl⟩
  | headed => exact ⟨"Args:".toList, by simp [heading], rfl, rfl⟩
  | underlined => exact ⟨"Parameters".toList, by simp [heading], rfl, rfl⟩
  | piped => exact ⟨"|---|---|---|".toList, by simp [heading], rfl, rfl⟩

theorem not_mem_of_mem_lines {summary : Line} (hsummary : isPlain summary = true) (hfits : Fits params)
    (hc : c ∈ ['\t', '\n']) : ∀ l ∈ layout.lines summary params, c ∉ l := by
  have hheading : ∀ l ∈ layout.heading, c ∉ l := by
    simp only [List.mem_cons, List.not_mem_nil, or_false] at hc
    rcases hc with rfl | rfl <;> cases layout <;> decide
  have hfirst : c ∉ summary := not_mem_of_isPlain hsummary (List.mem_cons_of_mem _ (List.mem_cons_of_mem _ hc))
  rw [lines, List.forall_mem_cons, List.forall_mem_cons, List.forall_mem_append]
  exact ⟨hfirst, List.not_mem_nil, hheading, not_mem_of_mem_items hfits hc⟩

/-- **Cleaning a written text** trims what was put into it. -/
theorem clean_write {summary : Line} (hsummary : isPlain summary = true) (hne : params ≠ []) (hfits : Fits params) :
    clean (layout.write summary params).toList =
      layout.lines (trim summary) (params.map fun p => (p.1, layout.kept p.2)) := by
  obtain ⟨before, last, hlast, hblank⟩ := exists_last layout hne hfits
  have hlines : layout.lines summary params = summary :: ([] :: before ++ [last]) := by
    rw [lines, hlast]
    rfl
  have hmargin : ∃ l ∈ [] :: before ++ [last], allBlank l = false ∧ indent l = 0 := by
    obtain ⟨l, hl, hmargin⟩ := exists_margin layout hne
    rw [hlast] at hl
    exact ⟨l, List.mem_cons_of_mem [] hl, hmargin⟩
  have hclean := clean_unlines (hlines ▸ not_mem_of_mem_lines hsummary hfits (by decide))
    (hlines ▸ not_mem_of_mem_lines hsummary hfits (by decide)) (not_mem_of_isPlain hsummary (by decide))
    (allBlank_of_isPlain hsummary) hblank hmargin
  have hkept : ([] :: before ++ [last]).map trimEnd =
      [] :: (layout.heading ++ layout.items (params.map fun p => (p.1, layout.kept p.2))) := by
    rw [List.cons_append, ← hlast, List.map_cons, List.map_append, map_trimEnd_heading, map_trimEnd_items hfits]
    rfl
  rw [write, String.toList_ofList, hlines, hclean, hkept]
  rfl

end Layout

end ToolSchema.Docstring
