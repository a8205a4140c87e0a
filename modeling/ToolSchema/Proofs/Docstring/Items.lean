/-
Items and the lines that continue them.

In a parameter section, indentation alone decides which lines begin an item. What the other lines say does not matter:
they may read like items, like headers, or be empty.
- `Item`: an item as it is written, with the lines that continue it.
- `entries_lines`: a section that was written item by item is read item by item.
- `params_sections`: lines without a parameter header add no entries.
- `parse?_items`: the parameters of a text with one parameter section are its items.
-/
import ToolSchema.Proofs.Docstring.Findings
import ToolSchema.Proofs.Docstring.Layout
import ToolSchema.Proofs.Docstring.Marker

namespace ToolSchema.Docstring.Headed

open Text

variable {level : Nat} {isFirst : Bool} {name text lead header : Line} {ls prose rest : List Line} {names : List String}

/-! ## Item lines -/

/-- what stands before the colon of an item, at any indentation -/
theorem splitOnce_item {head : Line} (hlead : allBlank lead = true) (hcolon : ':' ∉ head) (hne : head ≠ [])
    (htrim : trim head = head) : splitOnce ':' (trim (lead ++ (head ++ ':' :: text))) = some (head, trimEnd text) := by
  have hfilled : allBlank head = false := by
    rw [← Bool.not_eq_true]
    intro hblank
    exact hne (htrim ▸ trim_of_allBlank hblank)
  obtain ⟨d, ds, hcons, hd⟩ := exists_trim_eq_cons hfilled
  rw [htrim] at hcons
  subst hcons
  have hend : trimEnd (ds ++ ':' :: text) = ds ++ ':' :: trimEnd text := by
    rw [trimEnd_append (allBlank_cons_eq_false (by decide)), trimEnd_cons (by decide)]
  rw [trim_append_of_allBlank hlead, List.cons_append, trim_cons hd, hend, ← List.cons_append,
    splitOnce_append_cons hcolon]

theorem item?_untyped (hlead : allBlank lead = true) (hname : isIdentifier name = true) (text : Line) :
    item? (lead ++ (name ++ ':' :: text)) = some ⟨name, none, [trim text]⟩ := by
  obtain ⟨d, ds, hcons⟩ := exists_cons_of_isIdentifier hname
  have hcolon : ':' ∉ name := not_mem_of_isIdentifier hname (by decide)
  have hparen : '(' ∉ name := not_mem_of_isIdentifier hname (by decide)
  have htrim : trim name = name := trim_of_isIdentifier hname
  rw [item?, splitOnce_item hlead hcolon (by simp [hcons]) htrim]
  simp only [Option.bind_eq_bind, Option.bind_some, htrim, splitOnce_eq_none hparen, bareName_eq htrim hname, hname,
    trim_trimEnd, if_true]

/-- the type is what stands between the first opening parenthesis and the last closing one -/
theorem item?_typed {typeName : Line} (hlead : allBlank lead = true) (hname : isIdentifier name = true)
    (hcolon : ':' ∉ typeName) (hne : typeName ≠ []) (htype : trim typeName = typeName) (text : Line) :
    item? (lead ++ (name ++ ([' ', '('] ++ typeName ++ [')']) ++ ':' :: text)) =
      some ⟨name, some typeName, [trim text]⟩ := by
  obtain ⟨d, ds, hcons⟩ := exists_cons_of_isIdentifier hname
  have hparen : '(' ∉ name ++ [' '] := by
    have hname : '(' ∉ name := not_mem_of_isIdentifier hname (by decide)
    simp [hname]
  have hhead : ':' ∉ name ++ ([' ', '('] ++ typeName ++ [')']) := by
    have hname : ':' ∉ name := not_mem_of_isIdentifier hname (by decide)
    simp [hname, hcolon]
  have htrim : trim (name ++ ([' ', '('] ++ typeName ++ [')'])) = name ++ ([' ', '('] ++ typeName ++ [')']) := by
    have hclose : trimEnd [')'] = [')'] := by decide
    rw [trim_identifier_append hname (allBlank_append_right (by decide)), trimEnd_append (by decide), hclose]
  have hsplit : splitOnce '(' (name ++ ([' ', '('] ++ typeName ++ [')'])) = some (name ++ [' '], typeName ++ [')']) := by
    have hline : name ++ ([' ', '('] ++ typeName ++ [')']) = name ++ [' '] ++ '(' :: (typeName ++ [')']) := by simp
    rw [hline, splitOnce_append_cons hparen]
  have hbare : bareName (name ++ [' ']) = name :=
    bareName_eq ((trim_append_right (by decide)).trans (trim_of_isIdentifier hname)) hname
  rw [item?, splitOnce_item hlead hhead (by simp [hcons]) htrim]
  simp only [Option.bind_eq_bind, Option.bind_some, htrim, hsplit, List.getLast?_concat, if_true, List.dropLast_concat,
    htype, List.isEmpty_iff, hne, if_false, hbare, hname, trim_trimEnd]

/-! ## Items -/

/-- An item at some indentation: a name, perhaps a type in parentheses, and text behind a colon. Lines that are empty or
indented deeper continue it. -/
structure Item (level : Nat) where
  name : Line
  typeName : Option Line
  text : Line
  more : List Line
  identifier : isIdentifier name = true
  typed : ∀ t ∈ typeName, t ≠ [] ∧ trim t = t ∧ ':' ∉ t
  deeper : ∀ l ∈ more, isBody level l = true

namespace Item

/-- an item without a type -/
theorem typed_none : ∀ t ∈ (none : Option Line), t ≠ [] ∧ trim t = t ∧ ':' ∉ t := by
  rintro t ⟨⟩

/-- the name, and the type in parentheses behind it -/
def head (i : Item level) : Line :=
  match i.typeName with
  | none => i.name
  | some t => i.name ++ ([' ', '('] ++ t ++ [')'])

def line (i : Item level) : Line :=
  List.replicate level ' ' ++ (i.head ++ ':' :: i.text)

def lines (i : Item level) : List Line :=
  i.line :: i.more

/-- what the item says about its parameter: the type, and the words of its text and of the lines that continue it -/
def doc (i : Item level) : ParamDoc :=
  ⟨i.typeName.map String.ofList, (joinWords (i.text :: i.more)).map String.ofList⟩

theorem item?_line (i : Item level) : item? i.line = some ⟨i.name, i.typeName, [trim i.text]⟩ := by
  have hlead : allBlank (List.replicate level ' ') = true := by
    have hspace : isBlank ' ' = true := by decide
    simp [allBlank, hspace]
  have htyped := i.typed
  rw [line, head]
  cases htype : i.typeName with
  | none => exact item?_untyped hlead i.identifier i.text
  | some t =>
    obtain ⟨hne, htrim, hcolon⟩ := htyped t htype
    exact item?_typed hlead i.identifier hcolon hne htrim i.text

theorem indent_line (i : Item level) : indent i.line = level := by
  have hspaces : ∀ (n : Nat) (l : Line), indent (List.replicate n ' ' ++ l) = indent l + n := by
    intro n l
    induction n with
    | zero => rfl
    | succ n ih => rw [List.replicate_succ, List.cons_append, indent_cons_space, ih]; rfl
  have hhead : ∃ rest, i.head ++ ':' :: i.text = i.name ++ rest := by
    rw [head]
    cases i.typeName with
    | none => exact ⟨_, rfl⟩
    | some t => exact ⟨_, List.append_assoc ..⟩
  obtain ⟨rest, hrest⟩ := hhead
  rw [line, hspaces, hrest, indent_of_isIdentifier i.identifier, Nat.zero_add]

theorem isEmpty_line (i : Item level) : i.line.isEmpty = false := by
  simp [line]

/-- the lines that are read belong to the section, if items are deeper than its header -/
theorem isBody_of_mem_lines (hlevel : 0 < level) (i : Item level) : ∀ l ∈ i.lines, isBody 0 l = true := by
  rw [lines, List.forall_mem_cons]
  constructor
  · rw [isBody, indent_line, Bool.or_eq_true]
    exact .inr (decide_eq_true hlevel)
  · intro l hl
    have hdeeper := i.deeper l hl
    simp only [isBody, Bool.or_eq_true, decide_eq_true_eq] at hdeeper ⊢
    exact hdeeper.imp_right fun h => Nat.zero_lt_of_lt h

/-- the item as it is found -/
def entry (i : Item level) : Entry :=
  ⟨i.name, i.typeName, trim i.text :: i.more.filter (!·.isEmpty)⟩

theorem doc_entry (i : Item level) : i.entry.doc = i.doc := by
  have hwords : i.entry.text.flatMap words = (i.text :: i.more).flatMap words := by
    rw [entry, List.flatMap_cons, List.flatMap_cons, words_trim, flatMap_words_filter]
  have hjoin : joinWords i.entry.text = joinWords (i.text :: i.more) := by rw [joinWords, hwords, joinWords]
  rw [Entry.doc, ParamDoc.merge, hjoin]
  rfl

end Item

/-- **A section is read item by item.** The first item gives the indentation of all, and deeper lines stay with the item
before them. -/
theorem entries_lines (items : List (Item level)) : entries (items.flatMap Item.lines) = items.map Item.entry := by
  have hfilter : (items.flatMap Item.lines).filter (!·.isEmpty) =
      items.flatMap fun i => i.line :: i.more.filter (!·.isEmpty) := by
    rw [List.filter_flatMap]
    refine List.flatMap_congr fun i _ => ?_
    rw [Item.lines, List.filter_cons_of_pos (by simp [Item.isEmpty_line])]
  have hblocks : Docstring.blocks (fun l => if indent l ≤ level then item? l else none)
      (items.flatMap fun i => i.line :: i.more.filter (!·.isEmpty)) =
      items.map fun i => (⟨i.name, i.typeName, [trim i.text]⟩, i.more.filter (!·.isEmpty)) := by
    refine blocks_flatMap (fun i _ => ?_) fun i _ l hl => ?_
    · rw [if_pos (Nat.le_of_eq i.indent_line), i.item?_line]
    · obtain ⟨hmem, hfilled⟩ := List.mem_filter.1 hl
      have hdeeper := i.deeper l hmem
      rw [if_neg]
      simp only [isBody, Bool.or_eq_true, decide_eq_true_eq] at hdeeper
      simp only [Bool.not_eq_true'] at hfilled
      exact Nat.not_le_of_lt (hdeeper.resolve_left (by simp [hfilled]))
  rw [entries, hfilter]
  cases items with
  | nil => rfl
  | cons i rest =>
    rw [List.flatMap_cons, List.cons_append] at hblocks ⊢
    simp only [i.indent_line, hblocks]
    simp [Item.entry]

/-! ## Sections -/

/-- a header of a parameter section -/
def isParamHeader (line : Line) : Bool :=
  (Header.ofLine? line).any (·.1 == .params)

theorem exists_headerAt?_of_isParamHeader (h : isParamHeader header = true) :
    ∃ inline, ∀ isFirst, headerAt? isFirst header = some (.params, inline) := by
  obtain ⟨⟨kind, inline⟩, hread, hkind⟩ := (Option.any_eq_true _ _).1 h
  have hparams : kind = .params := eq_of_beq hkind
  subst hparams
  refine ⟨inline, fun isFirst => ?_⟩
  rw [headerAt?, hread, Option.filter_some, if_pos]
  cases isFirst <;> rfl

/-- **Without a parameter header there are no entries.** -/
theorem params_sections (h : ∀ l ∈ ls, isParamHeader l = false) :
    (sections isFirst ls).filter (·.header == .params) = [] := by
  rw [List.filter_eq_nil_iff]
  intro s hs hparams
  have hline : ∃ isFirst, ∃ line ∈ ls, headerAt? isFirst line = some (s.header, s.inline) := by
    rcases exists_header_of_mem_sections hs with ⟨line, hline, hread⟩ | ⟨line, hline, hread⟩
    · exact ⟨isFirst, line, List.mem_of_head? hline, hread⟩
    · exact ⟨false, line, List.mem_of_mem_tail hline, hread⟩
  obtain ⟨isFirst, line, hline, hread⟩ := hline
  have hheader : isParamHeader line = true := by
    rw [isParamHeader, (Option.filter_eq_some_iff.1 hread).1, Option.any_some]
    exact hparams
  rw [h line hline] at hheader
  cases hheader

/-- a section takes the lines under its header that are deeper or empty, up to the first that is not -/
theorem sections_cons {kind : Header} {inline : Line} {body : List Line}
    (hheader : headerAt? isFirst header = some (kind, inline)) (hbody : ∀ l ∈ body, isBody (indent header) l = true)
    (hend : ∀ l ∈ rest.head?, isBody (indent header) l = false) :
    sections isFirst (header :: (body ++ rest)) = ⟨kind, inline, body⟩ :: sections false rest := by
  have hstop : rest.takeWhile (isBody (indent header)) = [] ∧ rest.dropWhile (isBody (indent header)) = rest := by
    cases rest with
    | nil => exact ⟨rfl, rfl⟩
    | cons l rest =>
      have hl := hend l rfl
      rw [List.takeWhile_cons, List.dropWhile_cons, hl]
      exact ⟨rfl, rfl⟩
  rw [sections, hheader]
  simp only [List.takeWhile_append_of_pos hbody, List.dropWhile_append_of_pos hbody, hstop, List.append_nil]

/-! ## Texts -/

theorem entries_findings {items : List (Item level)} (hprose : Style.Unmarked .headed true prose)
    (hheader : isParamHeader header = true) (hmargin : indent header = 0) (hlevel : 0 < level)
    (hend : ∀ l ∈ rest.head?, l ≠ [] ∧ indent l = 0) (hrest : ∀ l ∈ rest, isParamHeader l = false) :
    (findings (prose ++ header :: (items.flatMap Item.lines ++ rest))).entries = items.map Item.entry := by
  obtain ⟨inline, hread⟩ := exists_headerAt?_of_isParamHeader hheader
  have hbody : ∀ l ∈ items.flatMap Item.lines, isBody (indent header) l = true := by
    intro l hl
    obtain ⟨i, -, hl⟩ := List.mem_flatMap.1 hl
    rw [hmargin]
    exact i.isBody_of_mem_lines hlevel l hl
  have hstop : ∀ l ∈ rest.head?, isBody (indent header) l = false := by
    intro l hl
    obtain ⟨hne, hindent⟩ := hend l hl
    simp [isBody, hne, hindent]
  have hsections := sections_cons (hread (true && prose.isEmpty)) hbody hstop
  simp only [findings, sections_prose_append hprose, hsections]
  rw [List.filter_cons_of_pos (by rfl), params_sections hrest, List.flatMap_singleton, entries_lines]

/-- **Items keep the lines that continue them.** Take prose without section headers, a parameter header at the margin,
items at one deeper indentation, and then nothing more or a line at the margin and other lines, none of them a parameter
header. The model has just these items as parameters, in their order, if their names are known and different: each with
its type, and with the words of its text and of all lines down to the next item, whatever those lines look like. -/
theorem parse?_items {items : List (Item level)} (hprose : Style.Unmarked .headed true prose)
    (hheader : isParamHeader header = true) (hmargin : indent header = 0) (hlevel : 0 < level) (hitems : items ≠ [])
    (hdistinct : (items.map Item.name).Nodup) (hknown : ∀ i ∈ items, String.ofList i.name ∈ names)
    (hend : ∀ l ∈ rest.head?, l ≠ [] ∧ indent l = 0) (hrest : ∀ l ∈ rest, isParamHeader l = false) :
    ∃ m, (Style.parse? .headed (prose ++ header :: (items.flatMap Item.lines ++ rest)) names).value = some m ∧
      m.params = items.map fun i => (String.ofList i.name, i.doc) := by
  have hentries := @entries_findings level header prose rest items hprose hheader hmargin hlevel hend hrest
  obtain ⟨m, hm, hparams⟩ := @exists_toModel?_params names
    (findings (prose ++ header :: (items.flatMap Item.lines ++ rest))) .headed (by simpa [hentries] using hitems)
    (by rw [hentries]; exact List.forall_mem_map.2 hknown) (by rw [hentries, List.map_map]; exact hdistinct)
  refine ⟨m, hm, ?_⟩
  rw [hparams, hentries, List.map_map]
  refine List.map_congr_left fun i _ => ?_
  rw [Function.comp_apply, i.doc_entry]
  rfl

/-- two items; what continues the first reads like an item and like headers -/
def nestedItems : List (Item 2) := [
  { name := "a".toList, typeName := some "(int) -> str".toList, text := " First".toList
    more := [[], "    b: inside,".toList, "    Returns: too,".toList, "   Args:".toList]
    identifier := by decide, typed := by decide +kernel, deeper := by decide +kernel },
  { name := "b".toList, typeName := none, text := [], more := []
    identifier := by decide, typed := Item.typed_none, deeper := List.forall_mem_nil _ }]

/-- All that is nested stays with `a`, and what is said at the margin stays out. -/
theorem parse?_nestedItems :
    Style.Unmarked .headed true ["Returns: a sum.".toList, []] ∧ isParamHeader "Args:".toList = true ∧
    indent "Args:".toList = 0 ∧ (∀ l ∈ ["Done.".toList, "  c: Third.".toList], isParamHeader l = false) ∧
    ∃ m, (Style.parse? .headed (["Returns: a sum.".toList, []] ++ "Args:".toList ::
        (nestedItems.flatMap Item.lines ++ ["Done.".toList, "  c: Third.".toList])) ["c", "b", "a"]).value = some m ∧
      m.params = [("a", ⟨some "(int) -> str", some "First b: inside, Returns: too, Args:"⟩), ("b", ⟨none, none⟩)] := by
  have hprose : Style.Unmarked .headed true ["Returns: a sum.".toList, []] := by decide +kernel
  have hheader : isParamHeader "Args:".toList = true := by decide +kernel
  have hmargin : indent "Args:".toList = 0 := by decide +kernel
  have hrest : ∀ l ∈ ["Done.".toList, "  c: Third.".toList], isParamHeader l = false := by decide +kernel
  obtain ⟨m, hm, hparams⟩ := @parse?_items 2 "Args:".toList _ _ ["c", "b", "a"] nestedItems hprose hheader hmargin
    (by decide) (List.cons_ne_nil _ _) (by decide +kernel) (by decide +kernel) (by decide +kernel) hrest
  exact ⟨hprose, hheader, hmargin, hrest, m, hm, hparams.trans (by decide +kernel)⟩

end ToolSchema.Docstring.Headed
