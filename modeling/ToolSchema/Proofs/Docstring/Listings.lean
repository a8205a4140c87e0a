/-
Listings under an underlined title.

A line at the margin lists one or more names and perhaps their type; all of them share the lines that follow.
- `Ordinary`: a line that no block begins with. Lines under a title are such lines.
- `findings_titled`: prose with a parameter title behind it has the lines under the title as its entries.
- `Group`: a listing as it is written, with the lines that follow it.
- `titledEntries_lines`: lines that were written group by group are read group by group.
- `parse?_groups`: the parameters of a text with one parameter title are the names of its groups.
-/
import ToolSchema.Proofs.Docstring.Findings
import ToolSchema.Proofs.Docstring.Layout
import ToolSchema.Proofs.Docstring.Marker

namespace ToolSchema.Docstring.Table

open Text

variable {isFirst : Bool} {title underline : Line} {ls prose : List Line}

/-! ## Lines without a mark -/

/-- a line that no block begins with, and that makes no title of the line before it -/
structure Ordinary (line : Line) : Prop where
  underline : isUnderline line = false
  columns : columns? line = none

theorem columns?_eq_none {line : Line} (h : isRow line = false) : columns? line = none := by
  rw [isRow, Option.isSome_eq_false_iff, Option.isNone_iff_eq_none] at h
  rw [columns?, h]
  rfl

theorem isRow_eq_false {line : Line} (h : Unmarked line) : isRow line = false := by
  rw [isRow, cells?, dropPrefix?_eq_none h.pipe]
  rfl

theorem isUnderline_eq_false {line : Line} (h : Unmarked line) : isUnderline line = false := by
  rw [isUnderline, h.dashes, Bool.and_false]

theorem ordinary_of_unmarked {line : Line} (h : Unmarked line) : Ordinary line :=
  ⟨isUnderline_eq_false h, columns?_eq_none (isRow_eq_false h)⟩

theorem ordinary_nil : Ordinary [] := ⟨rfl, rfl⟩

theorem title?_eq_none (h : ∀ l ∈ ls.tail, Ordinary l) : title? ls = none := by
  match ls with
  | [] => rfl
  | [line] => rfl
  | line :: next :: rest =>
    have hnext : isUnderline next = false := (h next List.mem_cons_self).underline
    rw [title?, hnext, if_pos (by simp)]

theorem unmarked_of_ordinary (h : ∀ l ∈ ls, Ordinary l) : Style.Unmarked .table isFirst ls := by
  intro i
  have hdrop : ∀ l ∈ ls.drop i, Ordinary l := fun l hl => h l (List.mem_of_mem_drop hl)
  have htitle : title? (ls.drop i) = none := title?_eq_none fun l hl => hdrop l (List.mem_of_mem_tail hl)
  have hcolumns : (ls.drop i).head?.bind columns? = none := by
    cases hhead : (ls.drop i).head? with
    | none => rfl
    | some line => exact (hdrop line (List.mem_of_head? hhead)).columns
  rw [Style.begins, startsBlock, htitle, hcolumns]
  rfl

theorem body_eq_self (h : Style.Unmarked .table isFirst ls) : body ls = ls := by
  have hwhole := @body_prose_append isFirst ls [] h nofun
  rwa [List.append_nil, body, List.append_nil] at hwhole

theorem afterBody_eq_nil (h : Style.Unmarked .table isFirst ls) : afterBody ls = [] := by
  induction ls generalizing isFirst with
  | nil => rfl
  | cons line rest ih =>
    obtain ⟨hfirst, hrest⟩ := Style.unmarked_cons_iff.1 h
    rw [Style.begins] at hfirst
    rw [afterBody, hfirst, if_neg Bool.false_ne_true, ih hrest]

/-! ## Titles -/

theorem exists_mem_paramTitles {text : Line} (h : Title.ofText text = .params) :
    ∃ name ∈ paramTitles, name.toList = lowerAscii text := by
  rw [Title.ofText] at h
  split at h
  · next hparams =>
    obtain ⟨name, hname, heq⟩ := List.any_eq_true.1 hparams
    exact ⟨name, hname, eq_of_beq heq⟩
  · split at h <;> cases h

/-- a parameter title is not made of dashes -/
theorem isUnderline_title (h : Title.ofText (trim title) = .params) : isUnderline title = false := by
  have htitles : ∀ name ∈ paramTitles, name.toList.all (· == '-') = false := by decide +kernel
  obtain ⟨name, hname, htext⟩ := exists_mem_paramTitles h
  have hother := htitles name hname
  rw [isUnderline, Bool.and_eq_false_iff]
  right
  rw [← Bool.not_eq_true]
  intro hdashes
  have hlower : (lowerAscii (trim title)).all (· == '-') = true := by
    rw [lowerAscii, List.all_map, List.all_eq_true]
    intro c hc
    have hdash : c = '-' := eq_of_beq (List.all_eq_true.1 hdashes c hc)
    rw [hdash]
    decide
  rw [htext, hlower] at hother
  cases hother

theorem title?_params (htitle : Title.ofText (trim title) = .params) (hunderline : isUnderline underline = true)
    (ls : List Line) : title? (title :: underline :: ls) = some .params := by
  have hfilled : (trim title).isEmpty = false := by
    rw [← Bool.not_eq_true, List.isEmpty_iff]
    intro hempty
    rw [hempty] at htitle
    revert htitle
    decide +kernel
  rw [title?, hfilled, hunderline, htitle]
  rfl

/-- **Lines under a parameter title are found.** None of the lines begins a block, so all of them belong to the title. -/
theorem findings_titled (hprose : Style.Unmarked .table isFirst prose) (htitle : Title.ofText (trim title) = .params)
    (hunderline : isUnderline underline = true) (hls : ∀ l ∈ ls, Ordinary l) :
    findings (prose ++ title :: underline :: ls) = ⟨prose, titledEntries (indent title) ls, none⟩ := by
  have hunmarked : Style.Unmarked .table false ls := unmarked_of_ordinary hls
  have hkind := title?_params htitle hunderline ls
  have hnext : ∀ l ∈ (title :: underline :: ls).head?, isUnderline l = false := by
    rintro l ⟨⟩
    exact isUnderline_title htitle
  have hstart : startsBlock (title :: underline :: ls) = true := by
    rw [startsBlock, hkind]
    rfl
  have hblocks : blocks (prose ++ title :: underline :: ls) = [.titled .params (indent title) ls] := by
    rw [blocks_prose_append hprose hnext, blocks, hkind, List.drop_one, List.tail_cons, body_eq_self hunmarked,
      afterBody_eq_nil hunmarked, blocks]
  rw [findings, hblocks, body_before hprose hnext hstart]
  simp only [List.flatMap_singleton, Block.entries]
  rfl

/-! ## Groups -/

/-- the line that lists names and perhaps their type -/
def listingLine (listed : List Line) : Option Line → Line
  | none => [','].intercalate listed
  | some typeName => [','].intercalate listed ++ [' ', ':', ' '] ++ typeName

/-- Names that are listed on one line at the margin, perhaps with a type. Lines that are empty or indented follow, none of
them dashes or the row of a table. -/
structure Group where
  /-- the names as they stand between the commas, with blanks around them -/
  listed : List Line
  typeName : Option Line
  more : List Line
  filled : listed ≠ []
  identifiers : ∀ n ∈ listed, isIdentifier (trim n) = true
  typed : ∀ t ∈ typeName, t ≠ [] ∧ trim t = t
  margin : indent (listingLine listed typeName) = 0
  deeper : ∀ l ∈ more, l = [] ∨ 0 < indent l
  unmarked : ∀ l ∈ more, isUnderline l = false ∧ isRow l = false

namespace Group

def line (g : Group) : Line :=
  listingLine g.listed g.typeName

def lines (g : Group) : List Line :=
  g.line :: g.more

def names (g : Group) : List Line :=
  g.listed.map trim

/-- what the group says about each of its names: the type, and the words of the lines that follow -/
def doc (g : Group) : ParamDoc :=
  ⟨g.typeName.map String.ofList, (joinWords g.more).map String.ofList⟩

theorem not_mem_intercalate_listed {c : Char} (g : Group) (hcomma : c ≠ ',') (hblank : isBlank c = false)
    (hc : continuesIdentifier c = false) : c ∉ [','].intercalate g.listed :=
  not_mem_intercalate hcomma fun n hn => not_mem_of_trim_isIdentifier (g.identifiers n hn) hblank hc

theorem splitOn_listed (g : Group) : splitOn (· == ',') ([','].intercalate g.listed) = g.listed :=
  splitOn_intercalate g.filled fun n hn =>
    not_mem_of_trim_isIdentifier (g.identifiers n hn) (by decide) (by decide)

/-- **A listing is read as it was written.** No name has a colon in it, so the type is what stands behind the first. -/
theorem listing_line (g : Group) : listing g.line = (g.listed, g.typeName) := by
  have hcolon : ':' ∉ [','].intercalate g.listed := g.not_mem_intercalate_listed (by decide) (by decide) (by decide)
  have htyped := g.typed
  rw [line, listingLine.eq_def]
  cases htype : g.typeName with
  | none =>
    have haround : splitAround [' ', ':', ' '] ([','].intercalate g.listed) = none :=
      splitAround_eq_none (by decide) hcolon
    simp only [listing, haround, splitOnce_eq_none hcolon, Option.or_none, g.splitOn_listed]
  | some t =>
    obtain ⟨hne, htrim⟩ := htyped t htype
    have haround : splitAround [' ', ':', ' '] ([','].intercalate g.listed ++ [' ', ':', ' '] ++ t) =
        some ([','].intercalate g.listed, t) := splitAround_append (p := [' ']) (q := [' ']) (by decide) hcolon
    simp only [listing, haround, Option.some_or, g.splitOn_listed, htrim, List.isEmpty_iff, hne, if_false]

theorem unmarked_line (g : Group) : Unmarked g.line := by
  obtain ⟨n, rest, hlisted⟩ := List.exists_cons_of_ne_nil g.filled
  have hname : isIdentifier (trim n) = true := g.identifiers n (hlisted ▸ List.mem_cons_self)
  obtain ⟨lead, trail, hlead, -, hn⟩ := exists_trim n
  obtain ⟨more, hmore⟩ := exists_intercalate_cons [','] n rest
  have hline : ∃ behind, g.line = lead ++ (trim n ++ behind) := by
    have hfront : [','].intercalate g.listed = lead ++ (trim n ++ (trail ++ more)) := by
      rw [hlisted, hmore, congrArg (· ++ more) hn, List.append_assoc, List.append_assoc]
    rw [line, listingLine.eq_def]
    cases g.typeName with
    | none => exact ⟨_, hfront⟩
    | some t => exact ⟨trail ++ more ++ [' ', ':', ' '] ++ t, by simp [hfront]⟩
  obtain ⟨behind, hline⟩ := hline
  rw [hline]
  exact (unmarked_of_isIdentifier hname behind).indented hlead

theorem ordinary_of_mem_lines (g : Group) : ∀ l ∈ g.lines, Ordinary l := by
  rw [lines, List.forall_mem_cons]
  refine ⟨ordinary_of_unmarked g.unmarked_line, fun l hl => ?_⟩
  obtain ⟨hunderline, hrow⟩ := g.unmarked l hl
  exact ⟨hunderline, columns?_eq_none hrow⟩

/-- the names of the group as they are found, each with the lines that follow -/
def entries (g : Group) : List Entry :=
  g.names.map fun n => ⟨n, g.typeName, g.more.filter (!·.isEmpty)⟩

theorem map_doc_entries (g : Group) : (g.entries.map fun e => (String.ofList e.name, e.doc)) =
    g.names.map fun n => (String.ofList n, g.doc) := by
  rw [entries, List.map_map]
  refine List.map_congr_left fun n _ => ?_
  have hjoin : joinWords (g.more.filter (!·.isEmpty)) = joinWords g.more := by
    rw [joinWords, flatMap_words_filter, joinWords]
  rw [Function.comp_apply, Entry.doc, ParamDoc.merge, hjoin]
  rfl

end Group

/-- **Lines under a title are read group by group.** Every name of a group has its type and its lines. -/
theorem titledEntries_lines (groups : List Group) :
    titledEntries 0 (groups.flatMap Group.lines) = groups.flatMap Group.entries := by
  have hfilter : (groups.flatMap Group.lines).filter (!·.isEmpty) =
      groups.flatMap fun g => g.line :: g.more.filter (!·.isEmpty) := by
    rw [List.filter_flatMap]
    refine List.flatMap_congr fun g _ => ?_
    have hfilled : g.line.isEmpty = false := by
      rw [← Bool.not_eq_true, List.isEmpty_iff]
      intro hempty
      have hdashes := g.unmarked_line.dashes
      rw [hempty] at hdashes
      cases hdashes
    rw [Group.lines, List.filter_cons_of_pos (by simp [hfilled])]
  have hblocks : Docstring.blocks (fun l => if indent l ≤ 0 then some (listing l) else none)
      (groups.flatMap fun g => g.line :: g.more.filter (!·.isEmpty)) =
      groups.map fun g => ((g.listed, g.typeName), g.more.filter (!·.isEmpty)) := by
    refine blocks_flatMap (fun g _ => ?_) fun g _ l hl => ?_
    · have hindent : indent g.line = 0 := g.margin
      rw [if_pos (Nat.le_of_eq hindent), g.listing_line]
    · obtain ⟨hmem, hfilled⟩ := List.mem_filter.1 hl
      have hdeeper := (g.deeper l hmem).resolve_left (by simpa using hfilled)
      exact if_neg (Nat.not_le_of_lt hdeeper)
  rw [titledEntries, hfilter, hblocks, List.flatMap_map]
  refine List.flatMap_congr fun g _ => ?_
  have hnames : (g.listed.map bareName).filter isIdentifier = g.names := by
    have hbare : g.listed.map bareName = g.names :=
      List.map_congr_left fun n hn => bareName_eq rfl (g.identifiers n hn)
    rw [hbare, List.filter_eq_self]
    exact List.forall_mem_map.2 g.identifiers
  exact congrArg (List.map fun n => (⟨n, g.typeName, g.more.filter (!·.isEmpty)⟩ : Entry)) hnames

/-! ## Texts -/

/-- **Groups under a parameter title are read completely.** Take prose in which no block begins, a parameter title at the
margin with dashes below it, and groups of names. The model has just the names of the groups as parameters, in their
order, if they are known and different: each with the type of its group, and with the words of all lines of the group. -/
theorem parse?_groups {groups : List Group} {known : List String} (hprose : Style.Unmarked .table true prose)
    (htitle : Title.ofText (trim title) = .params) (hmargin : indent title = 0)
    (hunderline : isUnderline underline = true) (hgroups : groups ≠ [])
    (hdistinct : (groups.flatMap Group.names).Nodup)
    (hknown : ∀ g ∈ groups, ∀ n ∈ g.names, String.ofList n ∈ known) :
    ∃ m, (Style.parse? .table (prose ++ title :: underline :: groups.flatMap Group.lines) known).value = some m ∧
      m.params = groups.flatMap fun g => g.names.map fun n => (String.ofList n, g.doc) := by
  have hls : ∀ l ∈ groups.flatMap Group.lines, Ordinary l := by
    intro l hl
    obtain ⟨g, -, hl⟩ := List.mem_flatMap.1 hl
    exact g.ordinary_of_mem_lines l hl
  have hentries : (findings (prose ++ title :: underline :: groups.flatMap Group.lines)).entries =
      groups.flatMap Group.entries := by
    rw [findings_titled hprose htitle hunderline hls, hmargin, titledEntries_lines]
  have hnames : (groups.flatMap Group.entries).map Entry.name = groups.flatMap Group.names := by
    rw [List.map_flatMap]
    refine List.flatMap_congr fun g _ => ?_
    rw [Group.entries, List.map_map]
    exact List.map_id g.names
  have hne : groups.flatMap Group.entries ≠ [] := by
    obtain ⟨g, hg⟩ := List.exists_mem_of_ne_nil _ hgroups
    obtain ⟨n, hn⟩ := List.exists_mem_of_ne_nil _ g.filled
    exact List.ne_nil_of_mem (List.mem_flatMap.2 ⟨g, hg, List.mem_map_of_mem (List.mem_map_of_mem hn)⟩)
  have hall : ∀ e ∈ groups.flatMap Group.entries, String.ofList e.name ∈ known := by
    intro e he
    obtain ⟨g, hg, he⟩ := List.mem_flatMap.1 he
    obtain ⟨n, hn, rfl⟩ := List.mem_map.1 he
    exact hknown g hg n hn
  obtain ⟨m, hm, hparams⟩ := @exists_toModel?_params known
    (findings (prose ++ title :: underline :: groups.flatMap Group.lines)) .table (hentries ▸ hne)
    (hentries ▸ hall) (by rw [hentries, hnames]; exact hdistinct)
  refine ⟨m, hm, ?_⟩
  rw [hparams, hentries, List.map_flatMap]
  exact List.flatMap_congr fun g _ => g.map_doc_entries

/-- two names with one type and the same lines, and a name with neither -/
def pointGroups : List Group := [
  { listed := ["x".toList, " y".toList], typeName := some "dict[str, a : b]".toList
    more := ["  Where it is,".toList, [], "    Returns: the plane".toList]
    filled := List.cons_ne_nil _ _, identifiers := by decide, typed := by decide +kernel, margin := by decide
    deeper := by decide +kernel, unmarked := by decide +kernel },
  { listed := ["label".toList], typeName := none, more := []
    filled := List.cons_ne_nil _ _, identifiers := by decide, typed := by rintro t ⟨⟩, margin := by decide
    deeper := List.forall_mem_nil _, unmarked := List.forall_mem_nil _ }]

/-- The type begins behind the first colon, and the empty line takes nothing away from `x` and `y`. -/
theorem parse?_pointGroups :
    Style.Unmarked .table true ["A point.".toList, []] ∧
    Title.ofText (trim "Parameters".toList) = .params ∧ indent "Parameters".toList = 0 ∧
    isUnderline "---".toList = true ∧
    ∃ m, (Style.parse? .table (["A point.".toList, []] ++ "Parameters".toList :: "---".toList ::
        pointGroups.flatMap Group.lines) ["label", "x", "y"]).value = some m ∧
      m.params = [("x", ⟨some "dict[str, a : b]", some "Where it is, Returns: the plane"⟩),
        ("y", ⟨some "dict[str, a : b]", some "Where it is, Returns: the plane"⟩), ("label", ⟨none, none⟩)] := by
  have hprose : Style.Unmarked .table true ["A point.".toList, []] := by decide +kernel
  have htitle : Title.ofText (trim "Parameters".toList) = .params := by decide +kernel
  have hmargin : indent "Parameters".toList = 0 := by decide +kernel
  have hunderline : isUnderline "---".toList = true := by decide +kernel
  obtain ⟨m, hm, hparams⟩ := @parse?_groups "Parameters".toList "---".toList _ pointGroups ["label", "x", "y"] hprose
    htitle hmargin hunderline (List.cons_ne_nil _ _) (by decide +kernel) (by decide +kernel)
  exact ⟨hprose, htitle, hmargin, hunderline, m, hm, hparams.trans (by decide +kernel)⟩

end ToolSchema.Docstring.Table
