/-
Sections in written texts.

`Headed.findings_headed`: of a text with a parameter section, every item is found as it was written.
-/
import ToolSchema.Proofs.Docstring.Items

namespace ToolSchema.Docstring.Headed

open Text

variable {line name text summary : Line} {params : List (Line × Line)}

/-! ## Lines -/

theorem headerAt?_eq_none (h : ':' ∉ line) (isFirst : Bool) : headerAt? isFirst line = none := by
  rw [headerAt?, Header.ofLine?_eq_none h]
  rfl

theorem indent_itemLine (hname : isIdentifier name = true) : indent (Layout.itemLine name text .headed) = 4 := by
  simp only [Layout.itemLine_headed, List.cons_append, List.nil_append, indent_cons_space,
    indent_of_isIdentifier hname]

/-! ## Written texts -/

theorem isBody_of_mem_items (hfits : Layout.Fits params) : ∀ l ∈ Layout.items .headed params, isBody 0 l = true := by
  intro l hl
  obtain ⟨p, hp, hl⟩ := List.mem_flatMap.1 hl
  rw [List.mem_singleton.1 hl, isBody, indent_itemLine (hfits p hp).1, Bool.or_eq_true]
  exact .inr (by decide)

/-- an item of a written text -/
def writtenItem (p : Line × Line) (hname : isIdentifier p.1 = true) : Item 4 where
  name := p.1
  typeName := none
  text := ' ' :: p.2
  more := []
  identifier := hname
  typed := Item.typed_none
  deeper := List.forall_mem_nil _

theorem entries_items (hfits : Layout.Fits params) :
    entries (Layout.items .headed params) = params.map fun p => ⟨p.1, none, [trim p.2]⟩ := by
  have hnames : ∀ p ∈ params, isIdentifier p.1 = true := fun p hp => (hfits p hp).1
  have hlines : Layout.items .headed params = (params.pmap writtenItem hnames).flatMap Item.lines := by
    refine Layout.items_eq_flatMap_pmap hnames fun p _ => ?_
    rw [Layout.itemLine_headed]
    rfl
  have hentry : ∀ p hname, (writtenItem p hname).entry = ⟨p.1, none, [trim p.2]⟩ := by
    intro p hname
    have hspace : trim (' ' :: p.2) = trim p.2 := trim_append_of_allBlank (a := [' ']) (by decide)
    exact congrArg (fun text => (⟨p.1, none, [text]⟩ : Entry)) hspace
  rw [hlines, entries_lines, Layout.map_pmap_eq_map hnames hentry]

theorem detect_headed (summary : Line) (params : List (Line × Line)) :
    detect (Layout.lines .headed summary params) = true := by
  have hheader : (headerAt? false "Args:".toList).any isMarker = true := by decide +kernel
  have hlines : Layout.lines .headed summary params =
    summary :: [] :: "Args:".toList :: Layout.items .headed params := rfl
  rw [hlines, detect, List.any_cons, List.any_cons, hheader]
  simp

/-- **A text with a parameter section is found as it was written.** -/
theorem findings_headed (hsummary : isPlain summary = true) (hfits : Layout.Fits params) :
    findings (Layout.lines .headed summary params) =
      ⟨[summary, []], params.map fun p => ⟨p.1, none, [trim p.2]⟩, none⟩ := by
  have hlines : Layout.lines .headed summary params =
    summary :: [] :: "Args:".toList :: Layout.items .headed params := rfl
  have hfirst : headerAt? true summary = none := headerAt?_eq_none (not_mem_of_isPlain hsummary (by decide)) true
  have hempty : headerAt? false [] = none := rfl
  have hheader : headerAt? false "Args:".toList = some (.params, []) := by decide +kernel
  have hbody : ∀ l ∈ Layout.items .headed params, isBody (indent "Args:".toList) l = true := by
    have hlevel : indent "Args:".toList = 0 := by decide +kernel
    rw [hlevel]
    exact isBody_of_mem_items hfits
  have hsections : sections true (Layout.lines .headed summary params) =
      [⟨.params, [], Layout.items .headed params⟩] := by
    have hsection := @sections_cons false "Args:".toList [] .params [] (Layout.items .headed params) hheader hbody
      (by simp)
    rw [List.append_nil, sections] at hsection
    rw [hlines, sections, hfirst, sections, hempty]
    exact hsection
  have hprose : proseBefore true (Layout.lines .headed summary params) = [summary, []] := by
    rw [hlines, proseBefore, hfirst, proseBefore, hempty, proseBefore, hheader]
    rfl
  rw [findings, hsections, hprose, ← entries_items hfits]
  simp [returnText?, flattenSome]

end ToolSchema.Docstring.Headed
