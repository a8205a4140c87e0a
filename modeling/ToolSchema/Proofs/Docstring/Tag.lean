/-
Tags in written texts.

`Tag.findings_tagged`: of a text in tags, every item is found as it was written. `Tag.detect_eq_false`: in the other
layouts there is no tag.
-/
import ToolSchema.Docstring.Tag
import ToolSchema.Proofs.Docstring.Findings
import ToolSchema.Proofs.Docstring.Layout

namespace ToolSchema.Docstring.Tag

open Text

variable {line name text summary : Line} {params : List (Line × Line)}

/-- a line that begins with anything else is no tag -/
theorem ofLine?_eq_none (h : (trim line).head? ≠ some ':') : ofLine? line = none := by
  rw [ofLine?, dropPrefix?_eq_none h]
  rfl

/-- the words for parameters are names -/
theorem isIdentifier_of_paramWord {word : Line} (hword : isOneOf paramWords word = true) : isIdentifier word = true := by
  have hwords : ∀ w ∈ paramWords, isIdentifier w.toList = true := by decide
  obtain ⟨w, hw, heq⟩ := List.any_eq_true.1 hword
  rw [← eq_of_beq heq]
  exact hwords w hw

theorem words_of_isIdentifier (h : isIdentifier name = true) : words name = [name] := by
  obtain ⟨d, ds, rfl⟩ := exists_cons_of_isIdentifier h
  exact words_eq_singleton (List.cons_ne_nil d ds) fun c hc => isBlank_of_mem_identifier h hc

/-- a parameter tag, with any of the words for parameters -/
theorem ofLine?_param {word : Line} (hword : isOneOf paramWords word = true) (hname : isIdentifier name = true)
    (htext : allBlank text = false) :
    ofLine? (':' :: (word ++ ' ' :: name ++ ':' :: ' ' :: text)) = some (.param name none (trim text)) := by
  have hidentifier : isIdentifier word = true := isIdentifier_of_paramWord hword
  have htrim : trim (':' :: (word ++ ' ' :: name ++ ':' :: ' ' :: text)) =
      [':'] ++ (word ++ ' ' :: name ++ ':' :: ' ' :: trimEnd text) := by
    have hend : trimEnd ([':', ' '] ++ text) = [':', ' '] ++ trimEnd text := trimEnd_append htext
    have hrest : trimEnd (word ++ ' ' :: name ++ ([':', ' '] ++ text)) =
        word ++ ' ' :: name ++ trimEnd ([':', ' '] ++ text) := trimEnd_append (allBlank_append_right htext)
    rw [hend] at hrest
    rw [trim_cons (by decide)]
    exact congrArg (':' :: ·) hrest
  have hcolon : ':' ∉ word ++ ' ' :: name := by
    have hcolonWord : ':' ∉ word := not_mem_of_isIdentifier hidentifier (by decide)
    have hcolonName : ':' ∉ name := not_mem_of_isIdentifier hname (by decide)
    simp [hcolonWord, hcolonName]
  have hwords : words (word ++ ' ' :: name) = [word, name] := by
    rw [words_append_cons (by decide), words_of_isIdentifier hidentifier, words_of_isIdentifier hname]
    rfl
  have hfinal : trim (' ' :: trimEnd text) = trim text := trim_append_trimEnd (a := [' ']) (by decide) text
  rw [ofLine?, htrim, dropPrefix?_append]
  simp only [Option.bind_eq_bind, Option.bind_some, splitOnce_append_cons hcolon, hwords, hword, if_true, ofParam?,
    List.getLast?_singleton, bareName_eq (trim_of_isIdentifier hname) hname, hname, hfinal, List.dropLast_singleton,
    List.isEmpty_nil]

/-- an item is read as it was written -/
theorem ofLine?_itemLine (hname : isIdentifier name = true) (htext : isPlain text = true) :
    ofLine? (Layout.itemLine name text .tagged) = some (.param name none (trim text)) := by
  rw [Layout.itemLine_tagged]
  exact ofLine?_param (by decide +kernel) hname (allBlank_of_isPlain htext)

/-! ## Written texts -/

theorem detect_eq_false {layout : Layout} (hlayout : layout ≠ .tagged) (hsummary : isPlain summary = true)
    (hfits : Layout.Fits params) : detect (layout.lines summary params) = false := by
  have hheading : ∀ l ∈ layout.heading, (trim l).head? ≠ some ':' := by
    cases layout with
    | tagged => exact absurd rfl hlayout
    | _ => decide +kernel
  have hitems : ∀ l ∈ layout.items params, (trim l).head? ≠ some ':' := by
    intro l hl
    cases layout with
    | tagged => exact absurd rfl hlayout
    | headed => exact (Layout.unmarked_of_mem_items hfits (.inl rfl) l hl).colon
    | underlined => exact (Layout.unmarked_of_mem_items hfits (.inr rfl) l hl).colon
    | piped =>
      obtain ⟨p, hp, hl⟩ := List.mem_flatMap.1 hl
      rw [List.mem_singleton.1 hl, Layout.itemLine_piped, List.cons_append, trim_cons (by decide)]
      simp
  have hall : ∀ l ∈ layout.lines summary params, ofLine? l = none := by
    rw [Layout.lines, List.forall_mem_cons, List.forall_mem_cons, List.forall_mem_append]
    exact ⟨ofLine?_eq_none (unmarked_of_isPlain hsummary).colon, rfl, fun l hl => ofLine?_eq_none (hheading l hl),
      fun l hl => ofLine?_eq_none (hitems l hl)⟩
  rw [detect, List.any_eq_false]
  intro l hl
  simp [hall l hl]

theorem detect_tagged (hne : params ≠ []) (hfits : Layout.Fits params) :
    detect (Layout.lines .tagged summary params) = true := by
  obtain ⟨p, rest, rfl⟩ := List.exists_cons_of_ne_nil hne
  obtain ⟨hname, htext⟩ := hfits p List.mem_cons_self
  rw [detect, List.any_eq_true]
  refine ⟨Layout.itemLine p.1 p.2 .tagged, by simp [Layout.lines, Layout.items], ?_⟩
  rw [ofLine?_itemLine hname htext]
  rfl

/-- **A text in tags is found as it was written.** -/
theorem findings_tagged (hsummary : isPlain summary = true) (hfits : Layout.Fits params) :
    findings (Layout.lines .tagged summary params) =
      ⟨[summary, []], params.map fun p => ⟨p.1, none, [trim p.2]⟩, none⟩ := by
  have hfirst : ofLine? summary = none := ofLine?_eq_none (unmarked_of_isPlain hsummary).colon
  have hempty : ofLine? [] = none := rfl
  have hitems : blocks ofLine? (Layout.items .tagged params) =
      params.map fun p => (Tag.param p.1 none (trim p.2), []) := by
    refine blocks_flatMap (fun p hp => ?_) nofun
    exact ofLine?_itemLine (hfits p hp).1 (hfits p hp).2
  have hblocks : blocks ofLine? (Layout.lines .tagged summary params) =
      params.map fun p => (Tag.param p.1 none (trim p.2), []) := by
    rw [Layout.lines, blocks, hfirst, blocks, hempty]
    exact hitems
  have hprose : (Layout.lines .tagged summary params).takeWhile (fun l => (ofLine? l).isNone) = [summary, []] := by
    have hstop : (Layout.items .tagged params).takeWhile (fun l => (ofLine? l).isNone) = [] := by
      cases params with
      | nil => rfl
      | cons p rest =>
        obtain ⟨hname, htext⟩ := hfits p List.mem_cons_self
        rw [Layout.items, List.flatMap_cons, List.cons_append, List.takeWhile_cons, ofLine?_itemLine hname htext]
        rfl
    rw [Layout.lines, List.takeWhile_cons, hfirst, List.takeWhile_cons, hempty]
    exact congrArg (fun ls => summary :: [] :: ls) hstop
  have hentries : (params.map fun p => (Tag.param p.1 none (trim p.2), ([] : List Line))).filterMap entry? =
      params.map fun p => ⟨p.1, none, [trim p.2]⟩ := by
    simp [List.filterMap_map, Function.comp_def, entry?]
  have htypings : (params.map fun p => (Tag.param p.1 none (trim p.2), ([] : List Line))).filterMap typing? = [] := by
    rw [List.filterMap_map]
    exact List.filterMap_eq_nil_iff.2 fun p _ => rfl
  have hreturns : (params.map fun p => (Tag.param p.1 none (trim p.2), ([] : List Line))).filterMap returnText? = [] := by
    rw [List.filterMap_map]
    exact List.filterMap_eq_nil_iff.2 fun p _ => rfl
  rw [findings, hblocks, hprose, hentries, htypings, hreturns]
  rfl

end ToolSchema.Docstring.Tag
