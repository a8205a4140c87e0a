/-
From what a layout finds to its model.

- `blocks_append`: lines that begin with a head are grouped by themselves, whatever stands before them.
- `blocks_flatMap`: lines that were written head by head are grouped as they were written.
- `blocks_map`: what is read of the lines is grouped like the lines.
- `addEntries_value`: entries of different known parameters become the parameters, in their order.
- `exists_toModel?_params`: so such entries make a model with these parameters.
- `toModel?_value`: with one line of prose before them, that line is summary and description.
-/
import Mathlib.Data.List.Nodup
import ToolSchema.Docstring.Findings
import ToolSchema.Proofs.Docstring.Clean
import ToolSchema.Proofs.Entries

namespace ToolSchema.Docstring

open Text

/-! ## Grouping -/

section

variable {α β γ : Type} {head? : α → Option β} {head : γ → α} {more : γ → List α} {value : γ → β} {ps : List γ}

theorem blocks_append_of_none {as rest : List α} (h : ∀ a ∈ as, head? a = none) :
    blocks head? (as ++ rest) = blocks head? rest := by
  induction as with
  | nil => rfl
  | cons a as ih =>
    rw [List.forall_mem_cons] at h
    rw [List.cons_append, blocks, h.1, ih h.2]

/-- items that begin with a head are grouped by themselves -/
theorem blocks_append {as rest : List α} (h : (rest.head?.bind head?).isSome = true) :
    blocks head? (as ++ rest) = blocks head? as ++ blocks head? rest := by
  have hstop : rest.takeWhile (fun x => (head? x).isNone) = [] := by
    cases rest with
    | nil => rfl
    | cons a rest =>
      obtain ⟨b, hhead⟩ := Option.isSome_iff_exists.1 h
      rw [List.head?_cons, Option.bind_some] at hhead
      exact List.takeWhile_cons_of_neg (by simp [hhead])
  induction as with
  | nil => rfl
  | cons a as ih =>
    have hmine : (as ++ rest).takeWhile (fun x => (head? x).isNone) = as.takeWhile fun x => (head? x).isNone := by
      rw [List.takeWhile_append, hstop, List.append_nil]
      split
      · next hall => exact (List.takeWhile_prefix _).eq_of_length hall |>.symm
      · rfl
    rw [List.cons_append, blocks, blocks]
    cases hhead : head? a with
    | none => exact ih
    | some b => rw [hmine, ih, List.cons_append]

theorem blocks_flatMap (hhead : ∀ p ∈ ps, head? (head p) = some (value p))
    (hmore : ∀ p ∈ ps, ∀ a ∈ more p, head? a = none) :
    blocks head? (ps.flatMap fun p => head p :: more p) = ps.map fun p => (value p, more p) := by
  induction ps with
  | nil => rfl
  | cons p rest ih =>
    rw [List.forall_mem_cons] at hhead hmore
    have hnext : (rest.flatMap fun p => head p :: more p).takeWhile (fun x => (head? x).isNone) = [] := by
      cases rest with
      | nil => rfl
      | cons q rest => simp [hhead.2 q List.mem_cons_self]
    have hmine : (more p ++ rest.flatMap fun p => head p :: more p).takeWhile (fun x => (head? x).isNone) =
        more p := by
      rw [List.takeWhile_append_of_pos, hnext, List.append_nil]
      intro a ha
      rw [hmore.1 a ha]
      rfl
    rw [List.flatMap_cons, List.cons_append, blocks, hhead.1, List.map_cons, hmine,
      blocks_append_of_none hmore.1, ih hhead.2 hmore.2]

/-- items that are read before they are grouped are grouped in the same way -/
theorem blocks_map {δ ε : Type} {head?' : δ → Option ε} {read : α → δ} {k : β → ε}
    (h : ∀ a, head?' (read a) = (head? a).map k) (as : List α) :
    blocks head?' (as.map read) = (blocks head? as).map fun g => (k g.1, g.2.map read) := by
  have hnone : ∀ a, (head?' (read a)).isNone = (head? a).isNone := by
    intro a
    rw [h, Option.isNone_map]
  induction as with
  | nil => rfl
  | cons a rest ih =>
    rw [List.map_cons, blocks, blocks, h, ih, List.takeWhile_map]
    cases head? a with
    | none => rfl
    | some b => simp only [Option.map_some, List.map_cons, Function.comp_def, hnone]

theorem filterMap_eq_map_of_forall {l : List α} {f : α → Option β} {g : α → β} (h : ∀ a ∈ l, f a = some (g a)) :
    l.filterMap f = l.map g := by
  rw [List.filterMap_congr h, List.filterMap_eq_map']

end

/-! ## Parameters -/

variable {names : List String} {entries : List Entry}

/-- what a single entry says about its parameter -/
def Entry.doc (e : Entry) : ParamDoc :=
  ParamDoc.merge ⟨none, none⟩ e

theorem addEntries_value {params : Entries ParamDoc} (hknown : ∀ e ∈ entries, String.ofList e.name ∈ names)
    (hnew : (Entries.keys params ++ entries.map fun e => String.ofList e.name).Nodup) :
    (addEntries names params entries).value = params ++ entries.map fun e => (String.ofList e.name, e.doc) := by
  induction entries generalizing params with
  | nil => exact (List.append_nil params).symm
  | cons e rest ih =>
    rw [List.forall_mem_cons] at hknown
    have hfresh : String.ofList e.name ∉ Entries.keys params := by
      intro hmem
      rw [List.nodup_append] at hnew
      exact hnew.2.2 _ hmem _ List.mem_cons_self rfl
    have hadd : (addEntry names params e).value = params ++ [(String.ofList e.name, e.doc)] := by
      rw [addEntry, if_pos (List.contains_iff_mem.2 hknown.1), Traced.pure_value,
        Entries.lookup_eq_none_of_not_mem hfresh, Entries.put_of_not_mem hfresh]
      rfl
    have hkeys : Entries.keys (params ++ [(String.ofList e.name, e.doc)]) =
        Entries.keys params ++ [String.ofList e.name] := List.map_append
    rw [addEntries, Traced.bind_value, hadd, ih hknown.2, List.map_cons, List.append_assoc]
    · rfl
    · rw [hkeys, List.append_assoc]
      exact hnew

/-! ## Models -/

/-- entries of different known parameters make a model of just these -/
theorem exists_toModel?_params {f : Findings} (style : Style) (hentries : f.entries ≠ [])
    (hknown : ∀ e ∈ f.entries, String.ofList e.name ∈ names) (hdistinct : (f.entries.map Entry.name).Nodup) :
    ∃ m, (f.toModel? style names).value = some m ∧ m.params = f.entries.map fun e => (String.ofList e.name, e.doc) := by
  have hempty : f.isEmpty = false := by simp [Findings.isEmpty, hentries]
  have hstrings : (f.entries.map fun e => String.ofList e.name).Nodup := by
    have hnodup : ((f.entries.map Entry.name).map String.ofList).Nodup :=
      List.Nodup.map (fun _ _ h => String.ofList_injective h) hdistinct
    rwa [List.map_map] at hnodup
  have hparams := @addEntries_value names f.entries [] hknown hstrings
  rw [Findings.toModel?, hempty, if_neg Bool.false_ne_true, Traced.bind_value]
  exact ⟨_, rfl, hparams⟩

theorem prose_eq {s : Line} (htrim : trim s = s) : prose [s, []] = s := by
  have hjoin : joinLines [s, []] = s ++ ['\n'] := by simp [joinLines, List.intercalate]
  rw [prose, hjoin, trim_append_right (by decide), htrim]

theorem summary_eq {s : Line} (hne : s ≠ []) (htrim : trim s = s) : summary [s] = s := by
  simp [summary, htrim, hne]

theorem toModel?_value {s : Line} {style : Style} (hne : s ≠ []) (htrim : trim s = s) (hfeed : '\n' ∉ s)
    (htab : '\t' ∉ s) (hcolon : ':' ∉ s) (hentries : entries ≠ [])
    (hknown : ∀ e ∈ entries, String.ofList e.name ∈ names)
    (hdistinct : (entries.map fun e => String.ofList e.name).Nodup) :
    (Findings.toModel? style names ⟨[s, []], entries, none⟩).value =
      some ⟨String.ofList s, String.ofList s, entries.map fun e => (String.ofList e.name, e.doc), none, some style⟩ := by
  have hempty : Findings.isEmpty ⟨[s, []], entries, none⟩ = false := by
    simp [Findings.isEmpty, hentries]
  have hparams := @addEntries_value names entries [] hknown hdistinct
  rw [Findings.toModel?, if_neg (by simp [hempty]), Traced.bind_value, hparams, Traced.pure_value, prose_eq htrim,
    clean_eq_singleton hne htrim hfeed htab hcolon, summary_eq hne htrim]
  rfl

end ToolSchema.Docstring
