/-
Parts of a text.

Trimming and splitting cut parts out of a text and change nothing in them.
- `trim_isInfix`, `infix_of_mem_splitOn`, `eq_append_of_splitOnce`, `eq_append_of_dropPrefix?`: what is cut out.
- `mem_words`: a word is a part without blanks. `words_intercalate`: words with single spaces between them are read
  again as they were.
- `joinWords_append`: the words of two texts are joined like the texts.
- `infix_of_infix_expandTabs`: the spaces that stand for tabs are in no word, so words are found in the text as it was
  before.
- `lines_expandTabs`: nor do tabs end a line.
-/
import Mathlib.Data.List.Basic
import ToolSchema.Proofs.Text.Split

namespace ToolSchema.Text

variable {separator : Char → Bool} {a b cs w : List Char} {c : Char}

/-! ## Trimming -/

theorem trimStart_isSuffix (cs : List Char) : trimStart cs <:+ cs :=
  List.dropWhile_suffix _

theorem trimEnd_isPrefix (cs : List Char) : trimEnd cs <+: cs := by
  obtain ⟨trail, -, hcs⟩ := exists_trimEnd cs
  exact ⟨trail, hcs.symm⟩

theorem trim_isInfix (cs : List Char) : trim cs <:+: cs :=
  (trimEnd_isPrefix _).isInfix.trans (trimStart_isSuffix cs).isInfix

theorem allBlank_of_isInfix (ha : a <:+: cs) (h : allBlank cs = true) : allBlank a = true := by
  rw [allBlank, List.all_eq_true] at h ⊢
  exact fun c hc => h c (ha.subset hc)

/-! ## Pieces -/

/-- the first piece stands at the front, which is what the next character needs -/
theorem prefix_infix_of_splitOn {piece : List Char} {pieces : List (List Char)}
    (h : splitOn separator cs = piece :: pieces) : piece <+: cs ∧ ∀ p ∈ pieces, p <:+: cs := by
  induction cs generalizing piece pieces with
  | nil =>
    cases h
    exact ⟨List.prefix_refl [], by simp⟩
  | cons x rest ih =>
    obtain ⟨first, more, hrest⟩ := List.exists_cons_of_ne_nil (splitOn_ne_nil separator rest)
    obtain ⟨hfirst, hmore⟩ := ih hrest
    have hlater : ∀ p, p <:+: rest → p <:+: x :: rest := by
      intro p hp
      exact hp.trans (List.suffix_cons x rest).isInfix
    rw [splitOn, hrest] at h
    split at h
    · cases h
      refine ⟨List.nil_prefix, fun p hp => hlater p ?_⟩
      rcases List.mem_cons.1 hp with rfl | hp
      · exact hfirst.isInfix
      · exact hmore p hp
    · cases h
      exact ⟨(List.prefix_cons_inj x).2 hfirst, fun p hp => hlater p (hmore p hp)⟩

theorem infix_of_mem_splitOn (h : a ∈ splitOn separator cs) : a <:+: cs := by
  obtain ⟨first, more, hpieces⟩ := List.exists_cons_of_ne_nil (splitOn_ne_nil separator cs)
  obtain ⟨hfirst, hmore⟩ := prefix_infix_of_splitOn hpieces
  rw [hpieces] at h
  rcases List.mem_cons.1 h with rfl | h
  · exact hfirst.isInfix
  · exact hmore a h

theorem separator_of_mem_splitOn (h : a ∈ splitOn separator cs) (hc : c ∈ a) : separator c = false := by
  induction cs generalizing a with
  | nil =>
    rw [List.mem_singleton.1 h] at hc
    cases hc
  | cons x rest ih =>
    obtain ⟨first, more, hrest⟩ := List.exists_cons_of_ne_nil (splitOn_ne_nil separator rest)
    rw [hrest] at ih
    rw [splitOn, hrest] at h
    split at h
    · rcases List.mem_cons.1 h with rfl | h
      · cases hc
      · exact ih h hc
    · next hx =>
      rcases List.mem_cons.1 h with rfl | h
      · rcases List.mem_cons.1 hc with rfl | hc
        · simpa using hx
        · exact ih List.mem_cons_self hc
      · exact ih (List.mem_cons_of_mem first h) hc

theorem eq_append_of_splitOnce (h : splitOnce c cs = some (a, b)) : cs = a ++ c :: b := by
  rw [splitOnce] at h
  cases hrest : cs.dropWhile (· != c) with
  | nil =>
    rw [hrest] at h
    cases h
  | cons d after =>
    have hd : d = c := by
      have hhead := List.head?_dropWhile_not (· != c) cs
      rw [hrest] at hhead
      simpa using hhead
    rw [hd] at hrest
    rw [hrest] at h
    cases h
    rw [← hrest, List.takeWhile_append_dropWhile]

theorem infix_of_splitOnce (h : splitOnce c cs = some (a, b)) : b <:+: cs := by
  rw [eq_append_of_splitOnce h]
  exact ((List.suffix_cons c b).trans (List.suffix_append a _)).isInfix

theorem eq_append_of_dropPrefix? {lead : List Char} (h : dropPrefix? lead cs = some b) : cs = lead ++ b := by
  rw [dropPrefix?] at h
  split at h
  · next hlead =>
    cases h
    obtain ⟨after, rfl⟩ := List.isPrefixOf_iff_prefix.1 hlead
    rw [List.drop_left]
  · cases h

/-! ## Words -/

theorem mem_words (h : w ∈ words cs) : w ≠ [] ∧ (∀ c ∈ w, isBlank c = false) ∧ w <:+: cs := by
  obtain ⟨hpiece, hne⟩ := List.mem_filter.1 h
  refine ⟨by simpa using hne, fun c hc => separator_of_mem_splitOn hpiece hc, infix_of_mem_splitOn hpiece⟩

theorem mem_flatMap_words {fragments : List Line} (h : w ∈ fragments.flatMap words) :
    w ≠ [] ∧ ∀ c ∈ w, isBlank c = false := by
  obtain ⟨part, -, hmem⟩ := List.mem_flatMap.1 h
  exact ⟨(mem_words hmem).1, (mem_words hmem).2.1⟩

theorem words_intercalate {ws : List (List Char)} (h : ∀ w ∈ ws, w ≠ [] ∧ ∀ c ∈ w, isBlank c = false) :
    words ([' '].intercalate ws) = ws := by
  induction ws with
  | nil => rfl
  | cons w rest ih =>
    rw [List.forall_mem_cons] at h
    obtain ⟨⟨hne, hword⟩, hrest⟩ := h
    cases rest with
    | nil => rw [List.intercalate_singleton, words_eq_singleton hne hword]
    | cons w' more =>
      rw [List.intercalate_cons_cons, List.append_assoc, List.singleton_append, words_append_cons (by decide),
        words_eq_singleton hne hword, ih hrest]
      rfl

theorem exists_intercalate_eq_cons {ws : List (List Char)} (h : ∀ w ∈ ws, w ≠ [] ∧ ∀ c ∈ w, isBlank c = false)
    (hne : ws ≠ []) : ∃ d ds, isBlank d = false ∧ [' '].intercalate ws = d :: ds := by
  obtain ⟨w, rest, rfl⟩ := List.exists_cons_of_ne_nil hne
  obtain ⟨d, ds, rfl⟩ := List.exists_cons_of_ne_nil (h w List.mem_cons_self).1
  have hd : isBlank d = false := (h _ List.mem_cons_self).2 d List.mem_cons_self
  obtain ⟨more, hmore⟩ := exists_intercalate_cons [' '] (d :: ds) rest
  exact ⟨d, ds ++ more, hd, hmore⟩

theorem trimStart_intercalate {ws : List (List Char)} (h : ∀ w ∈ ws, w ≠ [] ∧ ∀ c ∈ w, isBlank c = false) :
    trimStart ([' '].intercalate ws) = [' '].intercalate ws := by
  by_cases hne : ws = []
  · rw [hne]
    rfl
  · obtain ⟨d, ds, hd, hjoined⟩ := exists_intercalate_eq_cons h hne
    rw [hjoined, trimStart_cons hd]

theorem trimEnd_intercalate {ws : List (List Char)} (h : ∀ w ∈ ws, w ≠ [] ∧ ∀ c ∈ w, isBlank c = false) :
    trimEnd ([' '].intercalate ws) = [' '].intercalate ws := by
  induction ws with
  | nil => rfl
  | cons w rest ih =>
    rw [List.forall_mem_cons] at h
    obtain ⟨⟨-, hword⟩, hrest⟩ := h
    cases rest with
    | nil =>
      rw [List.intercalate_singleton]
      exact trimEnd_eq_self hword
    | cons w' more =>
      have hfilled : allBlank ([' '].intercalate (w' :: more)) = false := by
        obtain ⟨d, ds, hd, hjoined⟩ := exists_intercalate_eq_cons hrest (List.cons_ne_nil w' more)
        rw [hjoined]
        exact allBlank_cons_eq_false hd
      rw [List.intercalate_cons_cons, trimEnd_append hfilled, ih hrest]

/-- nothing but words and single spaces: no blank at either end -/
theorem trim_intercalate {ws : List (List Char)} (h : ∀ w ∈ ws, w ≠ [] ∧ ∀ c ∈ w, isBlank c = false) :
    trim ([' '].intercalate ws) = [' '].intercalate ws := by
  rw [trim, trimStart_intercalate h, trimEnd_intercalate h]

theorem intercalate_append {ws vs : List (List Char)} (hws : ws ≠ []) (hvs : vs ≠ []) :
    [' '].intercalate (ws ++ vs) = [' '].intercalate ws ++ ' ' :: [' '].intercalate vs := by
  induction ws with
  | nil => exact absurd rfl hws
  | cons w rest ih =>
    cases rest with
    | nil =>
      rw [List.singleton_append, List.intercalate_cons_of_ne_nil hvs, List.intercalate_singleton, List.append_assoc,
        List.singleton_append]
    | cons w' more =>
      rw [List.cons_append, List.intercalate_cons_of_ne_nil (by simp), ih (List.cons_ne_nil w' more),
        List.intercalate_cons_of_ne_nil (List.cons_ne_nil w' more), List.append_assoc _ _ (_ :: _)]

theorem joinWords_eq (fragments : List Line) : joinWords fragments =
    if fragments.flatMap words = [] then none else some ([' '].intercalate (fragments.flatMap words)) := by
  rw [joinWords]
  by_cases hwords : fragments.flatMap words = []
  · rw [hwords]
    rfl
  · obtain ⟨d, ds, -, hjoined⟩ := exists_intercalate_eq_cons (fun _ => mem_flatMap_words) hwords
    rw [if_neg hwords, hjoined]
    rfl

/-- two texts with a space between them, or the one that there is -/
def joinTexts : Option String → Option String → Option String
  | some a, some b => some (a ++ " " ++ b)
  | a, b => a.or b

theorem joinWords_append (fragments more : List Line) : (joinWords (fragments ++ more)).map String.ofList =
    joinTexts ((joinWords fragments).map String.ofList) ((joinWords more).map String.ofList) := by
  rw [joinWords_eq, joinWords_eq, joinWords_eq, List.flatMap_append]
  by_cases hwords : fragments.flatMap words = []
  · rw [hwords, List.nil_append, if_pos rfl]
    split <;> rfl
  · by_cases hmore : more.flatMap words = []
    · rw [hmore, List.append_nil, if_neg hwords, if_pos rfl]
      rfl
    · have hspace : String.ofList [' '] = " " := rfl
      rw [if_neg hwords, if_neg hmore, if_neg (by simp [hwords]), intercalate_append hwords hmore, List.append_cons,
        Option.map_some, String.ofList_append, String.ofList_append, hspace]
      rfl

/-! ## Tabs -/

theorem not_mem_expandTabs (cs : List Char) : '\t' ∉ expandTabs cs := by
  intro hmem
  obtain ⟨c, -, hc⟩ := List.mem_flatMap.1 hmem
  split at hc
  · simp at hc
  · next hne => exact hne (List.mem_singleton.1 hc).symm

theorem expandTabs_cons_of_ne (hc : c ≠ '\t') (cs : List Char) : expandTabs (c :: cs) = c :: expandTabs cs := by
  rw [expandTabs, List.flatMap_cons, if_neg hc]
  rfl

/-- a space at the front is not the beginning of a text without blanks -/
theorem not_prefix_of_isBlank (hc : isBlank c = true) (hne : w ≠ []) (hw : ∀ x ∈ w, isBlank x = false) :
    ¬ w <+: c :: cs := by
  intro hlead
  obtain ⟨d, ds, rfl⟩ := List.exists_cons_of_ne_nil hne
  obtain ⟨rfl, -⟩ := List.cons_prefix_cons.1 hlead
  rw [hw d List.mem_cons_self] at hc
  cases hc

theorem prefix_of_prefix_expandTabs (hw : ∀ x ∈ w, isBlank x = false) (h : w <+: expandTabs cs) : w <+: cs := by
  induction cs generalizing w with
  | nil => exact h
  | cons c rest ih =>
    cases w with
    | nil => exact List.nil_prefix
    | cons d ds =>
      by_cases hc : c = '\t'
      · subst hc
        exact absurd h (not_prefix_of_isBlank (by decide) (List.cons_ne_nil d ds) hw)
      · rw [expandTabs_cons_of_ne hc] at h
        obtain ⟨rfl, hrest⟩ := List.cons_prefix_cons.1 h
        rw [List.forall_mem_cons] at hw
        exact (List.prefix_cons_inj d).2 (ih hw.2 hrest)

theorem infix_of_infix_expandTabs (hw : ∀ x ∈ w, isBlank x = false) (h : w <:+: expandTabs cs) : w <:+: cs := by
  by_cases hne : w = []
  · rw [hne]
    exact List.nil_infix
  · have hstep : ∀ {c rest}, isBlank c = true → w <:+: c :: rest → w <:+: rest := by
      intro c rest hc hpart
      exact (List.infix_cons_iff.1 hpart).resolve_left (not_prefix_of_isBlank hc hne hw)
    induction cs with
    | nil => exact h
    | cons c rest ih =>
      have hlater : w <:+: expandTabs rest → w <:+: c :: rest := by
        intro hpart
        exact (ih hpart).trans (List.suffix_cons c rest).isInfix
      by_cases hc : c = '\t'
      · subst hc
        exact hlater (hstep (by decide) (hstep (by decide) (hstep (by decide) (hstep (by decide) h))))
      · rw [expandTabs_cons_of_ne hc, List.infix_cons_iff] at h
        rcases h with hlead | hpart
        · rw [← expandTabs_cons_of_ne hc] at hlead
          exact (prefix_of_prefix_expandTabs hw hlead).isInfix
        · exact hlater hpart

theorem dropReturn_expandTabs (l : Line) : dropReturn (expandTabs l) = expandTabs (dropReturn l) := by
  rcases List.eq_nil_or_concat' l with rfl | ⟨before, c, rfl⟩
  · rfl
  · have hother : ∀ (a : Line) (d : Char), d ≠ '\r' → dropReturn (a ++ [d]) = a ++ [d] := by
      intro a d hd
      rw [dropReturn, if_neg]
      simpa using hd
    have hreturn : ∀ a : Line, dropReturn (a ++ ['\r']) = a := by
      intro a
      rw [dropReturn, if_pos (by simp), List.dropLast_concat]
    rw [expandTabs_append]
    by_cases hc : c = '\r'
    · subst hc
      exact (hreturn (expandTabs before)).trans (congrArg expandTabs (hreturn before).symm)
    · rw [hother before c hc, expandTabs_append]
      by_cases htab : c = '\t'
      · subst htab
        have hspaces : expandTabs before ++ expandTabs ['\t'] = expandTabs before ++ [' ', ' ', ' '] ++ [' '] := by
          rw [List.append_assoc]
          rfl
        rw [hspaces]
        exact hother (expandTabs before ++ [' ', ' ', ' ']) ' ' (by decide)
      · have hself : expandTabs [c] = [c] := expandTabs_cons_of_ne htab []
        rw [hself]
        exact hother (expandTabs before) c hc

theorem isEmpty_expandTabs (cs : List Char) : (expandTabs cs).isEmpty = cs.isEmpty := by
  cases cs with
  | nil => rfl
  | cons c rest =>
    rw [expandTabs, List.flatMap_cons]
    split <;> rfl

/-- tabs may be expanded before the lines are taken, or line by line -/
theorem lines_expandTabs (cs : List Char) : lines (expandTabs cs) = (lines cs).map expandTabs := by
  obtain ⟨before, final, hpieces⟩ := (List.eq_nil_or_concat' _).resolve_left (splitOn_ne_nil (· == '\n') cs)
  have hreturns : (before.map expandTabs).map dropReturn = (before.map dropReturn).map expandTabs := by
    rw [List.map_map, List.map_map]
    exact List.map_congr_left fun l _ => dropReturn_expandTabs l
  rw [lines, lines, splitOn_expandTabs, hpieces, List.map_append, List.map_singleton, List.dropLast_concat,
    List.dropLast_concat, List.getLast?_concat, List.getLast?_concat, Option.getD_some, Option.getD_some, hreturns,
    isEmpty_expandTabs, List.map_append]
  split <;> rfl

end ToolSchema.Text
