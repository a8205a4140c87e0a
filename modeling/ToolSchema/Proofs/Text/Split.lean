/-
Splitting a text that was put together from pieces.

- `splitOn_append_cons`: a separator splits a text where it stands. `splitOn_intercalate_texts`: so joined texts have the
  pieces of all of them, and `splitOn_intercalate`: joined pieces are found again.
- `splitAround_append`: a part is found where it first stands.
- `words_append_cons`, `words_trim`: blanks only separate words.
- `lines_unlines`: the lines of a text that was written line by line.
-/
import ToolSchema.Proofs.Text.Blank

namespace ToolSchema.Text

variable {separator : Char → Bool} {a b cs : List Char} {c : Char}

/-! ## Pieces -/

theorem beq_of_not_mem (h : c ∉ cs) : ∀ x ∈ cs, (x == c) = false := by
  intro x hx
  rw [beq_eq_false_iff_ne]
  exact fun heq => h (heq ▸ hx)

theorem bne_of_not_mem (h : c ∉ cs) : ∀ x ∈ cs, (x != c) = true := by
  intro x hx
  rw [bne, beq_of_not_mem h x hx, Bool.not_false]

theorem splitOn_ne_nil (separator : Char → Bool) (cs : List Char) : splitOn separator cs ≠ [] := by
  cases cs with
  | nil => exact List.cons_ne_nil _ _
  | cons c rest =>
    rw [splitOn]
    split
    · exact List.cons_ne_nil _ _
    · split <;> exact List.cons_ne_nil _ _

theorem splitOn_append_cons (hc : separator c = true) :
    splitOn separator (a ++ c :: b) = splitOn separator a ++ splitOn separator b := by
  induction a with
  | nil =>
    have hfirst : splitOn separator (c :: b) = [] :: splitOn separator b := by rw [splitOn, if_pos hc]
    rw [List.nil_append, hfirst]
    rfl
  | cons x rest ih =>
    rw [List.cons_append, splitOn, splitOn, ih]
    split
    · rfl
    · cases hrest : splitOn separator rest with
      | nil => exact absurd hrest (splitOn_ne_nil separator rest)
      | cons piece pieces => rfl

theorem splitOn_eq_singleton (ha : ∀ x ∈ a, separator x = false) : splitOn separator a = [a] := by
  induction a with
  | nil => rfl
  | cons x rest ih =>
    rw [List.forall_mem_cons] at ha
    rw [splitOn, if_neg (by simp [ha.1]), ih ha.2]

/-- what has no separator in it goes in front of the first piece -/
theorem splitOn_append_left {piece : List Char} {pieces : List (List Char)} (ha : ∀ x ∈ a, separator x = false)
    (hb : splitOn separator b = piece :: pieces) : splitOn separator (a ++ b) = (a ++ piece) :: pieces := by
  induction a with
  | nil => exact hb
  | cons x rest ih =>
    rw [List.forall_mem_cons] at ha
    rw [List.cons_append, splitOn, if_neg (by simp [ha.1]), ih ha.2]
    rfl

theorem splitOnce_append_cons (ha : c ∉ a) : splitOnce c (a ++ c :: b) = some (a, b) := by
  rw [splitOnce, List.dropWhile_append_of_pos (bne_of_not_mem ha), List.takeWhile_append_of_pos (bne_of_not_mem ha)]
  simp

theorem splitOnce_eq_none (ha : c ∉ a) : splitOnce c a = none := by
  have hdrop : (a ++ []).dropWhile (· != c) = [] := List.dropWhile_append_of_pos (bne_of_not_mem ha)
  rw [List.append_nil] at hdrop
  rw [splitOnce, hdrop]

theorem dropPrefix?_append (a b : List Char) : dropPrefix? a (a ++ b) = some b := by
  rw [dropPrefix?, if_pos (List.isPrefixOf_iff_prefix.2 (List.prefix_append a b)), List.drop_left]

theorem dropPrefix?_eq_none (h : cs.head? ≠ some c) : dropPrefix? [c] cs = none := by
  rw [dropPrefix?, if_neg]
  cases cs with
  | nil => simp [List.isPrefixOf]
  | cons d ds =>
    have hd : d ≠ c := fun heq => h (by rw [heq]; rfl)
    simpa [List.isPrefixOf] using Ne.symm hd

/-- a part with a character in it that does not come before stands nowhere earlier -/
theorem splitAround_append {p q : List Char} (hp : c ∉ p) (ha : c ∉ a) :
    splitAround (p ++ c :: q) (a ++ (p ++ c :: q) ++ b) = some (a, b) := by
  induction a with
  | nil =>
    obtain ⟨d, ds, hpart⟩ := List.exists_cons_of_ne_nil (List.append_ne_nil_of_right_ne_nil p (List.cons_ne_nil c q))
    rw [List.nil_append, hpart, List.cons_append, splitAround, ← List.cons_append, dropPrefix?_append]
  | cons x rest ih =>
    rw [List.mem_cons, not_or] at ha
    have hdrop : dropPrefix? (p ++ c :: q) (x :: (rest ++ (p ++ c :: q) ++ b)) = none := by
      rw [dropPrefix?, if_neg]
      intro hlead
      obtain ⟨after, htext⟩ := List.isPrefixOf_iff_prefix.1 hlead
      -- up to the first such character, the part is shorter than the text
      have hbefore := congrArg (List.takeWhile (· != c)) htext
      have htext' : x :: (rest ++ (p ++ c :: q) ++ b) = x :: (rest ++ p) ++ c :: (q ++ b) := by simp
      have hfront : c ∉ x :: (rest ++ p) := by simp [ha.1, ha.2, hp]
      rw [List.append_assoc, List.takeWhile_append_of_pos (bne_of_not_mem hp), htext',
        List.takeWhile_append_of_pos (bne_of_not_mem hfront)] at hbefore
      have hlength := congrArg List.length hbefore
      simp only [List.cons_append, List.takeWhile_cons, bne_self_eq_false, Bool.false_eq_true, if_false,
        List.append_nil, List.length_cons, List.length_append] at hlength
      omega
    rw [List.cons_append, List.cons_append, splitAround, hdrop, ih ha.2]
    rfl

theorem splitAround_eq_none {part : List Char} (hpart : c ∈ part) (ha : c ∉ a) : splitAround part a = none := by
  induction a with
  | nil =>
    rw [splitAround, if_neg]
    simpa using List.ne_nil_of_mem hpart
  | cons x rest ih =>
    have hdrop : dropPrefix? part (x :: rest) = none := by
      rw [dropPrefix?, if_neg]
      intro hlead
      exact ha ((List.isPrefixOf_iff_prefix.1 hlead).subset hpart)
    rw [splitAround, hdrop, ih fun hmem => ha (List.mem_cons_of_mem x hmem)]
    rfl

/-! ## Joined pieces -/

/-- texts with separators between them have the pieces of all of them -/
theorem splitOn_intercalate_texts {texts : List (List Char)} (hne : texts ≠ []) :
    splitOn (· == c) ([c].intercalate texts) = texts.flatMap (splitOn (· == c)) := by
  induction texts with
  | nil => exact absurd rfl hne
  | cons text rest ih =>
    rw [List.flatMap_cons]
    cases rest with
    | nil => rw [List.intercalate_singleton, List.flatMap_nil, List.append_nil]
    | cons next more =>
      have hsplit : splitOn (· == c) (text ++ c :: [c].intercalate (next :: more)) =
          splitOn (· == c) text ++ splitOn (· == c) ([c].intercalate (next :: more)) :=
        splitOn_append_cons (beq_self_eq_true c)
      rw [List.intercalate_cons_cons, List.append_assoc, List.singleton_append, hsplit,
        ih (List.cons_ne_nil next more)]

theorem splitOn_intercalate {pieces : List (List Char)} (hne : pieces ≠ []) (h : ∀ p ∈ pieces, c ∉ p) :
    splitOn (· == c) ([c].intercalate pieces) = pieces := by
  have hpieces : pieces.map (splitOn (· == c)) = pieces.map ([·]) :=
    List.map_congr_left fun p hp => splitOn_eq_singleton (beq_of_not_mem (h p hp))
  rw [splitOn_intercalate_texts hne, List.flatMap_def, hpieces, ← List.flatMap_def, List.flatMap_singleton']

theorem not_mem_intercalate {s : Char} {pieces : List (List Char)} (hc : c ≠ s) (h : ∀ p ∈ pieces, c ∉ p) :
    c ∉ [s].intercalate pieces := by
  induction pieces with
  | nil => exact List.not_mem_nil
  | cons p rest ih =>
    rw [List.forall_mem_cons] at h
    cases rest with
    | nil =>
      rw [List.intercalate_singleton]
      exact h.1
    | cons p' more =>
      rw [List.intercalate_cons_cons, List.mem_append, List.mem_append, List.mem_singleton]
      rintro ((hp | rfl) | hmore)
      · exact h.1 hp
      · exact hc rfl
      · exact ih h.2 hmore

/-- pieces with separators between them begin with the first piece -/
theorem exists_intercalate_cons (s p : List Char) (pieces : List (List Char)) :
    ∃ more, s.intercalate (p :: pieces) = p ++ more := by
  cases pieces with
  | nil => exact ⟨[], by rw [List.intercalate_singleton, List.append_nil]⟩
  | cons p' rest => exact ⟨_, by rw [List.intercalate_cons_cons, List.append_assoc]⟩

/-! ## Words -/

theorem words_append_cons (hc : isBlank c = true) : words (a ++ c :: b) = words a ++ words b := by
  rw [words, splitOn_append_cons hc, List.filter_append, words, words]

theorem words_cons_of_isBlank (hc : isBlank c = true) : words (c :: cs) = words cs :=
  words_append_cons (a := []) hc

theorem words_eq_singleton (hne : cs ≠ []) (h : ∀ x ∈ cs, isBlank x = false) : words cs = [cs] := by
  rw [words, splitOn_eq_singleton h, List.filter_cons_of_pos (by simpa using hne), List.filter_nil]

theorem words_append_of_allBlank (hb : allBlank b = true) : words (a ++ b) = words a := by
  induction b generalizing a with
  | nil => rw [List.append_nil]
  | cons c rest ih =>
    rw [allBlank, List.all_cons, Bool.and_eq_true] at hb
    have hrest : words rest = [] := ih (a := []) hb.2
    rw [words_append_cons hb.1, hrest, List.append_nil]

theorem words_append_left (ha : allBlank a = true) : words (a ++ b) = words b := by
  induction a with
  | nil => rfl
  | cons c rest ih =>
    rw [allBlank, List.all_cons, Bool.and_eq_true] at ha
    rw [List.cons_append, words_cons_of_isBlank ha.1, ih ha.2]

theorem words_trim (cs : List Char) : words (trim cs) = words cs := by
  obtain ⟨lead, trail, hlead, htrail, hcs⟩ := exists_trim cs
  rw [congrArg words hcs, words_append_of_allBlank htrail, words_append_left hlead]

theorem exists_words_eq_cons (h : allBlank cs = false) : ∃ d word rest, words cs = (d :: word) :: rest := by
  obtain ⟨lead, d, ds, hlead, hd, rfl⟩ := exists_lead h
  rw [words_append_left hlead, words, splitOn, if_neg (by simp [hd])]
  split
  · exact ⟨d, [], [], by simp⟩
  · next piece pieces _ => exact ⟨d, piece, pieces.filter (!·.isEmpty), by simp⟩

/-- empty lines have no words -/
theorem flatMap_words_filter (ls : List Line) : (ls.filter (!·.isEmpty)).flatMap words = ls.flatMap words := by
  induction ls with
  | nil => rfl
  | cons l rest ih => cases l <;> simp [ih, words, splitOn]

/-- a text that is not blank has its words -/
theorem joinWords_singleton (h : allBlank cs = false) : joinWords [cs] = some ([' '].intercalate (words cs)) := by
  obtain ⟨d, word, rest, hwords⟩ := exists_words_eq_cons h
  rw [joinWords, List.flatMap_singleton, hwords]
  cases rest with
  | nil => simp [List.intercalate]
  | cons next rest => simp [List.intercalate]

/-! ## Lines -/

/-- lines as one text, each ended by a line feed -/
def unlines (ls : List Line) : List Char :=
  ls.flatMap (· ++ ['\n'])

theorem splitOn_unlines {ls : List Line} (h : ∀ l ∈ ls, '\n' ∉ l) : splitOn (· == '\n') (unlines ls) = ls ++ [[]] := by
  induction ls with
  | nil => rfl
  | cons l rest ih =>
    rw [List.forall_mem_cons] at h
    have hunlines : unlines (l :: rest) = l ++ '\n' :: unlines rest := by
      rw [unlines, List.flatMap_cons, List.append_assoc]
      rfl
    rw [hunlines, splitOn_append_cons rfl, splitOn_eq_singleton (beq_of_not_mem h.1), ih h.2]
    rfl

theorem lines_unlines {ls : List Line} (h : ∀ l ∈ ls, '\n' ∉ l) : lines (unlines ls) = ls.map dropReturn := by
  rw [lines, splitOn_unlines h]
  simp

theorem lines_eq_singleton (hne : cs ≠ []) (h : '\n' ∉ cs) : lines cs = [cs] := by
  have hpieces : splitOn (· == '\n') cs = [cs] := splitOn_eq_singleton (beq_of_not_mem h)
  rw [lines, hpieces]
  simp [hne]

theorem expandTabs_eq_self (h : '\t' ∉ cs) : expandTabs cs = cs := by
  induction cs with
  | nil => rfl
  | cons c rest ih =>
    rw [List.mem_cons, not_or] at h
    rw [expandTabs, List.flatMap_cons, if_neg (Ne.symm h.1), ← expandTabs, ih h.2]
    rfl

theorem expandTabs_append (a b : List Char) : expandTabs (a ++ b) = expandTabs a ++ expandTabs b :=
  List.flatMap_append

/-- tabs do not end a line, and the spaces for them do not either -/
theorem splitOn_expandTabs (cs : List Char) :
    splitOn (· == '\n') (expandTabs cs) = (splitOn (· == '\n') cs).map expandTabs := by
  induction cs with
  | nil => rfl
  | cons c rest ih =>
    obtain ⟨piece, pieces, hrest⟩ := List.exists_cons_of_ne_nil (splitOn_ne_nil (· == '\n') rest)
    rw [hrest, List.map_cons] at ih
    have hcons : expandTabs (c :: rest) = expandTabs [c] ++ expandTabs rest := expandTabs_append [c] rest
    by_cases hfeed : c = '\n'
    · subst hfeed
      have hleft : expandTabs ('\n' :: rest) = [] ++ '\n' :: expandTabs rest := hcons
      have hright : splitOn (· == '\n') ('\n' :: rest) = [] :: splitOn (· == '\n') rest := rfl
      rw [hleft, splitOn_append_cons rfl, ih, hright, hrest]
      rfl
    · have hpiece : ∀ x ∈ [c], (x == '\n') = false := by simp [hfeed]
      have htabs : ∀ x ∈ expandTabs [c], (x == '\n') = false := by
        by_cases htab : c = '\t'
        · subst htab
          have hspaces : expandTabs ['\t'] = List.replicate 4 ' ' := rfl
          intro x hx
          rw [hspaces] at hx
          rw [List.eq_of_mem_replicate hx]
          rfl
        · have hself : expandTabs [c] = [c] := expandTabs_eq_self fun hmem => htab (List.mem_singleton.1 hmem).symm
          rwa [hself]
      have hright : splitOn (· == '\n') (c :: rest) = (c :: piece) :: pieces := splitOn_append_left hpiece hrest
      rw [hcons, splitOn_append_left htabs ih, hright, List.map_cons, ← expandTabs_append]
      rfl

theorem allBlank_expandTabs (h : allBlank cs = true) : allBlank (expandTabs cs) = true := by
  rw [allBlank, List.all_eq_true] at h ⊢
  intro x hx
  obtain ⟨c, hc, hmem⟩ := List.mem_flatMap.1 hx
  split at hmem
  · have hspace : x = ' ' := by simpa using hmem
    rw [hspace]
    decide
  · rw [List.mem_singleton.1 hmem]
    exact h c hc

theorem allBlank_expandTabs_iff : allBlank (expandTabs cs) = true ↔ allBlank cs = true := by
  refine ⟨fun h => ?_, allBlank_expandTabs⟩
  rw [allBlank, List.all_eq_true] at h ⊢
  intro c hc
  by_cases htab : c = '\t'
  · rw [htab]
    decide
  · exact h c (List.mem_flatMap.2 ⟨c, hc, by simp [htab]⟩)

/-! ### Carriage returns -/

/-- a carriage return that ends a line is one of its blanks -/
theorem exists_dropReturn (l : Line) : ∃ trail, allBlank trail = true ∧ l = dropReturn l ++ trail := by
  rw [dropReturn]
  split
  · next h =>
    obtain ⟨before, rfl⟩ := List.getLast?_eq_some_iff.1 h
    exact ⟨['\r'], by decide, by rw [List.dropLast_concat]⟩
  · exact ⟨[], rfl, (List.append_nil l).symm⟩

end ToolSchema.Text
