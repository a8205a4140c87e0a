/-
Blanks, and what trimming a text does.

A name has no blank in it (`isBlank_of_continuesIdentifier`). Trimming takes blanks away and nothing else
(`exists_trimStart`, `exists_trimEnd`, `exists_trim`); a text that begins and ends with something else stays as it is.
-/
import ToolSchema.Text.Basic
import ToolSchema.Text.Letter

namespace ToolSchema.Text

variable {c : Char} {cs a b : List Char}

/-! ## Blanks and names -/

/-- the codes of a class with finitely many members, range by range -/
def classCodes : List Nat → List Nat
  | first :: next :: changes => List.range' first (next - first) ++ classCodes changes
  | _ => []

theorem toNat_mem_classCodes {changes : List Nat} (hfinite : changes.length % 2 = 0)
    (h : inClass changes c = true) : c.toNat ∈ classCodes changes := by
  match changes with
  | [] => cases h
  | [first] => cases hfinite
  | first :: next :: changes =>
    simp only [inClass, List.takeWhile_cons] at h
    rw [classCodes, List.mem_append, List.mem_range'_1]
    by_cases hfirst : first ≤ c.toNat
    · by_cases hnext : next ≤ c.toNat
      · simp only [hfirst, hnext, decide_true, if_true, List.length_cons, beq_iff_eq] at h
        simp only [List.length_cons] at hfinite
        refine .inr (toNat_mem_classCodes (by omega) ?_)
        simp only [inClass, beq_iff_eq]
        omega
      · exact .inl ⟨hfirst, by omega⟩
    · simp [hfirst] at h

theorem not_continuesIdentifier_of_isBlank (h : isBlank c = true) : continuesIdentifier c = false := by
  have hcodes : ∀ n ∈ classCodes blankChanges, continuesIdentifier (Char.ofNat n) = false := by decide +kernel
  have hc := hcodes c.toNat (toNat_mem_classCodes rfl h)
  rwa [Char.ofNat_toNat] at hc

theorem isBlank_of_continuesIdentifier (h : continuesIdentifier c = true) : isBlank c = false := by
  cases hblank : isBlank c with
  | false => rfl
  | true => rw [not_continuesIdentifier_of_isBlank hblank] at h; cases h

/-- names lack a character that may not stand in one -/
theorem ne_of_continuesIdentifier (h : continuesIdentifier c = true) {x : Char}
    (hx : continuesIdentifier x = false) : c ≠ x := by
  rintro rfl
  rw [h] at hx
  cases hx

theorem continuesIdentifier_of_mem (h : isIdentifier cs = true) (hc : c ∈ cs) : continuesIdentifier c = true := by
  cases cs with
  | nil => cases h
  | cons d ds =>
    rw [isIdentifier, Bool.and_eq_true, List.all_eq_true] at h
    rcases List.mem_cons.1 hc with rfl | hds
    · have hstart := h.1
      rw [startsIdentifier, Bool.or_eq_true] at hstart
      rw [continuesIdentifier, Bool.or_eq_true, Bool.or_eq_true]
      exact hstart.imp .inl id
    · exact h.2 c hds

theorem not_mem_of_isIdentifier (h : isIdentifier cs = true) (hc : continuesIdentifier c = false) : c ∉ cs :=
  fun hmem => ne_of_continuesIdentifier (continuesIdentifier_of_mem h hmem) hc rfl

theorem exists_cons_of_isIdentifier (h : isIdentifier cs = true) : ∃ d ds, cs = d :: ds := by
  cases cs with
  | nil => cases h
  | cons d ds => exact ⟨d, ds, rfl⟩

/-! ## Trimming -/

theorem allBlank_append : allBlank (a ++ b) = (allBlank a && allBlank b) :=
  List.all_append

theorem allBlank_append_right (hb : allBlank b = false) : allBlank (a ++ b) = false := by
  rw [allBlank_append, hb, Bool.and_false]

theorem allBlank_cons_eq_false (h : isBlank c = false) : allBlank (c :: cs) = false := by
  rw [allBlank, List.all_cons, h, Bool.false_and]

theorem trimStart_append (ha : allBlank a = true) : trimStart (a ++ b) = trimStart b :=
  List.dropWhile_append_of_pos (List.all_eq_true.1 ha)

theorem trimStart_cons (h : isBlank c = false) : trimStart (c :: cs) = c :: cs := by
  rw [trimStart, List.dropWhile_cons, if_neg (by simp [h])]

theorem exists_trimStart (cs : List Char) : ∃ lead, allBlank lead = true ∧ cs = lead ++ trimStart cs :=
  ⟨cs.takeWhile isBlank, by simp [allBlank], (List.takeWhile_append_dropWhile).symm⟩

theorem isBlank_of_trimStart_eq_cons (h : trimStart cs = c :: b) : isBlank c = false := by
  have hhead := List.head?_dropWhile_not isBlank cs
  rw [← trimStart, h] at hhead
  simpa using hhead

theorem trimEnd_eq_trimStart_reverse (cs : List Char) : trimEnd cs = (trimStart cs.reverse).reverse := rfl

theorem allBlank_reverse : allBlank cs.reverse = allBlank cs :=
  List.all_reverse

/-- blanks at the end are taken away -/
theorem trimEnd_append_of_allBlank (hb : allBlank b = true) : trimEnd (a ++ b) = trimEnd a := by
  rw [trimEnd_eq_trimStart_reverse, List.reverse_append, trimStart_append (allBlank_reverse.trans hb),
    ← trimEnd_eq_trimStart_reverse]

theorem exists_trimEnd (cs : List Char) : ∃ trail, allBlank trail = true ∧ cs = trimEnd cs ++ trail := by
  obtain ⟨lead, hlead, hcs⟩ := exists_trimStart cs.reverse
  refine ⟨lead.reverse, allBlank_reverse.trans hlead, ?_⟩
  rw [trimEnd_eq_trimStart_reverse, ← List.reverse_append, ← hcs, List.reverse_reverse]

theorem trimEnd_of_allBlank (h : allBlank cs = true) : trimEnd cs = [] :=
  trimEnd_append_of_allBlank (a := []) h

/-- nothing before a text is taken away -/
theorem trimEnd_append (hb : allBlank b = false) : trimEnd (a ++ b) = a ++ trimEnd b := by
  have hreverse : allBlank b.reverse = false := allBlank_reverse.trans hb
  rw [trimEnd_eq_trimStart_reverse, trimEnd_eq_trimStart_reverse, List.reverse_append]
  obtain ⟨lead, hlead, hcs⟩ := exists_trimStart b.reverse
  cases hrest : trimStart b.reverse with
  | nil =>
    rw [hrest, List.append_nil] at hcs
    rw [hcs, hlead] at hreverse
    cases hreverse
  | cons d ds =>
    have hd : isBlank d = false := isBlank_of_trimStart_eq_cons hrest
    rw [hcs, hrest, List.append_assoc, trimStart_append hlead, List.cons_append, trimStart_cons hd]
    simp

theorem allBlank_trimEnd (cs : List Char) : allBlank (trimEnd cs) = allBlank cs := by
  obtain ⟨trail, htrail, hcs⟩ := exists_trimEnd cs
  rw [congrArg allBlank hcs, allBlank_append, htrail, Bool.and_true]

theorem isEmpty_trimEnd (cs : List Char) : (trimEnd cs).isEmpty = allBlank cs := by
  cases hcs : allBlank cs with
  | true => rw [trimEnd_of_allBlank hcs, List.isEmpty_nil]
  | false =>
    rw [← allBlank_trimEnd] at hcs
    cases hend : trimEnd cs with
    | nil =>
      rw [hend] at hcs
      cases hcs
    | cons d ds => rfl

theorem trim_append_of_allBlank (ha : allBlank a = true) : trim (a ++ b) = trim b := by
  rw [trim, trimStart_append ha, trim]

theorem trimEnd_cons (h : isBlank c = false) : trimEnd (c :: cs) = c :: trimEnd cs := by
  cases hcs : allBlank cs with
  | true =>
    have hc : trimEnd [c] = [c] := by
      rw [trimEnd_eq_trimStart_reverse, List.reverse_singleton, trimStart_cons h, List.reverse_singleton]
    have happend : trimEnd ([c] ++ cs) = trimEnd [c] := trimEnd_append_of_allBlank hcs
    rw [trimEnd_of_allBlank hcs, ← hc, ← happend]
    rfl
  | false => exact trimEnd_append (a := [c]) hcs

theorem trim_cons (h : isBlank c = false) : trim (c :: cs) = c :: trimEnd cs := by
  rw [trim, trimStart_cons h, trimEnd_cons h]

theorem exists_trim (cs : List Char) :
    ∃ lead trail, allBlank lead = true ∧ allBlank trail = true ∧ cs = lead ++ trim cs ++ trail := by
  obtain ⟨lead, hlead, hstart⟩ := exists_trimStart cs
  obtain ⟨trail, htrail, hend⟩ := exists_trimEnd (trimStart cs)
  exact ⟨lead, trail, hlead, htrail, by rw [List.append_assoc, trim, ← hend, ← hstart]⟩

theorem mem_of_mem_trim (h : c ∈ trim cs) : c ∈ cs := by
  obtain ⟨lead, trail, -, -, hcs⟩ := exists_trim cs
  rw [hcs]
  exact List.mem_append_left trail (List.mem_append_right lead h)

theorem allBlank_trim (cs : List Char) : allBlank (trim cs) = allBlank cs := by
  obtain ⟨lead, trail, hlead, htrail, hcs⟩ := exists_trim cs
  rw [congrArg allBlank hcs, allBlank_append, allBlank_append, hlead, htrail, Bool.and_true, Bool.true_and]

theorem trimEnd_trimEnd (cs : List Char) : trimEnd (trimEnd cs) = trimEnd cs := by
  obtain ⟨trail, htrail, hcs⟩ := exists_trimEnd cs
  have happend : trimEnd (trimEnd cs ++ trail) = trimEnd (trimEnd cs) := trimEnd_append_of_allBlank htrail
  rw [← happend, ← hcs]

theorem isEmpty_trim (cs : List Char) : (trim cs).isEmpty = allBlank cs :=
  calc (trim cs).isEmpty
    _ = (trimEnd (trim cs)).isEmpty := by rw [trim, trimEnd_trimEnd]
    _ = allBlank (trim cs) := isEmpty_trimEnd (trim cs)
    _ = allBlank cs := allBlank_trim cs

theorem trim_of_allBlank (h : allBlank cs = true) : trim cs = [] := by
  have happend : trim (cs ++ []) = trim [] := trim_append_of_allBlank h
  rwa [List.append_nil] at happend

/-- a text that is not blank begins with blanks and then something -/
theorem exists_lead (h : allBlank cs = false) :
    ∃ lead d ds, allBlank lead = true ∧ isBlank d = false ∧ cs = lead ++ d :: ds := by
  obtain ⟨lead, hlead, hcs⟩ := exists_trimStart cs
  cases hrest : trimStart cs with
  | nil =>
    rw [hrest, List.append_nil] at hcs
    rw [hcs, hlead] at h
    cases h
  | cons d ds =>
    rw [hrest] at hcs
    exact ⟨lead, d, ds, hlead, isBlank_of_trimStart_eq_cons hrest, hcs⟩

theorem exists_trim_eq_cons (h : allBlank cs = false) : ∃ d ds, trim cs = d :: ds ∧ isBlank d = false := by
  obtain ⟨lead, d, ds, hlead, hd, rfl⟩ := exists_lead h
  exact ⟨d, trimEnd ds, by rw [trim_append_of_allBlank hlead, trim_cons hd], hd⟩

theorem trim_trimEnd (cs : List Char) : trim (trimEnd cs) = trim cs := by
  cases h : allBlank cs with
  | true => rw [trimEnd_of_allBlank h, trim_of_allBlank h]; rfl
  | false =>
    obtain ⟨lead, d, ds, hlead, hd, rfl⟩ := exists_lead h
    have hend : trimEnd (lead ++ d :: ds) = lead ++ d :: trimEnd ds := by
      rw [trimEnd_append (allBlank_cons_eq_false hd), trimEnd_cons hd]
    rw [hend, trim_append_of_allBlank hlead, trim_append_of_allBlank hlead, trim_cons hd, trim_cons hd,
      trimEnd_trimEnd]

theorem trim_append_right (hb : allBlank b = true) : trim (a ++ b) = trim a := by
  rw [← trim_trimEnd, trimEnd_append_of_allBlank hb, trim_trimEnd]

/-- a text between blanks, of which those at the end are gone already -/
theorem trim_append_trimEnd (ha : allBlank a = true) (cs : List Char) : trim (a ++ trimEnd cs) = trim cs := by
  rw [trim_append_of_allBlank ha, trim_trimEnd]

theorem trim_trim (cs : List Char) : trim (trim cs) = trim cs := by
  cases h : allBlank cs with
  | true => rw [trim_of_allBlank h]; rfl
  | false =>
    obtain ⟨lead, d, ds, hlead, hd, rfl⟩ := exists_lead h
    rw [trim_append_of_allBlank hlead, trim_cons hd, trim_cons hd, trimEnd_trimEnd]

/-! ## Names in a text -/

theorem trimEnd_eq_self (h : ∀ c ∈ cs, isBlank c = false) : trimEnd cs = cs := by
  obtain ⟨trail, htrail, hcs⟩ := exists_trimEnd cs
  cases trail with
  | nil => rw [List.append_nil] at hcs; exact hcs.symm
  | cons c rest =>
    have hc : isBlank c = false := h c (hcs ▸ List.mem_append_right _ List.mem_cons_self)
    rw [allBlank, List.all_cons, hc] at htrail
    cases htrail

theorem isBlank_of_mem_identifier (h : isIdentifier cs = true) (hc : c ∈ cs) : isBlank c = false :=
  isBlank_of_continuesIdentifier (continuesIdentifier_of_mem h hc)

theorem trim_of_isIdentifier (h : isIdentifier cs = true) : trim cs = cs := by
  have hend : trimEnd cs = cs := trimEnd_eq_self fun c hc => isBlank_of_mem_identifier h hc
  obtain ⟨d, ds, rfl⟩ := exists_cons_of_isIdentifier h
  rw [trim, trimStart_cons (isBlank_of_mem_identifier h List.mem_cons_self), hend]

/-- a name at the start of a text stays, with what comes before the next blanks at the end -/
theorem trim_identifier_append (h : isIdentifier cs = true) (hb : allBlank b = false) :
    trim (cs ++ b) = cs ++ trimEnd b := by
  obtain ⟨d, ds, rfl⟩ := exists_cons_of_isIdentifier h
  rw [List.cons_append, trim_cons (isBlank_of_mem_identifier h List.mem_cons_self), trimEnd_append hb]
  rfl

theorem dropWhile_beq_eq_self (h : c ∉ cs) : cs.dropWhile (· == c) = cs := by
  cases cs with
  | nil => rfl
  | cons d ds =>
    have hd : (d == c) = false := by
      rw [beq_eq_false_iff_ne]
      exact fun heq => h (heq ▸ List.mem_cons_self)
    rw [List.dropWhile_cons, hd]
    rfl

theorem strip_eq_self (h : c ∉ cs) : strip c cs = cs := by
  have hreverse : c ∉ cs.reverse := fun hmem => h (List.mem_reverse.1 hmem)
  rw [strip, dropWhile_beq_eq_self h, dropWhile_beq_eq_self hreverse, List.reverse_reverse]

/-- what is neither a blank nor in a name is not there either if blanks stand around the name -/
theorem not_mem_of_trim_isIdentifier (h : isIdentifier (trim cs) = true) (hblank : isBlank c = false)
    (hc : continuesIdentifier c = false) : c ∉ cs := by
  have hblanks : ∀ bs, allBlank bs = true → c ∉ bs := by
    intro bs hbs hmem
    rw [List.all_eq_true.1 hbs c hmem] at hblank
    cases hblank
  obtain ⟨lead, trail, hlead, htrail, hcs⟩ := exists_trim cs
  rw [hcs]
  exact List.not_mem_append (List.not_mem_append (hblanks lead hlead) (not_mem_of_isIdentifier h hc))
    (hblanks trail htrail)

/-- a name between blanks -/
theorem bareName_eq (htrim : trim a = cs) (h : isIdentifier cs = true) : bareName a = cs := by
  have hquote : '\x60' ∉ cs := not_mem_of_isIdentifier h (by decide)
  have hstar : '*' ∉ cs := not_mem_of_isIdentifier h (by decide)
  rw [bareName, htrim, strip_eq_self hquote, dropWhile_beq_eq_self hstar]

end ToolSchema.Text
