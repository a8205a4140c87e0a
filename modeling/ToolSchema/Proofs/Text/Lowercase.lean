/-
The lower case of a text is settled: taking lower case again changes nothing.

A character is settled if it is its own lower case, and what `lower` gives is settled (`lower_of_mem_lower`). That the
images of a run are no capitals is read off the bounds of the runs (`CaseRun.covers_of_apart`), and one check of the
table shows it of all of them (`images_apart`). A capital sigma is not settled, so that a settled text has none, and
none of its letters looks at its neighbours any more (`lowerFrom_eq_self`).
- `lowercase_lowercase`: lower case is idempotent.
-/
import Mathlib
import ToolSchema.Text.Lowercase

namespace ToolSchema.Text

/-! ## Runs -/

theorem CaseRun.covers_iff {run : CaseRun} {n : Nat} :
    run.covers n = true ↔ run.first ≤ n ∧ n ≤ run.last ∧ run.step ∣ n - run.first := by
  simp [CaseRun.covers, and_assoc, Nat.dvd_iff_mod_eq_zero]

/-- the characters that a run maps to, as a run that leads back -/
def CaseRun.image (run : CaseRun) : CaseRun :=
  ⟨(run.first + run.offset).toNat, (run.last + run.offset).toNat, run.step, -run.offset⟩

theorem CaseRun.covers_image {run : CaseRun} {n m : Nat} (hvalid : 0 ≤ run.first + run.offset)
    (hn : run.covers n = true) (hm : (m : Int) = n + run.offset) : run.image.covers m = true := by
  obtain ⟨hfirst, hlast, hstep⟩ := covers_iff.1 hn
  have hplace : m - (run.first + run.offset).toNat = n - run.first := by omega
  exact covers_iff.2 ⟨by simp only [image]; omega, by simp only [image]; omega, by rwa [image, hplace]⟩

/-- The bounds of two runs show that they share no character: one ends before the other begins, or both go by twos and
the first goes through the gaps of the second. -/
def CaseRun.apart (run other : CaseRun) : Bool :=
  run.last.blt other.first || other.last.blt run.first ||
    ((run.step % 2 == 0 || run.first == run.last) && other.step % 2 == 0 && (run.first + other.first) % 2 == 1)

theorem CaseRun.covers_of_apart {run other : CaseRun} {n : Nat} (h : run.apart other = true)
    (hn : run.covers n = true) : other.covers n = false := by
  rw [Bool.eq_false_iff]
  intro hother
  obtain ⟨hfirst, hlast, hstep⟩ := covers_iff.1 hn
  obtain ⟨hfirst', hlast', hstep'⟩ := covers_iff.1 hother
  simp only [apart, Bool.or_eq_true, Bool.and_eq_true, Nat.blt_eq, beq_iff_eq] at h
  obtain (hbelow | habove) | ⟨⟨heven, heven'⟩, hodd⟩ := h
  · omega
  · omega
  · -- a common place would be an even number of places after both beginnings
    have hn2 : 2 ∣ n - run.first := by
      obtain heven | hone := heven
      · exact (Nat.dvd_of_mod_eq_zero heven).trans hstep
      · omega
    have hn2' : 2 ∣ n - other.first := (Nat.dvd_of_mod_eq_zero heven').trans hstep'
    omega

/-- the runs of all characters that are not settled -/
def capitals : List CaseRun :=
  ⟨0x41, 0x5A, 1, 32⟩ :: ⟨0x130, 0x130, 1, -199⟩ :: caseRuns

theorem images_valid : (caseRuns.all fun run => 0 ≤ run.first + run.offset) = true := by
  decide +kernel

set_option maxRecDepth 100000 in
theorem images_apart : (caseRuns.all fun run => capitals.all run.image.apart) = true := by
  decide +kernel

/-! ## Characters -/

theorem isUpper_iff {c : Char} : c.isUpper = true ↔ 0x41 ≤ c.toNat ∧ c.toNat ≤ 0x5A := by
  simp [Char.isUpper, UInt32.le_iff_toNat_le]

theorem toLower_toLower (c : Char) : c.toLower.toLower = c.toLower :=
  Char.toLower_eq_of_not_isUpper (by simp)

theorem toNat_toLower_lt {c : Char} (h : c.toNat < 128) : c.toLower.toNat < 128 := by
  by_cases hupper : c.isUpper
  · have hle := (isUpper_iff.1 hupper).2
    rw [Char.toLower_eq_of_isUpper hupper, Char.toNat_ofNat]
    split <;> omega
  · rwa [Char.toLower_eq_of_not_isUpper hupper]

theorem lower_eq_self {c : Char} (h : ∀ run ∈ capitals, run.covers c.toNat = false) : lower c = [c] := by
  have hupper : ¬c.isUpper := fun hupper => by
    have hcovers : CaseRun.covers ⟨0x41, 0x5A, 1, 32⟩ c.toNat = true := by
      simpa [CaseRun.covers_iff] using isUpper_iff.1 hupper
    exact absurd hcovers (by simp [h ⟨0x41, 0x5A, 1, 32⟩ (by simp [capitals])])
  have hdotted : c ≠ '\u0130' := by
    rintro rfl
    exact absurd (h ⟨0x130, 0x130, 1, -199⟩ (by simp [capitals])) (by decide)
  have hnone : caseRuns.find? (·.covers c.toNat) = none :=
    List.find?_eq_none.2 fun run hrun => by simp [h run (by simp [capitals, hrun])]
  simp only [lower, if_neg hdotted, hnone, Char.toLower_eq_of_not_isUpper hupper, ite_self]

/-- A code that is no character gives the null character. -/
theorem toNat_ofNat_toNat (k : Int) : ((Char.ofNat k.toNat).toNat : Int) = k ∨ Char.ofNat k.toNat = '\x00' := by
  by_cases hvalid : k.toNat.isValidChar
  · obtain hneg | hpos := Int.lt_or_le k 0
    · right
      rw [Int.toNat_of_nonpos hneg.le]
    · left
      rw [Char.toNat_ofNat, if_pos hvalid, Int.toNat_of_nonneg hpos]
  · right
    rw [Char.ofNat, dif_neg hvalid]
    rfl

/-- the lower case that a run of the table gives is settled -/
theorem lower_image {run : CaseRun} {n : Nat} (hrun : run ∈ caseRuns) (hn : run.covers n = true) :
    lower (Char.ofNat (n + run.offset).toNat) = [Char.ofNat (n + run.offset).toNat] := by
  obtain hplace | hnull := toNat_ofNat_toNat (n + run.offset)
  · have hvalid : 0 ≤ run.first + run.offset := of_decide_eq_true (List.all_eq_true.1 images_valid run hrun)
    have hapart := List.all_eq_true.1 (List.all_eq_true.1 images_apart run hrun)
    exact lower_eq_self fun other hother =>
      CaseRun.covers_of_apart (hapart other hother) (CaseRun.covers_image hvalid hn hplace)
  · rw [hnull]
    decide +kernel

/-- **What `lower` gives is settled.** -/
theorem lower_of_mem_lower {c d : Char} (h : d ∈ lower c) : lower d = [d] := by
  by_cases hascii : c.toNat < 128
  · rw [lower, if_pos hascii, List.mem_singleton] at h
    rw [h, lower, if_pos (toNat_toLower_lt hascii), toLower_toLower]
  by_cases hdotted : c = '\u0130'
  · rw [lower, if_neg hascii, if_pos hdotted] at h
    obtain rfl | rfl : d = 'i' ∨ d = '\u0307' := by simpa using h
    · decide +kernel
    · decide +kernel
  cases hfind : caseRuns.find? (·.covers c.toNat) with
  | some run =>
    rw [lower, if_neg hascii, if_neg hdotted, hfind, List.mem_singleton] at h
    rw [h]
    exact lower_image (List.mem_of_find?_eq_some hfind) (List.find?_some hfind :)
  | none =>
    have hself : lower c = [c] := by rw [lower, if_neg hascii, if_neg hdotted, hfind]
    rw [hself, List.mem_singleton] at h
    rw [h, hself]

/-! ## Texts -/

theorem ne_sigma_of_lower_eq_self {c : Char} (h : lower c = [c]) : c ≠ 'Σ' := by
  rintro rfl
  exact absurd h (by decide +kernel)

theorem lower_of_mem_lowerFrom {d : Char} {before cs : List Char} (h : d ∈ lowerFrom before cs) : lower d = [d] := by
  induction cs generalizing before with
  | nil => simp [lowerFrom] at h
  | cons c after ih =>
    rw [lowerFrom, List.mem_append] at h
    obtain hhere | hafter := h
    · split at hhere
      · -- a sigma gives one of its two small forms
        obtain rfl | rfl : d = 'σ' ∨ d = 'ς' := by
          split at hhere <;> simp_all
        · decide +kernel
        · decide +kernel
      · exact lower_of_mem_lower hhere
    · exact ih hafter

theorem lowerFrom_eq_self {before cs : List Char} (h : ∀ c ∈ cs, lower c = [c]) : lowerFrom before cs = cs := by
  induction cs generalizing before with
  | nil => rfl
  | cons c after ih =>
    obtain ⟨hc, hafter⟩ := List.forall_mem_cons.1 h
    rw [lowerFrom, if_neg (ne_sigma_of_lower_eq_self hc), hc, ih hafter, List.singleton_append]

/-- **Lower case is idempotent.** -/
@[simp]
theorem lowercase_lowercase (s : String) : lowercase (lowercase s) = lowercase s := by
  rw [lowercase, lowercase, String.toList_ofList, lowerFrom_eq_self fun _ => lower_of_mem_lowerFrom]

end ToolSchema.Text
