/-
Equality of scalar values, as the program compares values.

On scalars the comparison is an equivalence: `same_refl`, `same_symm` and `same_trans`. Of lists that are compared item
by item, each item of the second has its counterpart in the first (`exists_same_of_mem_right`).
-/
import ToolSchema.Json.Basic

namespace ToolSchema.Json

/-! ## Numbers -/

theorem Number.same_refl (n : Number) : n.same n = true := by
  cases n <;> simp [same]

theorem Number.same_symm {a b : Number} (h : a.same b = true) : b.same a = true := by
  cases a with
  | int a =>
    cases b with
    | int b =>
      simp only [same, beq_iff_eq] at h ⊢
      exact h.symm
    | float b => simp [same] at h
  | float a =>
    cases b with
    | int b => simp [same] at h
    | float b =>
      simp only [same, Bool.or_eq_true, beq_iff_eq, Bool.and_eq_true] at h ⊢
      exact h.imp Eq.symm And.symm

theorem Number.same_trans {a b c : Number} (hab : a.same b = true) (hbc : b.same c = true) : a.same c = true := by
  cases a with
  | int a =>
    cases b with
    | int b =>
      cases c with
      | int c =>
        simp only [same, beq_iff_eq] at hab hbc ⊢
        exact hab.trans hbc
      | float c => simp [same] at hbc
    | float b => simp [same] at hab
  | float a =>
    cases b with
    | int b => simp [same] at hab
    | float b =>
      cases c with
      | int c => simp [same] at hbc
      | float c =>
        simp only [same, Bool.or_eq_true, beq_iff_eq, Bool.and_eq_true] at hab hbc ⊢
        rcases hab with rfl | hab
        · exact hbc
        · rcases hbc with rfl | hbc
          · exact .inr hab
          · exact .inr ⟨hab.1, hbc.2⟩

/-! ## Scalars -/

variable {u v w : Json}

theorem same_refl (hu : u.isScalar = true) : u.same u = true := by
  cases u with
  | number n => exact Number.same_refl n
  | array items => simp [isScalar] at hu
  | object members => simp [isScalar] at hu
  | _ => simp [same]

/-- what is the same as a scalar is a scalar of its kind -/
theorem same_scalar_cases (hu : u.isScalar = true) (h : u.same v = true) :
    u = v ∨ ∃ a b, u = .number a ∧ v = .number b ∧ a.same b = true := by
  cases u with
  | number a =>
    cases v with
    | number b => exact .inr ⟨a, b, rfl, rfl, by simpa only [same] using h⟩
    | _ => simp [same] at h
  | array items => simp [isScalar] at hu
  | object members => simp [isScalar] at hu
  | null =>
    cases v with
    | null => exact .inl rfl
    | _ => simp [same] at h
  | bool a =>
    cases v with
    | bool b => simpa [same] using h
    | _ => simp [same] at h
  | string a =>
    cases v with
    | string b => simpa [same] using h
    | _ => simp [same] at h

theorem same_symm (hu : u.isScalar = true) (h : u.same v = true) : v.same u = true := by
  rcases same_scalar_cases hu h with rfl | ⟨a, b, rfl, rfl, hab⟩
  · exact h
  · simpa only [same] using Number.same_symm hab

theorem same_trans (hu : u.isScalar = true) (huv : u.same v = true) (hvw : v.same w = true) : u.same w = true := by
  rcases same_scalar_cases hu huv with rfl | ⟨a, b, rfl, rfl, hab⟩
  · exact hvw
  · rcases same_scalar_cases rfl hvw with rfl | ⟨b', c, hb, rfl, hbc⟩
    · exact huv
    · cases hb
      simpa only [same] using Number.same_trans hab hbc

/-! ## Items -/

theorem exists_same_of_mem_right {as bs : List Json} (h : sameItems as bs = true) {b : Json} (hb : b ∈ bs) :
    ∃ a ∈ as, a.same b = true := by
  induction as generalizing bs with
  | nil =>
    cases bs with
    | nil => simp at hb
    | cons b' bs => simp [sameItems] at h
  | cons a as ih =>
    cases bs with
    | nil => simp at hb
    | cons b' bs =>
      simp only [sameItems, Bool.and_eq_true] at h
      rcases List.mem_cons.1 hb with rfl | hb
      · exact ⟨a, List.mem_cons_self, h.1⟩
      · obtain ⟨a', ha', hsame⟩ := ih h.2 hb
        exact ⟨a', List.mem_cons_of_mem a ha', hsame⟩

end ToolSchema.Json
