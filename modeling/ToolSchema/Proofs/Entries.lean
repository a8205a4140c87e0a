/-
Entry lists read by membership.

`List.lookup` finds an entry of the list (`mem_of_lookup`), and where keys are distinct it finds each of them
(`lookup_of_mem`). Written key by key, such a list is itself (`ofList_eq_self`). The entries of some of the keys are
read and written as in the whole list (`lookup_filter`, `filter_put`).
-/
import ToolSchema.Entries

namespace ToolSchema.Entries

variable {α : Type} {entries : Entries α} {key : String} {value : α}

theorem mem_of_lookup (h : entries.lookup key = some value) : (key, value) ∈ entries := by
  obtain ⟨before, after, rfl, -⟩ := List.lookup_eq_some_iff.1 h
  simp

theorem has_of_mem {e : String × α} (h : e ∈ entries) : has e.1 entries = true := by
  rw [← mem_keys_iff_has]
  exact List.mem_map_of_mem h

theorem exists_mem_of_has (h : has key entries = true) : ∃ value, (key, value) ∈ entries := by
  obtain ⟨value, hvalue⟩ := Option.isSome_iff_exists.1 h
  exact ⟨value, mem_of_lookup hvalue⟩

theorem lookup_of_mem (hnodup : (keys entries).Nodup) (h : (key, value) ∈ entries) :
    entries.lookup key = some value := by
  induction entries with
  | nil => simp at h
  | cons e rest ih =>
    obtain ⟨k, v⟩ := e
    simp only [keys, List.map_cons, List.nodup_cons] at hnodup
    rw [lookup_cons_if]
    rcases List.mem_cons.1 h with heq | hmem
    · cases heq
      rw [if_pos rfl]
    · have hne : key ≠ k := fun heq => hnodup.1 (heq ▸ List.mem_map_of_mem hmem)
      rw [if_neg hne, ih hnodup.2 hmem]

theorem lookup_eq_none_of_not_mem (h : key ∉ keys entries) : entries.lookup key = none := by
  rw [mem_keys_iff_has, has, Bool.not_eq_true, Option.isSome_eq_false_iff, Option.isNone_iff_eq_none] at h
  exact h

/-- a map whose values are determined by their keys -/
theorem eq_map_keys {f : String → α} (h : ∀ e ∈ entries, e.2 = f e.1) :
    entries = (keys entries).map fun key => (key, f key) := by
  induction entries with
  | nil => rfl
  | cons e rest ih =>
    rw [List.forall_mem_cons] at h
    rw [keys, List.map_cons, List.map_cons, ← keys, ← ih h.2, ← h.1]

/-- a new key goes to the end -/
theorem put_of_not_mem (h : key ∉ keys entries) : put key value entries = entries ++ [(key, value)] := by
  induction entries with
  | nil => rfl
  | cons e rest ih =>
    obtain ⟨k, v⟩ := e
    rw [keys, List.map_cons, List.mem_cons, not_or] at h
    rw [put, if_neg (Ne.symm h.1), ih h.2, List.cons_append]

theorem eq_or_mem_of_mem_put {e : String × α} (h : e ∈ put key value entries) : e = (key, value) ∨ e ∈ entries := by
  induction entries with
  | nil => exact .inl (List.mem_singleton.1 h)
  | cons first rest ih =>
    obtain ⟨k, v⟩ := first
    rw [put] at h
    split at h
    · exact (List.mem_cons.1 h).imp_right (List.mem_cons_of_mem _)
    · rcases List.mem_cons.1 h with rfl | h
      · exact .inr List.mem_cons_self
      · exact (ih h).imp_right (List.mem_cons_of_mem _)

/-- writes to different keys all stay, in their order -/
theorem ofList_eq_self {writes : List (String × α)} (h : (keys writes).Nodup) : ofList writes = writes := by
  have happend : ∀ before : Entries α, (keys (before ++ writes)).Nodup →
      writes.foldl (fun entries e => put e.1 e.2 entries) before = before ++ writes := by
    clear h
    induction writes with
    | nil =>
      intro before _
      exact (List.append_nil before).symm
    | cons e rest ih =>
      intro before hnodup
      have hnew : e.1 ∉ keys before := by
        intro hmem
        rw [keys, List.map_append, List.nodup_append] at hnodup
        exact hnodup.2.2 _ hmem _ List.mem_cons_self rfl
      rw [List.append_cons] at hnodup
      rw [List.foldl_cons, put_of_not_mem hnew, ih (before ++ [e]) hnodup, ← List.append_cons]
  exact happend [] h

/-! ## Some of the keys -/

variable {keep : String → Bool}

theorem lookup_filter (h : keep key = true) : (entries.filter fun e => keep e.1).lookup key = entries.lookup key := by
  induction entries with
  | nil => rfl
  | cons e rest ih =>
    obtain ⟨k, v⟩ := e
    by_cases hk : keep k = true
    · rw [List.filter_cons, if_pos hk, lookup_cons_if, lookup_cons_if, ih]
    · have hne : key ≠ k := by
        rintro rfl
        exact hk h
      rw [List.filter_cons, if_neg hk, lookup_cons_if, if_neg hne, ih]

/-- a write to a key that is kept is seen, one to any other key is not -/
theorem filter_put : (put key value entries).filter (fun e => keep e.1) =
    if keep key then put key value (entries.filter fun e => keep e.1) else entries.filter fun e => keep e.1 := by
  induction entries with
  | nil => cases hkey : keep key <;> simp [put, hkey]
  | cons e rest ih =>
    obtain ⟨k, v⟩ := e
    by_cases hk : k = key
    · subst hk
      cases hkey : keep k <;> simp [put, hkey]
    · rw [put, if_neg hk, List.filter_cons, ih, List.filter_cons]
      cases keep k <;> cases keep key <;> simp [put, hk]

end ToolSchema.Entries
