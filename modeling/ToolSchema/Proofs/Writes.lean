/-
Runs of writes to a map.

`putAll` writes one entry after another. What a key reads afterwards is the last that was written to it, or else what it
read before (`lookup_putAll`), so that only the writes to the key itself matter (`lookup_putAll_congr`). The keys are
those before and those written, each where it came first (`eraseDups_keys_put`, `keys_putAll`).
-/
import Mathlib.Data.List.Induction
import ToolSchema.Proofs.Entries

namespace ToolSchema.Entries

variable {α : Type} {key : String} {entries : Entries α} {writes writes' : List (String × α)}

/-- write entries one after another -/
def putAll (entries : Entries α) (writes : List (String × α)) : Entries α :=
  writes.foldl (fun entries e => put e.1 e.2 entries) entries

theorem putAll_cons (entries : Entries α) (e : String × α) (rest : List (String × α)) :
    putAll entries (e :: rest) = putAll (put e.1 e.2 entries) rest := rfl

/-! ## Values -/

/-- **The last write counts.** -/
theorem lookup_putAll (key : String) (entries : Entries α) (writes : List (String × α)) :
    (putAll entries writes).lookup key = (writes.reverse.lookup key).or (entries.lookup key) := by
  induction writes generalizing entries with
  | nil => rfl
  | cons e rest ih =>
    rw [putAll_cons, ih, lookup_put, List.reverse_cons, List.lookup_append, Option.or_assoc, lookup_cons_if]
    split <;> rfl

/-- what is written to other keys is not seen -/
theorem lookup_putAll_congr (h : (writes.filter fun e => e.1 == key) = writes'.filter fun e => e.1 == key) :
    (putAll entries writes).lookup key = (putAll entries writes').lookup key := by
  have honly : ∀ ws : List (String × α),
      ws.reverse.lookup key = (ws.filter fun e => e.1 == key).reverse.lookup key := by
    intro ws
    rw [← List.filter_reverse]
    exact (@lookup_filter α ws.reverse key (· == key) (beq_self_eq_true key)).symm
  rw [lookup_putAll, lookup_putAll, honly writes, honly writes', h]

/-! ## Keys -/

theorem eraseDups_eq_self {names : List String} (h : names.Nodup) : names.eraseDups = names := by
  induction names with
  | nil => rfl
  | cons name rest ih =>
    obtain ⟨hnew, hrest⟩ := List.nodup_cons.1 h
    have hother : (rest.filter fun n => !n == name) = rest := by
      refine List.filter_eq_self.2 fun n hn => ?_
      simpa using fun heq : n = name => hnew (heq ▸ hn)
    rw [List.eraseDups_cons, hother, ih hrest]

theorem eraseDups_concat (names : List String) (name : String) :
    (names ++ [name]).eraseDups = if name ∈ names then names.eraseDups else names.eraseDups ++ [name] := by
  rw [List.eraseDups_append, List.removeAll]
  by_cases hmem : name ∈ names
  · simp [hmem]
  · simp [hmem, List.eraseDups_cons]

theorem eraseDups_filter (keep : String → Bool) (names : List String) :
    (names.filter keep).eraseDups = names.eraseDups.filter keep := by
  induction names using List.reverseRecOn with
  | nil => rfl
  | append_singleton names name ih =>
    rw [List.filter_append, eraseDups_concat, apply_ite (List.filter keep), List.filter_append]
    cases hkeep : keep name with
    | true =>
      have hmem : name ∈ names.filter keep ↔ name ∈ names := by rw [List.mem_filter, hkeep, and_iff_left rfl]
      simp only [List.filter_cons_of_pos hkeep, List.filter_nil, eraseDups_concat, hmem, ih]
    | false =>
      have hdrop : [name].filter keep = [] := List.filter_cons_of_neg (by simp [hkeep])
      rw [hdrop, List.append_nil, List.append_nil, ite_self, ih]

/-- the names of the first list, then the new ones of the second -/
theorem eraseDups_append (names more : List String) :
    (names ++ more).eraseDups =
      names.eraseDups ++ more.eraseDups.filter fun name => !names.eraseDups.contains name := by
  rw [List.eraseDups_append, List.removeAll, eraseDups_filter]
  congr 2
  funext name
  rw [Bool.not_inj_iff, Bool.eq_iff_iff, List.elem_iff, List.contains_iff_mem, List.mem_eraseDups]

/-- after a write, the key stands where it stood or comes next -/
theorem eraseDups_keys_put (key : String) (value : α) (entries : Entries α) (more : List String) :
    (keys (put key value entries) ++ more).eraseDups = (keys entries ++ key :: more).eraseDups := by
  rw [keys_put]
  split
  · next hmem =>
    rw [List.append_cons, eraseDups_append, eraseDups_append _ more, eraseDups_concat, if_pos hmem]
  · rw [List.append_assoc, List.singleton_append]

/-- **The first write gives the place.** -/
theorem keys_putAll (writes : List (String × α)) (hnodup : (keys entries).Nodup) :
    keys (putAll entries writes) = (keys entries ++ writes.map Prod.fst).eraseDups := by
  induction writes generalizing entries with
  | nil => rw [List.map_nil, List.append_nil, eraseDups_eq_self hnodup, putAll, List.foldl_nil]
  | cons e rest ih =>
    rw [putAll_cons, ih (nodup_put e.1 e.2 entries hnodup), eraseDups_keys_put, List.map_cons]

end ToolSchema.Entries
