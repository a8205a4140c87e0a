/-
Maps that remember the order in which their keys were first written, as lists of entries.

`put` writes: a key that is present gets the new value where it stands, a new key goes to the end. `List.lookup` reads.
- `lookup_put`: a read sees the last write to its key, and no other write.
- `keys_put`: the order of the keys is the order of their first writes.
- `nodup_put`: writing keeps the keys distinct.
-/
namespace ToolSchema

/-- a map as its entries, oldest key first -/
abbrev Entries (α : Type) := List (String × α)

namespace Entries

variable {α : Type}

/-- write one entry -/
def put (key : String) (value : α) : Entries α → Entries α
  | [] => [(key, value)]
  | (k, v) :: rest => if k = key then (key, value) :: rest else (k, v) :: put key value rest

def keys (entries : Entries α) : List String :=
  entries.map Prod.fst

def has (key : String) (entries : Entries α) : Bool :=
  (entries.lookup key).isSome

/-- the map that a run of writes leaves behind -/
def ofList (writes : List (String × α)) : Entries α :=
  writes.foldl (fun entries e => put e.1 e.2 entries) []

/-! ## Reads after writes -/

theorem lookup_cons_if (k key : String) (value : α) (rest : Entries α) :
    List.lookup k ((key, value) :: rest) = if k = key then some value else rest.lookup k := by
  by_cases h : k = key
  · simp [h]
  · have : (k == key) = false := by simp [h]
    simp [List.lookup_cons, h, this]

theorem lookup_put (key k : String) (value : α) (entries : Entries α) :
    (put key value entries).lookup k = if k = key then some value else entries.lookup k := by
  induction entries with
  | nil => simp [put, lookup_cons_if]
  | cons e rest ih =>
    obtain ⟨k', v'⟩ := e
    by_cases hk : k' = key
    · subst hk
      by_cases h : k = k' <;> simp [put, lookup_cons_if, h]
    · by_cases h : k = k'
      · subst h
        simp [put, hk]
      · simp [put, lookup_cons_if, hk, h, ih]

theorem keys_put (key : String) (value : α) (entries : Entries α) :
    keys (put key value entries) = if key ∈ keys entries then keys entries else keys entries ++ [key] := by
  induction entries with
  | nil => simp [put, keys]
  | cons e rest ih =>
    obtain ⟨k', v'⟩ := e
    by_cases hk : k' = key
    · subst hk
      simp [put, keys]
    · have hk' : ¬ key = k' := fun h => hk h.symm
      simp only [keys] at ih
      simp only [put, hk, if_false, keys, List.map_cons, ih, List.mem_cons, hk', false_or]
      by_cases hm : key ∈ List.map Prod.fst rest <;> simp [hm]

theorem mem_keys_iff_has (key : String) (entries : Entries α) : key ∈ keys entries ↔ has key entries = true := by
  induction entries with
  | nil => simp [keys, has]
  | cons e rest ih =>
    obtain ⟨k', v'⟩ := e
    simp only [keys, has] at ih
    by_cases h : key = k'
    · simp [keys, has, h]
    · simp only [keys, has, lookup_cons_if, h, List.map_cons, List.mem_cons, false_or, if_false, ih]

theorem nodup_put (key : String) (value : α) (entries : Entries α) (h : (keys entries).Nodup) :
    (keys (put key value entries)).Nodup := by
  rw [keys_put]
  split
  · exact h
  · next hk =>
    rw [List.nodup_append]
    refine ⟨h, by simp, ?_⟩
    intro a ha b hb
    simp only [List.mem_singleton] at hb
    subst hb
    exact fun hab => hk (hab ▸ ha)

end Entries

end ToolSchema
