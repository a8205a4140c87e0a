/-
The registrations that resolution depends on.

A hint meets the names that stand in it, and those that the hints registered under them meet in turn (`Meets`). The set
of these names is the least one that takes in the names of the hint and is closed under looking up
(`Meets.mem_of_closed`). Resolution looks up no other name:
- `resolve_eq_of_agree`: two registries that give the same hint to each name that is met, or none, resolve alike.
- `resolve_registered`: so do two runs of registrations that end there, however they come to it. A name that is not met
  may be registered at any time, and registrations under different names may change places.
-/
import ToolSchema.Proofs.Hint.Replace
import ToolSchema.Proofs.Resolve.Guarded
import ToolSchema.Proofs.Writes

namespace ToolSchema

variable {r r' : Registry} {h : Hint} {name : String}

/-- a set of names that has those of the hint, and with a name those of its registered hint, has all that are met -/
theorem Meets.mem_of_closed {S : Set String} (hmeets : Meets r (.named name) h) (hstart : ∀ n ∈ h.names, n ∈ S)
    (hclosed : ∀ n ∈ S, ∀ hint, r.get? n = some hint → ∀ m ∈ hint.names, m ∈ S) : name ∈ S := by
  induction hmeets with
  | self => exact hstart name (List.mem_singleton_self name)
  | item _ ih => exact ih hstart
  | key _ ih => exact ih fun n hn => hstart n (List.mem_append_left _ hn)
  | value _ ih => exact ih fun n hn => hstart n (List.mem_append_right _ hn)
  | inner _ ih => exact ih hstart
  | member hm _ ih => exact ih fun n hn => hstart n (Hint.names_subset_of_mem_union hm hn)
  | field hf _ ih => exact ih fun n hn => hstart n (Hint.names_subset_of_mem_fields hf hn)
  | @reference n hint hget _ ih => exact ih (hclosed n (hstart n (List.mem_singleton_self n)) hint hget)

/-! ## Two registries -/

/-- **Only names that are met are looked up.** Two registries that agree on them resolve the hint alike, with the same
diagnostics, whatever is under expansion. -/
theorem resolve_eq_of_agree (r r' : Registry) (seen : List String) (h : Hint)
    (hagree : ∀ name, Meets r (.named name) h → r.get? name = r'.get? name) : resolve r seen h = resolve r' seen h := by
  -- the induction is on the names that the first registry has yet to expand; the second goes along
  induction seen, h using Guarded.induct r with
  | step seen h fresher smaller under =>
  have hmember : ∀ {m}, m ∈ h.members → ∀ name, Meets r (.named name) m → r.get? name = r'.get? name := by
    intro m hm name hname
    obtain hnull | hwhole := hname.of_member hm
    · cases hnull
    · exact hagree name hwhole
  cases h with
  | array item =>
    cases item with
    | none => rw [resolve, resolve]
    | some item =>
      have hitem := smaller item (Hint.weight_item_lt item) fun name hname => hagree name (.item hname)
      rw [resolve, resolve, hitem]
  | map key value =>
    cases value with
    | none => rw [resolve, resolve]
    | some value =>
      have hvalue := smaller value (Hint.weight_value_lt key value) fun name hname => hagree name (.value hname)
      rw [resolve_map, resolve_map, hvalue]
  | optional inner =>
    rw [resolve, resolve]
    exact resolveUnion_congr fun m hm => smaller m (Hint.weight_lt_of_mem_optional hm) (hmember hm)
  | union hints =>
    rw [resolve, resolve]
    exact resolveUnion_congr fun m hm => smaller m (Hint.weight_lt_of_mem_union hm) (hmember hm)
  | record record =>
    rcases record.open_or_seen seen with hopen | ⟨own, hname, hseen⟩
    · rw [resolve_record hopen, resolve_record hopen]
      refine resolveFields_congr _ fun f hf => under record.name f.hint (Hint.weight_field_lt hf) ?_
      exact fun name hname => hagree name (.field hf hname)
    · rw [resolve_record_of_mem hname hseen, resolve_record_of_mem hname hseen]
  | named name =>
    by_cases hseen : name ∈ seen
    · rw [resolve_named_of_mem hseen, resolve_named_of_mem hseen]
    · have hsame : r.get? name = r'.get? name := hagree name .self
      cases hget : r.get? name with
      | none =>
        rw [resolve_named_of_unregistered hseen hget, resolve_named_of_unregistered hseen (hsame ▸ hget)]
      | some hint =>
        have hexpand := fresher name (Registry.mem_names_of_get? hget) hseen
        have hbehind : ∀ n, Meets r (.named n) hint → r.get? n = r'.get? n :=
          fun n hn => hagree n (.reference hget hn)
        rw [resolve_named hseen hget, resolve_named hseen (hsame ▸ hget)]
        cases hrecord : hint.recordOf? name with
        | none => exact hexpand hint hbehind
        | some record =>
          rw [Hint.eq_record_of_recordOf? hrecord] at hbehind
          exact resolveFields_congr _ fun f hf => hexpand f.hint fun n hn => hbehind n (.field hf hn)
  | _ => rw [resolve, resolve]

/-! ## Runs of registrations -/

namespace Registry

/-- the registry that a run of registrations leaves behind -/
def registered (registrations : List (String × Hint)) : Registry :=
  (Registry.empty.registerAll registrations).value

theorem registerAll_value (r : Registry) (registrations : List (String × Hint)) :
    (r.registerAll registrations).value = ⟨r.types.putAll registrations⟩ := by
  induction registrations generalizing r with
  | nil => rfl
  | cons e rest ih =>
    obtain ⟨name, hint⟩ := e
    rw [registerAll, Traced.bind_value, register_value, ih]
    rfl

/-- the hint that was registered last -/
theorem get?_registered (name : String) (registrations : List (String × Hint)) :
    (registered registrations).get? name = registrations.reverse.lookup name := by
  rw [registered, registerAll_value, get?, Entries.lookup_putAll]
  exact Option.or_none

/-- what is registered under other names does not matter to a name -/
theorem get?_registered_congr {es es' : List (String × Hint)}
    (h : (es.filter fun e => e.1 == name) = es'.filter fun e => e.1 == name) :
    (registered es).get? name = (registered es').get? name := by
  rw [registered, registered, registerAll_value, registerAll_value]
  exact Entries.lookup_putAll_congr h

end Registry

open Registry

/-- **Resolution depends on what the hint can reach.** Two runs of registrations resolve the hint alike, with the same
diagnostics, if they end with the same hint, or none, for each name that the hint meets. So it makes no difference
- to register, at any time, a name that the hint does not meet after all;
- to register in another order, as long as each name gets its hints in the same order. -/
theorem resolve_registered (seen : List String) (h : Hint) (es : List (String × Hint)) :
    (∀ es', (∀ name, Meets (registered es) (.named name) h →
        (registered es).get? name = (registered es').get? name) →
      resolve (registered es) seen h = resolve (registered es') seen h) ∧
    (∀ before after name hint, before ++ after = es → ¬ Meets (registered es) (.named name) h →
      resolve (registered es) seen h = resolve (registered (before ++ (name, hint) :: after)) seen h) ∧
    ∀ es', (∀ name, (es.filter fun e => e.1 == name) = es'.filter fun e => e.1 == name) →
      resolve (registered es) seen h = resolve (registered es') seen h := by
  refine ⟨fun es' hagree => ?_, fun before after name hint hes hnot => ?_, fun es' hsame => ?_⟩
  · exact resolve_eq_of_agree _ _ seen h hagree
  · refine resolve_eq_of_agree _ _ seen h fun n hn => get?_registered_congr ?_
    have hne : (name == n) = false := beq_false_of_ne fun heq => hnot (heq ▸ hn)
    rw [← hes, List.filter_append, List.filter_append, List.filter_cons, hne, if_neg Bool.false_ne_true]
  · exact resolve_eq_of_agree _ _ seen h fun n _ => get?_registered_congr (hsame n)

/-- a tree, registered once, and a leaf -/
def treeAndLeaf : List (String × Hint) :=
  [("Leaf", .string), ("Tree", .record ⟨some "Tree", [⟨"children", .array (some (.named "Tree")), true⟩], false⟩)]

/-- a tree that replaces an earlier one, and two other types, one of them as long as it is needed -/
def treeAmongOthers : List (String × Hint) :=
  [("Tree", .any), ("Leaf", .integer),
    ("Tree", .record ⟨some "Tree", [⟨"children", .array (some (.named "Tree")), true⟩], false⟩), ("Bark", .boolean)]

theorem meets_tree {name : String} (hmeets : Meets (registered treeAndLeaf) (.named name) (.named "Tree")) :
    name = "Tree" := by
  refine hmeets.mem_of_closed (S := {"Tree"}) ?_ ?_
  · simp [Hint.names]
  · rintro n rfl hint hget
    rw [get?_registered] at hget
    cases hget
    simp [Hint.names, Hint.fieldNames, Hint.optionNames]

/-- a tree is the same whatever its leaves are, where it comes among other types and what it was before -/
theorem resolve_registered_tree :
    ¬ Meets (registered treeAndLeaf) (.named "Leaf") (.named "Tree") ∧
    resolve (registered treeAndLeaf) [] (.named "Tree") = resolve (registered treeAmongOthers) [] (.named "Tree") ∧
    resolve (registered treeAndLeaf) [] (.named "Tree") =
      resolve (registered (treeAndLeaf ++ [("Leaf", .number)])) [] (.named "Tree") ∧
    resolve (registered treeAndLeaf) [] (.named "Tree") = resolve (registered treeAndLeaf.reverse) [] (.named "Tree") := by
  obtain ⟨hfinal, hunmet, horder⟩ := resolve_registered [] (.named "Tree") treeAndLeaf
  have hleaf : ¬ Meets (registered treeAndLeaf) (.named "Leaf") (.named "Tree") := fun hmeets =>
    absurd (meets_tree hmeets) (by decide)
  refine ⟨hleaf, hfinal _ fun name hmeets => ?_, hunmet treeAndLeaf [] "Leaf" .number rfl hleaf, horder _ fun name => ?_⟩
  · rw [meets_tree hmeets, get?_registered, get?_registered]
    rfl
  · by_cases hname : "Leaf" = name
    · subst hname
      rfl
    · simp [treeAndLeaf, List.filter_cons, hname]

end ToolSchema
