/-
How deep a resolved type can be.

`Hint.depth` and `Descriptor.depth` count how types are nested. Resolution puts registered hints in the place of names,
so its result may be deeper than the hint, but no name is expanded inside of its own expansion:
- `handsDown_once`: on the way to any hint that resolution comes to, each registered name is gone through once at most.
- `depth_resolveUnion_le`, `depth_resolveFields_le`: a union and an object are one level deeper than their parts.
- `depth_add_depthBeyond_le`: an expansion uses up the depth of its hint, out of what the names not yet under expansion
  have to give (`Registry.depthBeyond`); `depth_resolve_named_le` is the step for a name.
- `depth_resolve_le`: so the depth of the result is bounded by that of the hint and of these registered hints together.
-/
import Mathlib.Algebra.Order.BigOperators.Group.List
import Mathlib.Algebra.Order.Ring.Nat
import ToolSchema.Proofs.Resolve.Watched

namespace ToolSchema

/-! ## Depth of hints -/

namespace Hint

mutual

/-- The levels of a hint. A name is one level, whatever it stands for; a list without element type is a list of
anything. -/
def depth : Hint → Nat
  | .array none => 2
  | .array (some item) => depth item + 1
  | .map _ (some value) => depth value + 1
  | .optional inner => depth inner + 1
  | .union members => depthAll members + 1
  | .record ⟨_, fields, _⟩ => depthFields fields + 1
  | _ => 1

def depthAll : List Hint → Nat
  | [] => 0
  | h :: rest => max (depth h) (depthAll rest)

def depthFields : List (Field Hint) → Nat
  | [] => 0
  | f :: rest => max (depth f.hint) (depthFields rest)

end

variable {h m : Hint}

theorem depth_pos (h : Hint) : 0 < h.depth := by
  cases h with
  | array item => cases item <;> simp [depth]
  | map key value => cases value <;> simp [depth]
  | record record =>
    obtain ⟨name, fields, closed⟩ := record
    exact Nat.succ_pos _
  | _ => simp [depth]

theorem depth_le_of_mem_fields {f : Field Hint} {fields : List (Field Hint)} (hf : f ∈ fields) :
    f.hint.depth ≤ depthFields fields := by
  induction fields with
  | nil => cases hf
  | cons g rest ih =>
    rw [depthFields]
    rcases List.mem_cons.1 hf with rfl | hf
    · exact Nat.le_max_left _ _
    · exact Nat.le_trans (ih hf) (Nat.le_max_right _ _)

mutual

/-- flattening a union makes no member deeper -/
theorem depth_le_of_mem_members {h m : Hint} (hm : m ∈ h.members) : m.depth ≤ h.depth := by
  cases h with
  | optional inner =>
    rw [members, List.mem_append, List.mem_singleton] at hm
    rw [depth]
    rcases hm with hm | rfl
    · exact Nat.le_succ_of_le (depth_le_of_mem_members hm)
    · exact Nat.le_succ_of_le inner.depth_pos
  | union hints =>
    rw [depth]
    exact Nat.le_succ_of_le (depth_le_of_mem_allMembers hm)
  | _ =>
    rw [List.mem_singleton.1 hm]

theorem depth_le_of_mem_allMembers {hints : List Hint} {m : Hint} (hm : m ∈ allMembers hints) :
    m.depth ≤ depthAll hints := by
  cases hints with
  | nil => cases hm
  | cons h rest =>
    rw [depthAll]
    rcases List.mem_append.1 hm with hm | hm
    · exact Nat.le_trans (depth_le_of_mem_members hm) (Nat.le_max_left _ _)
    · exact Nat.le_trans (depth_le_of_mem_allMembers hm) (Nat.le_max_right _ _)

end

theorem depth_le_of_mem_optional {inner : Hint} (hm : m ∈ (optional inner).members) : m.depth ≤ inner.depth := by
  rw [members, List.mem_append, List.mem_singleton] at hm
  rcases hm with hm | rfl
  · exact depth_le_of_mem_members hm
  · exact inner.depth_pos

end Hint

/-! ## Depth of types -/

namespace Descriptor

mutual

/-- the levels of a type -/
def depth : Descriptor → Nat
  | .array item => depth item + 1
  | .object ⟨properties, _, additional⟩ => max (depthProperties properties) (depthAdditional additional) + 1
  | .union variants => depthAll variants + 1
  | _ => 1

def depthAll : List Descriptor → Nat
  | [] => 0
  | d :: rest => max (depth d) (depthAll rest)

def depthProperties : List (String × Descriptor) → Nat
  | [] => 0
  | (_, d) :: rest => max (depth d) (depthProperties rest)

def depthAdditional : Additional Descriptor → Nat
  | .values type => depth type
  | _ => 0

end

variable {d x : Descriptor} {members variants : List Descriptor} {shape : Shape Descriptor} {n : Nat}

theorem depthAll_le_iff : depthAll members ≤ n ↔ ∀ d ∈ members, d.depth ≤ n := by
  induction members with
  | nil => simp [depthAll]
  | cons d rest ih => rw [depthAll, Nat.max_le, ih, List.forall_mem_cons]

theorem depthProperties_le_iff {properties : List (String × Descriptor)} :
    depthProperties properties ≤ n ↔ ∀ p ∈ properties, p.2.depth ≤ n := by
  induction properties with
  | nil => simp [depthProperties]
  | cons p rest ih => rw [depthProperties, Nat.max_le, ih, List.forall_mem_cons]

theorem depth_union_le_iff : (union variants).depth ≤ n + 1 ↔ ∀ d ∈ variants, d.depth ≤ n := by
  rw [depth, Nat.add_le_add_iff_right, depthAll_le_iff]

theorem depth_object_le_iff : (object shape).depth ≤ n + 1 ↔
    (∀ p ∈ shape.properties, p.2.depth ≤ n) ∧ ∀ type, shape.additional = .values type → type.depth ≤ n := by
  obtain ⟨properties, required, additional⟩ := shape
  rw [depth, Nat.add_le_add_iff_right, Nat.max_le, depthProperties_le_iff]
  cases additional <;> simp [depthAdditional]

theorem depth_le_of_mem_variants (hx : x ∈ d.variants) : x.depth ≤ d.depth := by
  cases d with
  | union vs => exact Nat.le_succ_of_le (depthAll_le_iff.1 (Nat.le_refl _) x hx)
  | _ => rw [List.mem_singleton.1 hx]

/-- a union is one level deeper than its members at most -/
theorem depth_ofVariants_le (h : ∀ d ∈ members, d.depth ≤ n) : (ofVariants members).depth ≤ n + 1 := by
  have hvariant : ∀ x ∈ distinctVariants members, x.depth ≤ n := by
    intro x hx
    obtain ⟨d, hd, hxd⟩ := exists_of_mem_distinctVariants hx
    exact Nat.le_trans (depth_le_of_mem_variants hxd) (h d hd)
  rcases ofVariants_cases members with ⟨heq, -⟩ | ⟨d, heq, hdistinct, -⟩ | ⟨heq, -⟩
  · rw [heq]
    exact Nat.succ_le_succ (Nat.zero_le n)
  · rw [heq]
    exact Nat.le_succ_of_le (hvariant d (by rw [hdistinct]; exact List.mem_cons_self))
  · rw [heq, depth_union_le_iff]
    exact hvariant

/-- an object is one level deeper than the fields that were declared at most -/
theorem depth_declareAll_le {closed : Bool} {fields : List (Field Descriptor)}
    (h : ∀ f ∈ fields, f.hint.depth ≤ n) : (object ((Shape.opening closed).declareAll fields)).depth ≤ n + 1 := by
  have hreflects := Shape.reflects_declareAll closed fields
  refine depth_object_le_iff.2 ⟨fun p hp => ?_, fun type htype => ?_⟩
  · obtain ⟨f, hf, hhint⟩ := hreflects.exists_of_mem_properties hp
    rw [← hhint]
    exact h f (Field.mem_of_last? hf)
  · rw [hreflects.additional] at htype
    cases closed <;> cases htype

end Descriptor

/-! ## Registered hints that are still to be expanded -/

namespace Registry

variable {r : Registry} {seen : List String} {name : String} {hint : Hint}

/-- the depths of the registered hints whose names are not on the list, together -/
def depthBeyond (r : Registry) (seen : List String) : Nat :=
  ((r.types.filter fun e => e.1 ∉ seen).map fun e => e.2.depth).sum

theorem filter_cons_seen (r : Registry) (seen : List String) (name : String) :
    (r.types.filter fun e => e.1 ∉ name :: seen) =
      (r.types.filter fun e => e.1 ∉ seen).filter fun e => !e.1 == name := by
  rw [List.filter_filter]
  refine List.filter_congr fun e _ => ?_
  by_cases he : e.1 = name <;> simp [he]

theorem depthBeyond_cons_le (r : Registry) (seen : List String) (name : String) :
    r.depthBeyond (name :: seen) ≤ r.depthBeyond seen := by
  rw [depthBeyond, depthBeyond, filter_cons_seen]
  exact (List.filter_sublist.map _).sum_le_sum fun _ _ => Nat.zero_le _

theorem depthBeyond_append_le (r : Registry) (seen : List String) (own : Option String) :
    r.depthBeyond (own.toList ++ seen) ≤ r.depthBeyond seen := by
  cases own with
  | none => exact Nat.le_refl _
  | some name => exact r.depthBeyond_cons_le seen name

/-- **An expansion uses up the depth of its hint.** -/
theorem depth_add_depthBeyond_le (hget : r.get? name = some hint) (hname : name ∉ seen) :
    hint.depth + r.depthBeyond (name :: seen) ≤ r.depthBeyond seen := by
  have hmem : (name, hint) ∈ r.types.filter fun e => e.1 ∉ seen :=
    List.mem_filter.2 ⟨Entries.mem_of_lookup hget, decide_eq_true hname⟩
  rw [depthBeyond, depthBeyond, filter_cons_seen]
  generalize (r.types.filter fun e => e.1 ∉ seen) = left at hmem
  have hown : hint.depth ∈ (left.filter fun e => e.1 == name).map fun e => e.2.depth :=
    List.mem_map.2 ⟨(name, hint), List.mem_filter.2 ⟨hmem, beq_self_eq_true name⟩, rfl⟩
  calc hint.depth + ((left.filter fun e => !e.1 == name).map fun e => e.2.depth).sum
    _ ≤ ((left.filter fun e => e.1 == name).map fun e => e.2.depth).sum +
        ((left.filter fun e => !e.1 == name).map fun e => e.2.depth).sum :=
      Nat.add_le_add_right (List.single_le_sum (fun _ _ => Nat.zero_le _) _ hown) _
    _ = (((left.filter fun e => e.1 == name) ++ left.filter fun e => !e.1 == name).map fun e => e.2.depth).sum := by
      rw [List.map_append, List.sum_append]
    _ = (left.map fun e => e.2.depth).sum := ((List.filter_append_perm _ left).map _).sum_eq

end Registry

/-! ## Resolution -/

variable {r : Registry} {seen names path : List String} {name : String} {n : Nat}

theorem depth_resolveUnion_le {members : List Hint} (h : ∀ m ∈ members, (resolve r seen m).value.depth ≤ n) :
    (resolveUnion r seen members).value.depth ≤ n + 1 := by
  rw [resolveUnion]
  split
  · split <;> exact Nat.succ_le_succ (Nat.zero_le n)
  · next member hfilter =>
    have hmem : member ∈ members.filter (!·.isNull) := hfilter ▸ List.mem_singleton_self member
    exact Nat.le_succ_of_le (h member (List.mem_filter.1 hmem).1)
  · rw [Traced.bind_value, Traced.pure_value, resolveAll_value]
    refine Descriptor.depth_ofVariants_le fun d hd => ?_
    obtain ⟨m, hm, rfl⟩ := List.mem_map.1 hd
    exact h m hm

theorem depth_resolveFields_le {record : Record Hint}
    (h : ∀ f ∈ record.fields, (resolve r seen f.hint).value.depth ≤ f.hint.depth + n) :
    (resolveFields r seen (.opening record.closed) record.fields).value.depth ≤ (Hint.record record).depth + n := by
  obtain ⟨own, fields, closed⟩ := record
  rw [resolveFields_value, Hint.depth, Nat.add_right_comm]
  refine Descriptor.depth_declareAll_le fun d hd => ?_
  obtain ⟨f, hf, rfl⟩ := List.mem_map.1 hd
  exact Nat.le_trans (h f hf) (Nat.add_le_add_right (Hint.depth_le_of_mem_fields hf) n)

theorem depth_resolveLiteral (values : List Json) : (resolveLiteral values).value.depth = 1 := by
  unfold resolveLiteral
  split
  · rfl
  · split <;> rfl

/-- a single level is no deeper than any hint -/
theorem depth_le_of_eq_one {d : Descriptor} (hd : d.depth = 1) (h : Hint) (n : Nat) : d.depth ≤ h.depth + n := by
  have := h.depth_pos
  omega

theorem depth_resolve_map_le (key : Option Hint) {value : Option Hint}
    (h : ∀ v, value = some v → (resolve r seen v).value.depth ≤ v.depth + n) :
    (resolve r seen (.map key value)).value.depth ≤ (Hint.map key value).depth + n := by
  cases value with
  | none =>
    rw [resolve]
    split <;> exact depth_le_of_eq_one rfl _ _
  | some value =>
    rw [resolve_map]
    split
    · have hvalue := h value rfl
      rw [Traced.bind_value, Traced.pure_value, Descriptor.depth, Descriptor.depthProperties,
        Descriptor.depthAdditional, Hint.depth]
      omega
    · exact depth_le_of_eq_one rfl _ _

theorem depth_resolve_record_le {record : Record Hint}
    (h : ∀ f ∈ record.fields, (resolve r (record.name.toList ++ seen) f.hint).value.depth ≤ f.hint.depth + n) :
    (resolve r seen (.record record)).value.depth ≤ (Hint.record record).depth + n := by
  rcases record.open_or_seen seen with hopen | ⟨own, hname, hseen⟩
  · rw [resolve_record hopen]
    exact depth_resolveFields_le h
  · rw [resolve_record_of_mem hname hseen]
    exact depth_le_of_eq_one rfl _ _

/-- a name stands for what its registered hint uses up -/
theorem depth_resolve_named_le
    (h : ∀ hint, r.get? name = some hint → name ∉ seen →
      ∀ h', (resolve r (name :: seen) h').value.depth ≤ h'.depth + r.depthBeyond (name :: seen)) :
    (resolve r seen (.named name)).value.depth ≤ (Hint.named name).depth + r.depthBeyond seen := by
  by_cases hseen : name ∈ seen
  · rw [resolve_named_of_mem hseen]
    exact depth_le_of_eq_one rfl _ _
  · cases hget : r.get? name with
    | none =>
      rw [resolve_named_of_unregistered hseen hget]
      exact depth_le_of_eq_one rfl _ _
    | some hint =>
      have hexpand := h hint hget hseen
      have hused := Registry.depth_add_depthBeyond_le hget hseen
      suffices hhint : (resolve r seen (.named name)).value.depth ≤ hint.depth + r.depthBeyond (name :: seen) by omega
      rw [resolve_named hseen hget]
      cases hrecord : hint.recordOf? name with
      | none => exact hexpand hint
      | some record =>
        rw [Hint.eq_record_of_recordOf? hrecord]
        exact depth_resolveFields_le fun f _ => hexpand f.hint

/-- one step, by the form of the hint: its parts under the same names, or a registered hint that is used up -/
theorem depth_resolve_value_le (r : Registry) (seen : List String) (h : Hint) :
    (resolve r seen h).value.depth ≤ h.depth + r.depthBeyond seen := by
  induction seen, h using Guarded.induct r with
  | step seen h fresher smaller under =>
  cases h with
  | array item =>
    cases item with
    | none =>
      rw [resolve]
      exact Nat.le_add_right 2 _
    | some item =>
      have hitem := smaller item (Hint.weight_item_lt item)
      rw [resolve, Traced.bind_value, Traced.pure_value, Descriptor.depth, Hint.depth]
      omega
  | map key value =>
    refine depth_resolve_map_le key fun v hv => smaller v ?_
    exact hv ▸ Hint.weight_value_lt key v
  | optional inner =>
    rw [resolve, Hint.depth, Nat.add_right_comm]
    refine depth_resolveUnion_le fun m hm => ?_
    have hmember := smaller m (Hint.weight_lt_of_mem_optional hm)
    have hdepth := Hint.depth_le_of_mem_optional hm
    omega
  | union hints =>
    rw [resolve, Hint.depth, Nat.add_right_comm]
    refine depth_resolveUnion_le fun m hm => ?_
    have hmember := smaller m (Hint.weight_lt_of_mem_union hm)
    have hdepth := Hint.depth_le_of_mem_allMembers hm
    omega
  | literal values =>
    rw [resolve]
    exact depth_le_of_eq_one (depth_resolveLiteral values) _ _
  | record record =>
    refine depth_resolve_record_le fun f hf => ?_
    have hpart := under record.name f.hint (Hint.weight_field_lt hf)
    have hbeyond := r.depthBeyond_append_le seen record.name
    omega
  | named name =>
    exact depth_resolve_named_le fun hint hget hseen => fresher name (Registry.mem_names_of_get? hget) hseen
  | unsupported label =>
    rw [resolve]
    exact depth_le_of_eq_one rfl _ _
  | _ =>
    rw [resolve]
    exact depth_le_of_eq_one rfl _ _

/-! ## Paths -/

/-- The names of the path are registered, and none was under expansion at the start or comes twice. All of them are
under expansion now, and so are those of the start. -/
structure Once (r : Registry) (seen names path : List String) : Prop where
  nodup : path.Nodup
  registered : ∀ name ∈ path, name ∈ r.names ∧ name ∉ seen
  expanding : path ⊆ names
  kept : seen ⊆ names

namespace Once

theorem start (r : Registry) (seen : List String) : Once r seen seen [] where
  nodup := List.nodup_nil
  registered := nofun
  expanding := List.nil_subset seen
  kept := List.Subset.refl seen

theorem append (h : Once r seen names path) (own : List String) : Once r seen (own ++ names) path :=
  { h with
    expanding := List.subset_append_of_subset_right own h.expanding
    kept := List.subset_append_of_subset_right own h.kept }

theorem cons (h : Once r seen names path) (hname : name ∉ names) (hmem : name ∈ r.names) :
    Once r seen (name :: names) (name :: path) where
  nodup := List.nodup_cons.2 ⟨fun hpath => hname (h.expanding hpath), h.nodup⟩
  registered := List.forall_mem_cons.2 ⟨⟨hmem, fun hseen => hname (h.kept hseen)⟩, h.registered⟩
  expanding := List.cons_subset_cons name h.expanding
  kept := List.subset_cons_of_subset name h.kept

end Once

/-- **No name is gone through twice**, since a name is entered only where it is not under expansion, and stays under
expansion to the end of its hint. -/
theorem handsDown_once (r : Registry) (seen : List String) : r.HandsDown fun names e => Once r seen names e.path where
  item _ _ _ h := h
  value _ _ _ _ h := h
  member _ _ _ h _ _ := h
  field _ _ record _ h _ _ := h.append record.name.toList
  reference _ _ _ _ hname hget h := h.cons hname (Registry.mem_names_of_get? hget)
  registered _ _ _ _ hname hget h _ _ := h.cons hname (Registry.mem_names_of_get? hget)

/-- **Expansion depth is bounded by the registry.** For every registry, every hint and all names that may be under
expansion, the result is no deeper than the hint and the registered hints of all other names together. The hints that
resolution comes to lie behind registered names that were not under expansion, each of them gone through once. -/
theorem depth_resolve_le (r : Registry) (seen : List String) (h : Hint) :
    (resolve r seen h).value.depth ≤ h.depth + r.depthBeyond seen ∧
      Run.Issues (r.watch [] seen h) () (resolve r seen h).value fun e =>
        e.path.Nodup ∧ ∀ name ∈ e.path, name ∈ r.names ∧ name ∉ seen := by
  obtain ⟨met, hends, hmet⟩ := issues_watch_under (handsDown_once r seen) [] seen h (.start r seen)
  refine ⟨depth_resolve_value_le r seen h, met, hends, fun e he => ?_⟩
  obtain ⟨names, honce⟩ := hmet e he
  exact ⟨honce.nodup, honce.registered⟩

end ToolSchema
