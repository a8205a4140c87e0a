/-
Resolution with one guard that every step shares.

`resolve` is given the names under expansion and hands each part of a hint its own. `Registry.resolve` has one set of
them: an expansion puts its name in, goes on, and takes the name out again, and nothing bounds the recursion.
`guarded_resolve_eq` says that this is no different: every run ends, whatever refers to whatever; it comes to the answer
of `resolve` with its diagnostics; and the set holds the names that it held before.

- `yields_guarded`: an expansion that leaves the set as it is, its own name in it, takes that name out and no other.
- `yields_resolve`: the induction, over the names still fresh and the size of the hint (`Guarded.induct`).
-/
import Mathlib.Data.Finset.Basic
import ToolSchema.Proofs.Resolve.Resolves
import ToolSchema.Proofs.Run

namespace ToolSchema

/-- a run that writes to the set of names under expansion -/
abbrev Guarded := Run (Finset String) Diagnostic

open Run

namespace Guarded

/-! ## The guard -/

/-- put a name in, and say whether it is new -/
def enter (name : String) : Guarded Bool :=
  fun tape => some (decide (name ∉ tape.guard), ⟨insert name tape.guard, tape.events⟩)

/-- take a name out -/
def leave (name : String) : Guarded Unit :=
  fun tape => some ((), ⟨tape.guard.erase name, tape.events⟩)

/-- expand under a name, once on each way -/
abbrev guarded (name : String) (expansion : Guarded Descriptor) : Guarded Descriptor := do
  if ← enter name then
    let d ← expansion
    leave name
    return d
  else report id (cut name)

end Guarded

/-! ## Resolution -/

namespace Registry

open Guarded

mutual

def resolve (r : Registry) (h : Hint) : Guarded Descriptor :=
  match h with
  | .null => pure (.primitive .null)
  | .string => pure (.primitive .string)
  | .integer => pure (.primitive .integer)
  | .number => pure (.primitive .number)
  | .boolean => pure (.primitive .boolean)
  | .any => pure .unknown
  | .array none => pure (.array .unknown)
  | .array (some item) => do
    let d ← r |>.resolve item
    return .array d
  | .map key value =>
    if key.all Hint.isStringKey then
      match value with
      | none => pure (.object .empty)
      | some value => do
        let d ← r |>.resolve value
        return .object ⟨[], [], .values d⟩
    else report id notAMapping
  | .optional inner => r |>.resolveUnion (Hint.optional inner).members
  | .union hints => r |>.resolveUnion (Hint.union hints).members
  | .literal values => report id (resolveLiteral values)
  | .record ⟨none, fields, closed⟩ => r |>.resolveFields (.opening closed) fields
  | .record ⟨some name, fields, closed⟩ => guarded name (r |>.resolveFields (.opening closed) fields)
  | .named name =>
    guarded name <|
      match r.get? name with
      | none =>
        report id do
          Traced.note (.unresolvedReference name)
          return .unknown
      | some hint =>
        match hint.recordOf? name with
        | some record => r |>.resolveFields (.opening record.closed) record.fields
        | none => r |>.resolve hint
  | .unsupported label =>
    report id do
      Traced.note (.noSchemaEquivalent label)
      return .unknown
partial_fixpoint

def resolveUnion (r : Registry) (members : List Hint) : Guarded Descriptor :=
  match members.filter (!·.isNull) with
  | [] =>
    if members.isEmpty then
      report id do
        Traced.note .emptyUnion
        return .unknown
    else pure (.primitive .null)
  | [member] => r |>.resolve member
  | _ :: _ :: _ => do
    let ds ← members.mapM fun member => r |>.resolve member
    return .ofVariants ds
partial_fixpoint

def resolveFields (r : Registry) (shape : Shape Descriptor) (fields : List (Field Hint)) : Guarded Descriptor :=
  match fields with
  | [] => pure (.object shape)
  | f :: rest => do
    let d ← r |>.resolve f.hint
    if shape.declares f.name then report id (Traced.note (.duplicateField f.name))
    r |>.resolveFields (shape.declare f.name d f.required) rest
partial_fixpoint

end

end Registry

namespace Guarded

/-! ## What a run comes to -/

variable {α : Type} {r : Registry} {seen : List String} {name : String}

/-- with these names under expansion the run ends with the result, and they are under expansion afterwards -/
def Yields (x : Guarded α) (seen : List String) (result : Traced α) : Prop :=
  Ends x seen.toFinset result.value result.notes

theorem yields_pure (seen : List String) (a : α) : Yields (pure a) seen (pure a) :=
  Ends.pure seen.toFinset a

theorem yields_report (result : Traced α) (seen : List String) : Yields (report id result) seen result := by
  have h := Ends.report id result seen.toFinset
  rw [List.map_id] at h
  exact h

theorem Yields.bind {β : Type} {x : Guarded α} {f : α → Guarded β} {result : Traced α} {next : α → Traced β}
    (hx : Yields x seen result) (hf : Yields (f result.value) seen (next result.value)) :
    Yields (x >>= f) seen (result >>= next) :=
  Ends.bind hx hf

/-- a step that only gives the value its form -/
theorem Yields.map {β : Type} {x : Guarded α} {result : Traced α} (hx : Yields x seen result) (g : α → β) :
    Yields (x >>= fun a => pure (g a)) seen (result >>= fun a => pure (g a)) :=
  hx.bind (yields_pure seen (g result.value))

/-- a name that is under expansion is cut -/
theorem yields_guarded_of_mem {expansion : Guarded Descriptor} (hname : name ∈ seen) :
    Yields (guarded name expansion) seen (cut name) := by
  intro before
  have hmem : name ∈ seen.toFinset := List.mem_toFinset.2 hname
  have henter : enter name ⟨seen.toFinset, before⟩ = some (false, ⟨seen.toFinset, before⟩) := by
    rw [enter, decide_eq_false (not_not_intro hmem), Finset.insert_eq_of_mem hmem]
  calc guarded name expansion ⟨seen.toFinset, before⟩
    _ = report id (cut name) ⟨seen.toFinset, before⟩ := by
      simp only [guarded, bind, StateT.bind, henter]
      rfl
    _ = _ := yields_report (cut name) seen before

/-- **Putting in and taking out.** An expansion that leaves the names under expansion as they are, its own among them,
takes its own out again and no other. -/
theorem yields_guarded {expansion : Guarded Descriptor} {result : Traced Descriptor} (hname : name ∉ seen)
    (hexpansion : Yields expansion (name :: seen) result) : Yields (guarded name expansion) seen result := by
  intro before
  have hmem : name ∉ seen.toFinset := fun h => hname (List.mem_toFinset.1 h)
  have henter : enter name ⟨seen.toFinset, before⟩ = some (true, ⟨(name :: seen).toFinset, before⟩) := by
    rw [enter, decide_eq_true hmem, List.toFinset_cons]
  have hleave : leave name ⟨(name :: seen).toFinset, before ++ result.notes⟩ =
      some ((), ⟨seen.toFinset, before ++ result.notes⟩) := by
    rw [leave, List.toFinset_cons, Finset.erase_insert hmem]
  simp only [guarded, bind, StateT.bind, henter, Option.bind_some, if_true, hexpansion before, hleave]
  rfl

/-! ## Every run -/

theorem yields_mapM {hints : List Hint}
    (h : ∀ hint ∈ hints, Yields (r.resolve hint) seen (resolve r seen hint)) :
    Yields (hints.mapM (r.resolve)) seen (resolveAll r seen hints) := by
  induction hints with
  | nil =>
    rw [resolveAll]
    exact Ends.mapM_nil (r.resolve) seen.toFinset
  | cons first rest ih =>
    rw [List.forall_mem_cons] at h
    have hends := Ends.mapM_cons h.1 (ih h.2)
    rw [resolveAll, Yields]
    simpa using hends

theorem yields_resolveUnion {members : List Hint}
    (h : ∀ m ∈ members, Yields (r.resolve m) seen (resolve r seen m)) :
    Yields (r.resolveUnion members) seen (resolveUnion r seen members) := by
  rw [Registry.resolveUnion, resolveUnion]
  cases hfilter : members.filter (!·.isNull) with
  | nil =>
    dsimp only
    split
    · exact yields_report _ seen
    · exact yields_pure seen _
  | cons member others =>
    cases others with
    | nil =>
      have hmem : member ∈ members.filter (!·.isNull) := hfilter ▸ List.mem_singleton_self member
      exact h member (List.mem_filter.1 hmem).1
    | cons next others => exact (yields_mapM h).map Descriptor.ofVariants

theorem yields_resolveFields {fields : List (Field Hint)} (shape : Shape Descriptor)
    (h : ∀ f ∈ fields, Yields (r.resolve f.hint) seen (resolve r seen f.hint)) :
    Yields (r.resolveFields shape fields) seen (resolveFields r seen shape fields) := by
  induction fields generalizing shape with
  | nil =>
    rw [Registry.resolveFields, resolveFields]
    exact yields_pure seen _
  | cons f rest ih =>
    rw [List.forall_mem_cons] at h
    rw [Registry.resolveFields, resolveFields]
    refine h.1.bind ?_
    dsimp only
    split
    · exact (yields_report _ seen).bind (ih _ h.2)
    · exact ih _ h.2

theorem yields_map (key : Option Hint) {value : Option Hint}
    (h : ∀ v, value = some v → Yields (r.resolve v) seen (resolve r seen v)) :
    Yields (r.resolve (.map key value)) seen (resolve r seen (.map key value)) := by
  cases value with
  | none =>
    rw [Registry.resolve, resolve]
    split
    · exact yields_pure seen _
    · exact yields_report notAMapping seen
  | some value =>
    rw [Registry.resolve, resolve_map]
    split
    · exact (h value rfl).map fun d => Descriptor.object ⟨[], [], .values d⟩
    · exact yields_report notAMapping seen

theorem yields_record {record : Record Hint}
    (h : ∀ f ∈ record.fields,
      Yields (r.resolve f.hint) (record.name.toList ++ seen) (resolve r (record.name.toList ++ seen) f.hint)) :
    Yields (r.resolve (.record record)) seen (resolve r seen (.record record)) := by
  obtain ⟨own, fields, closed⟩ := record
  rw [Registry.resolve.eq_def]
  rcases Record.open_or_seen ⟨own, fields, closed⟩ seen with hopen | ⟨own, hname, hseen⟩
  · rw [resolve_record hopen]
    cases own with
    | none => exact yields_resolveFields _ h
    | some name => exact yields_guarded (hopen name rfl) (yields_resolveFields _ h)
  · rw [resolve_record_of_mem hname hseen]
    cases hname
    exact yields_guarded_of_mem hseen

theorem yields_named
    (h : ∀ hint, r.get? name = some hint → name ∉ seen →
      ∀ h', Yields (r.resolve h') (name :: seen) (resolve r (name :: seen) h')) :
    Yields (r.resolve (.named name)) seen (resolve r seen (.named name)) := by
  rw [Registry.resolve]
  by_cases hseen : name ∈ seen
  · rw [resolve_named_of_mem hseen]
    exact yields_guarded_of_mem hseen
  · apply yields_guarded hseen
    cases hget : r.get? name with
    | none =>
      rw [resolve_named_of_unregistered hseen hget]
      exact yields_report _ (name :: seen)
    | some hint =>
      rw [resolve_named hseen hget]
      dsimp only
      cases hint.recordOf? name with
      | none => exact h hint hget hseen hint
      | some record => exact yields_resolveFields _ fun f _ => h hint hget hseen f.hint

/-- What holds of a hint when it holds of all hints under one more of the registered names, of all smaller hints under
the same names, and of all smaller hints under one more or none, holds of every hint. -/
theorem induct (r : Registry) {P : List String → Hint → Prop}
    (step : ∀ seen h, (∀ name ∈ r.names, name ∉ seen → ∀ h', P (name :: seen) h') →
      (∀ h' : Hint, h'.weight < h.weight → P seen h') →
      (∀ (own : Option String) (h' : Hint), h'.weight < h.weight → P (own.toList ++ seen) h') → P seen h)
    (seen : List String) (h : Hint) : P seen h :=
  step seen h (fun name _hmem _hseen h' => induct r step (name :: seen) h')
    (fun h' _hless => induct r step seen h') fun own h' _hless => induct r step (own.toList ++ seen) h'
termination_by (fresh r.names seen, h.weight, 0)
decreasing_by
  · exact Measure.fresher (fresh_cons_lt _hmem _hseen)
  · exact Measure.smaller _hless
  · exact Measure.deeper (fresh_append_le _ _ _) _hless

/-- one step, by the form of the hint: only the expansion of a registered name makes a larger hint out of a smaller
one -/
theorem yields_resolve (r : Registry) (seen : List String) (h : Hint) :
    Yields (r.resolve h) seen (resolve r seen h) := by
  induction seen, h using induct r with
  | step seen h fresher smaller under =>
  cases h with
  | array item =>
    cases item with
    | none =>
      rw [Registry.resolve, resolve]
      exact yields_pure seen _
    | some item =>
      have hitem := smaller item (Hint.weight_item_lt item)
      rw [Registry.resolve, resolve]
      exact hitem.map Descriptor.array
  | map key value =>
    refine yields_map key fun v hv => smaller v ?_
    exact hv ▸ Hint.weight_value_lt key v
  | optional inner =>
    rw [Registry.resolve, resolve]
    exact yields_resolveUnion fun m hm => smaller m (Hint.weight_lt_of_mem_optional hm)
  | union hints =>
    rw [Registry.resolve, resolve]
    exact yields_resolveUnion fun m hm => smaller m (Hint.weight_lt_of_mem_union hm)
  | literal values =>
    rw [Registry.resolve, resolve]
    exact yields_report (resolveLiteral values) seen
  | record record => exact yields_record fun f hf => under record.name f.hint (Hint.weight_field_lt hf)
  | named name => exact yields_named fun hint hget hseen => fresher name (Registry.mem_names_of_get? hget) hseen
  | unsupported label =>
    rw [Registry.resolve, resolve]
    exact yields_report _ seen
  | _ =>
    rw [Registry.resolve, resolve]
    exact yields_pure seen _

end Guarded

/-- **Resolution always ends and leaves its guard as it found it.** From any set of names under expansion, and whatever
the registered hints refer to, the run comes to the answer of `resolve` with its diagnostics, and the set that it leaves
is the set that it was given. -/
theorem guarded_resolve_eq (r : Registry) (names : List String) (h : Hint) (before : List Diagnostic) :
    r.resolve h ⟨names.toFinset, before⟩ =
      some ((resolve r names h).value, ⟨names.toFinset, before ++ (resolve r names h).notes⟩) :=
  Guarded.yields_resolve r names h before

end ToolSchema
