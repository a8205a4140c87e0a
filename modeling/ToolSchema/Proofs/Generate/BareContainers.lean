/-
Untyped containers that resolution comes to.

Where options refuse containers without element type, each parameter's hint is scanned before it is resolved. The scan
finds such a container wherever it stands in the hint (`hasBareGeneric_iff`), but it does not look behind names.
- `handsOn_standsBehind`: in a hint without untyped containers resolution comes to none but those that stand in the
  registered hint of a name that it goes through.
- `issues_watch_of_all_scanned`: it comes to none at all if the registered hints are scanned too.
- `generate_bare_containers`: what the scan of the parameters leaves to find in a signature that is accepted.
- `exists_bare_container`: behind a name there may be one.
-/
import ToolSchema.Proofs.Generate.Success
import ToolSchema.Proofs.Hint.Replace
import ToolSchema.Proofs.Resolve.Watched

namespace ToolSchema

open Run

/-! ## The scan -/

namespace Hint

/-- a container without element type -/
def isBareContainer : Hint → Bool
  | .array none => true
  | .map _ none => true
  | _ => false

theorem anyBareGeneric_eq_any (hints : List Hint) : anyBareGeneric hints = hints.any hasBareGeneric := by
  induction hints with
  | nil => rfl
  | cons h rest ih => rw [anyBareGeneric, ih, List.any_cons]

theorem anyFieldBareGeneric_eq_any (fields : List (Field Hint)) :
    anyFieldBareGeneric fields = fields.any fun f => f.hint.hasBareGeneric := by
  induction fields with
  | nil => rfl
  | cons f rest ih => rw [anyFieldBareGeneric, ih, List.any_cons]

theorem hasBareGeneric_of_meets {container h : Hint} (hmeets : Meets .empty container h)
    (hbare : container.isBareContainer = true) : h.hasBareGeneric = true := by
  induction hmeets with
  | self =>
    cases container with
    | array item =>
      cases item with
      | none => rfl
      | some item => cases hbare
    | map key value =>
      cases value with
      | none => rw [hasBareGeneric]
      | some value => cases hbare
    | _ => cases hbare
  | item _ ih => exact ih
  | @key key value _ ih =>
    cases value with
    | none => rw [hasBareGeneric]
    | some value => rw [hasBareGeneric, ih, Bool.true_or]
  | @value key value _ ih =>
    cases key with
    | none => exact ih
    | some key => rw [hasBareGeneric, ih, Bool.or_true]
  | inner _ ih => exact ih
  | member hm _ ih =>
    rw [hasBareGeneric, anyBareGeneric_eq_any]
    exact List.any_eq_true.2 ⟨_, hm, ih⟩
  | field hf _ ih =>
    rw [hasBareGeneric, anyFieldBareGeneric_eq_any]
    exact List.any_eq_true.2 ⟨_, hf, ih⟩
  | reference hget _ _ => cases hget

theorem exists_meets_of_hasBareGeneric {h : Hint} (hscan : h.hasBareGeneric = true) :
    ∃ container, isBareContainer container = true ∧ Meets .empty container h := by
  induction h using Hint.weight_induct with
  | step h smaller =>
  cases h with
  | array item =>
    cases item with
    | none => exact ⟨.array none, rfl, .self⟩
    | some item =>
      obtain ⟨container, hbare, hmeets⟩ := smaller item (weight_item_lt item) hscan
      exact ⟨container, hbare, .item hmeets⟩
  | map key value =>
    cases value with
    | none => exact ⟨.map key none, rfl, .self⟩
    | some value =>
      have hvalue : value.hasBareGeneric = true → ∃ container, isBareContainer container = true ∧
          Meets .empty container (.map key (some value)) := by
        intro hscan
        obtain ⟨container, hbare, hmeets⟩ := smaller value (weight_value_lt key value) hscan
        exact ⟨container, hbare, .value hmeets⟩
      cases key with
      | none => exact hvalue hscan
      | some key =>
        rw [hasBareGeneric, Bool.or_eq_true] at hscan
        rcases hscan with hscan | hscan
        · obtain ⟨container, hbare, hmeets⟩ := smaller key (weight_key_lt key value) hscan
          exact ⟨container, hbare, .key hmeets⟩
        · exact hvalue hscan
  | optional inner =>
    obtain ⟨container, hbare, hmeets⟩ := smaller inner (weight_inner_lt inner) hscan
    exact ⟨container, hbare, .inner hmeets⟩
  | union hints =>
    rw [hasBareGeneric, anyBareGeneric_eq_any] at hscan
    obtain ⟨m, hm, hscan⟩ := List.any_eq_true.1 hscan
    obtain ⟨container, hbare, hmeets⟩ := smaller m (weight_alternative_lt hm) hscan
    exact ⟨container, hbare, .member hm hmeets⟩
  | record record =>
    obtain ⟨own, fields, closed⟩ := record
    rw [hasBareGeneric, anyFieldBareGeneric_eq_any] at hscan
    obtain ⟨f, hf, hscan⟩ := List.any_eq_true.1 hscan
    obtain ⟨container, hbare, hmeets⟩ := smaller f.hint (Hint.weight_field_lt hf) hscan
    exact ⟨container, hbare, .field hf hmeets⟩
  | _ => cases hscan

/-- **The scan finds an untyped container wherever it stands in a hint**, and nothing else. -/
theorem hasBareGeneric_iff {h : Hint} :
    h.hasBareGeneric = true ↔ ∃ container, isBareContainer container = true ∧ Meets .empty container h :=
  ⟨exists_meets_of_hasBareGeneric, fun ⟨_, hbare, hmeets⟩ => hasBareGeneric_of_meets hmeets hbare⟩

end Hint

/-! ## Behind names -/

variable {r : Registry}

/-- the part stands in the hint registered under the innermost name of the path -/
def StandsBehind (r : Registry) (path : List String) (part : Hint) : Prop :=
  ∃ name rest registered, path = name :: rest ∧ r.get? name = some registered ∧ Meets .empty part registered

/-- Untyped containers stay where they are: those in a part are in the whole, and those in a registered hint stand
behind its name. -/
theorem handsOn_standsBehind (r : Registry) : r.HandsOn fun e =>
    ∀ part, Hint.isBareContainer part = true → Meets .empty part e.hint → StandsBehind r e.path part where
  item _ _ h part hbare hmeets := h part hbare (.item hmeets)
  value _ _ _ h part hbare hmeets := h part hbare (.value hmeets)
  member path whole h m hm part hbare hmeets := by
    rcases Meets.of_mem_members hm with rfl | hwhole
    · cases hmeets
      cases hbare
    · exact h part hbare (hmeets.trans hwhole)
  field _ _ h f hf part hbare hmeets := h part hbare (.field hf hmeets)
  reference path name hint hget _ part _ hmeets := ⟨name, path, hint, rfl, hget, hmeets⟩

/-- in a hint that passes the scan, resolution comes to untyped containers behind names only -/
theorem issues_watch_of_scanned (r : Registry) {h : Hint} (hscan : h.hasBareGeneric = false) :
    Issues (r.watch [] [] h) () (resolve r [] h).value fun e =>
      e.hint.isBareContainer = true → StandsBehind r e.path e.hint := by
  have hstart : ∀ part, Hint.isBareContainer part = true → Meets .empty part h → StandsBehind r [] part := by
    intro part hbare hmeets
    rw [Hint.hasBareGeneric_iff.2 ⟨part, hbare, hmeets⟩] at hscan
    cases hscan
  obtain ⟨met, hends, hmet⟩ := issues_watch (handsOn_standsBehind r) [] [] h hstart
  exact ⟨met, hends, fun e he hbare => hmet e he e.hint hbare .self⟩

/-- where the registered hints pass the scan as well, resolution comes to none at all -/
theorem issues_watch_of_all_scanned {h : Hint} (hscan : h.hasBareGeneric = false)
    (hregistered : ∀ name hint, r.get? name = some hint → hint.hasBareGeneric = false) :
    Issues (r.watch [] [] h) () (resolve r [] h).value fun e => e.hint.isBareContainer = false := by
  obtain ⟨met, hends, hmet⟩ := issues_watch_of_scanned r hscan
  refine ⟨met, hends, fun e he => Bool.eq_false_iff.2 fun hbare => ?_⟩
  obtain ⟨name, rest, registered, -, hget, hmeets⟩ := hmet e he hbare
  have hfound : registered.hasBareGeneric = true := Hint.hasBareGeneric_iff.2 ⟨e.hint, hbare, hmeets⟩
  rw [hregistered name registered hget] at hfound
  cases hfound

namespace Generator

/-- **Untyped containers that are refused come in behind names only.** For every generator that refuses them, every
signature that has a document, and every parameter of it that is not ignored: resolution of the hint, watched, ends with
the type in the document, and an untyped container that it comes to is none of the hint itself. It stands in the hint
registered under the name that was gone through last. -/
theorem generate_bare_containers (g : Generator) (s : Signature) (hrefused : g.options.allowBareGenericTypes = false)
    (d : Document) (hd : (g.generate s).run.value = .ok d) (p : Parameter) (hp : p ∈ s.parameters)
    (hkept : p.name ∉ g.options.ignoreArgs) (h : Hint) (hhint : p.hint = some h) :
    ∃ info ∈ d.parameters, info.name = p.name ∧ ∃ met, Ends (g.registry.watch [] [] h) () info.descriptor met ∧
      ∀ e ∈ met, e.hint.isBareContainer = true → StandsBehind g.registry e.path e.hint := by
  obtain ⟨haccepted, rfl⟩ := generate_eq_ok_iff.1 hd
  have hscan : h.hasBareGeneric = false := by
    have hnone := List.find?_eq_none.1 (haccepted.typed hrefused) p hp
    simpa [hkept, hhint] using hnone
  have hmem : p ∈ g.kept s.parameters := by
    rw [kept_eq]
    exact List.mem_filter.2 ⟨hp, decide_eq_true hkept⟩
  have hresolved : g.resolved p = (resolve g.registry [] h).value := by rw [resolved, hhint]
  refine ⟨g.infoOf (s.model g.options) p, List.mem_map_of_mem hmem, rfl, ?_⟩
  rw [infoOf, hresolved]
  exact issues_watch_of_scanned g.registry hscan

/-- a parameter whose type is known by its name -/
def load : Signature :=
  ⟨"load", some "Load a table.", [⟨"rows", some (.named "Rows"), false, none⟩]⟩

/-- the type is a list of anything -/
def tables : Registry :=
  Registry.empty.put "Rows" (.array none)

/-- untyped containers are refused -/
def typed : Options :=
  { Options.lenient with allowBareGenericTypes := false }

theorem generate_load : (generate ⟨typed, tables⟩ load).run.value = .ok (documentOf ⟨typed, tables⟩ load) :=
  generate_eq_ok_iff.2 ⟨failure?_eq_none_iff.1 (by decide +kernel), rfl⟩

theorem generate_bare_containers_load :
    ∃ d, (generate ⟨typed, tables⟩ load).run.value = .ok d ∧ ∃ info ∈ d.parameters, info.name = "rows" ∧
      ∃ met, Ends (tables.watch [] [] (.named "Rows")) () info.descriptor met ∧
        ∀ e ∈ met, e.hint.isBareContainer = true → StandsBehind tables e.path e.hint :=
  ⟨_, generate_load,
    generate_bare_containers ⟨typed, tables⟩ load rfl _ generate_load _ List.mem_cons_self List.not_mem_nil _ rfl⟩

theorem watch_rows :
    Ends (tables.watch [] [] (.named "Rows")) () (.array .unknown)
      [⟨[], .named "Rows"⟩, ⟨["Rows"], .array none⟩] := by
  have hget : tables.get? "Rows" = some (.array none) := rfl
  have hrows : Ends (tables.watch ["Rows"] ["Rows"] (.array none)) () (.array .unknown) [⟨["Rows"], .array none⟩] := by
    rw [Registry.watch, Registry.watchParts]
    exact (Ends.emit _ ()).bind (Ends.pure () _)
  rw [Registry.watch, Registry.watchParts, if_neg List.not_mem_nil, hget]
  exact (Ends.emit _ ()).bind hrows

/-- Behind a name there may be an untyped container: `load` is accepted, and its parameter refers to a list of
anything. -/
theorem exists_bare_container :
    ¬ ∀ (g : Generator) (s : Signature), g.options.allowBareGenericTypes = false →
      ∀ d, (g.generate s).run.value = .ok d → ∀ p ∈ s.parameters, p.name ∉ g.options.ignoreArgs →
        ∀ h, p.hint = some h → ∀ type met, Ends (g.registry.watch [] [] h) () type met →
          ∀ e ∈ met, e.hint.isBareContainer = false := by
  intro hclaim
  have hnone :=
    hclaim ⟨typed, tables⟩ load rfl _ generate_load _ List.mem_cons_self List.not_mem_nil _ rfl _ _ watch_rows
  cases hnone ⟨["Rows"], .array none⟩ (List.mem_cons_of_mem _ List.mem_cons_self)

end Generator

end ToolSchema
