/-
Resolution with a record of the hints that it comes to.

`Registry.watch` resolves a hint and puts on record every hint on the way, with the path that led there: the registered
names whose hints are being expanded, the innermost first. The path tells where a hint stands: in the hint registered
under the innermost name, or, if the path is empty, in the hint at the start.

Such a run ends with the type that `resolve` gives. And what holds of the hint at the start holds of all hints on
record, if it goes from each hint to those that resolution goes on to:
- `issues_watch_under`: what is handed on may tell of the names under expansion (`Registry.HandsDown`).
- `issues_watch`: it does not (`Registry.HandsOn`).
-/
import ToolSchema.Proofs.Resolve.Guarded

namespace ToolSchema

open Run

/-! ## Resolution with a record -/

/-- a hint that resolution comes to, behind the registered names of the path -/
structure Sight where
  path : List String
  hint : Hint

/-- a run that puts on record what it sees -/
abbrev Watch := Run Unit Sight

namespace Registry

mutual

/-- resolve a hint that is come to by the path, with these names under expansion -/
def watch (r : Registry) (path seen : List String) (h : Hint) : Watch Descriptor := do
  emit fun _ => ⟨path, h⟩
  r |>.watchParts path seen h
partial_fixpoint

def watchParts (r : Registry) (path seen : List String) (h : Hint) : Watch Descriptor :=
  match h with
  | .null => pure (.primitive .null)
  | .string => pure (.primitive .string)
  | .integer => pure (.primitive .integer)
  | .number => pure (.primitive .number)
  | .boolean => pure (.primitive .boolean)
  | .any => pure .unknown
  | .array none => pure (.array .unknown)
  | .array (some item) => do
    let d ← r |>.watch path seen item
    return .array d
  | .map key value =>
    if key.all Hint.isStringKey then
      match value with
      | none => pure (.object .empty)
      | some value => do
        let d ← r |>.watch path seen value
        return .object ⟨[], [], .values d⟩
    else pure .unknown
  | .optional inner => r |>.watchUnion path seen (Hint.optional inner).members
  | .union hints => r |>.watchUnion path seen (Hint.union hints).members
  | .literal values => pure (resolveLiteral values).value
  | .record ⟨none, fields, closed⟩ => r |>.watchFields path seen (.opening closed) fields
  | .record ⟨some name, fields, closed⟩ =>
    if name ∈ seen then pure .unknown else r |>.watchFields path (name :: seen) (.opening closed) fields
  | .named name =>
    if name ∈ seen then pure .unknown
    else
      match r.get? name with
      | none => pure .unknown
      | some hint =>
        match hint.recordOf? name with
        | some record => r |>.watchFields (name :: path) (name :: seen) (.opening record.closed) record.fields
        | none => r |>.watch (name :: path) (name :: seen) hint
  | .unsupported _ => pure .unknown
partial_fixpoint

def watchUnion (r : Registry) (path seen : List String) (members : List Hint) : Watch Descriptor :=
  match members.filter (!·.isNull) with
  | [] => pure (if members.isEmpty then .unknown else .primitive .null)
  | [member] => r |>.watch path seen member
  | _ :: _ :: _ => do
    let ds ← members.mapM fun member => r |>.watch path seen member
    return .ofVariants ds
partial_fixpoint

def watchFields (r : Registry) (path seen : List String) (shape : Shape Descriptor) (fields : List (Field Hint)) :
    Watch Descriptor :=
  match fields with
  | [] => pure (.object shape)
  | f :: rest => do
    let d ← r |>.watch path seen f.hint
    r |>.watchFields path seen (shape.declare f.name d f.required) rest
partial_fixpoint

end

end Registry

/-! ## What is on record -/

/-- what holds of a hint where resolution comes to it holds of what it goes on to from there -/
structure Registry.HandsOn (r : Registry) (P : Sight → Prop) : Prop where
  item : ∀ path item, P ⟨path, .array (some item)⟩ → P ⟨path, item⟩
  value : ∀ path key value, P ⟨path, .map key (some value)⟩ → P ⟨path, value⟩
  member : ∀ path h, P ⟨path, h⟩ → ∀ m ∈ h.members, P ⟨path, m⟩
  field : ∀ path record, P ⟨path, .record record⟩ → ∀ f ∈ record.fields, P ⟨path, f.hint⟩
  reference : ∀ path name hint, r.get? name = some hint → P ⟨path, .named name⟩ → P ⟨name :: path, hint⟩

/-- the same of what may tell of the names under expansion, which a record and a reference add theirs to -/
structure Registry.HandsDown (r : Registry) (P : List String → Sight → Prop) : Prop where
  item : ∀ seen path item, P seen ⟨path, .array (some item)⟩ → P seen ⟨path, item⟩
  value : ∀ seen path key value, P seen ⟨path, .map key (some value)⟩ → P seen ⟨path, value⟩
  member : ∀ seen path h, P seen ⟨path, h⟩ → ∀ m ∈ h.members, P seen ⟨path, m⟩
  field : ∀ seen path record, (∀ own, record.name = some own → own ∉ seen) → P seen ⟨path, .record record⟩ →
    ∀ f ∈ record.fields, P (record.name.toList ++ seen) ⟨path, f.hint⟩
  reference : ∀ seen path name hint, name ∉ seen → r.get? name = some hint → P seen ⟨path, .named name⟩ →
    P (name :: seen) ⟨name :: path, hint⟩
  /-- a record behind its own name is entered at once -/
  registered : ∀ seen path name record, name ∉ seen → r.get? name = some (.record record) →
    P seen ⟨path, .named name⟩ → ∀ f ∈ record.fields, P (name :: seen) ⟨name :: path, f.hint⟩

variable {r : Registry} {P : Sight → Prop} {path seen : List String}

theorem Registry.HandsOn.handsDown (hP : r.HandsOn P) : r.HandsDown fun _ => P where
  item _ := hP.item
  value _ := hP.value
  member _ := hP.member
  field _ path record _ := hP.field path record
  reference _ path name hint _ := hP.reference path name hint
  registered _ path name _ _ hget h := hP.field _ _ (hP.reference path name _ hget h)

theorem issues_watchUnion {members : List Hint}
    (h : ∀ m ∈ members, Issues (r.watch path seen m) () (resolve r seen m).value P) :
    Issues (r.watchUnion path seen members) () (resolveUnion r seen members).value P := by
  rw [Registry.watchUnion, resolveUnion]
  cases hfilter : members.filter (!·.isNull) with
  | nil =>
    dsimp only
    split <;> exact Issues.pure () _
  | cons member others =>
    cases others with
    | nil =>
      have hmem : member ∈ members.filter (!·.isNull) := hfilter ▸ List.mem_singleton_self member
      exact h member (List.mem_filter.1 hmem).1
    | cons next others =>
      dsimp only
      rw [Traced.bind_value, resolveAll_value]
      exact (Issues.mapM h).map Descriptor.ofVariants

theorem issues_watchFields {fields : List (Field Hint)} (shape : Shape Descriptor)
    (h : ∀ f ∈ fields, Issues (r.watch path seen f.hint) () (resolve r seen f.hint).value P) :
    Issues (r.watchFields path seen shape fields) () (resolveFields r seen shape fields).value P := by
  rw [resolveFields_value]
  induction fields generalizing shape with
  | nil =>
    rw [Registry.watchFields]
    exact Issues.pure () _
  | cons f rest ih =>
    rw [List.forall_mem_cons] at h
    rw [Registry.watchFields, List.map_cons, Shape.declareAll_cons]
    exact h.1.bind (ih _ h.2)

theorem issues_watchParts_map (key : Option Hint) {value : Option Hint}
    (h : ∀ v, value = some v → Issues (r.watch path seen v) () (resolve r seen v).value P) :
    Issues (r.watchParts path seen (.map key value)) () (resolve r seen (.map key value)).value P := by
  cases value with
  | none =>
    rw [Registry.watchParts, resolve]
    split <;> exact Issues.pure () _
  | some value =>
    rw [Registry.watchParts, resolve_map]
    split
    · exact (h value rfl).map fun d => Descriptor.object ⟨[], [], .values d⟩
    · exact Issues.pure () _

theorem issues_watchParts_record {record : Record Hint}
    (h : (∀ own, record.name = some own → own ∉ seen) → ∀ f ∈ record.fields,
      Issues (r.watch path (record.name.toList ++ seen) f.hint) ()
        (resolve r (record.name.toList ++ seen) f.hint).value P) :
    Issues (r.watchParts path seen (.record record)) () (resolve r seen (.record record)).value P := by
  obtain ⟨own, fields, closed⟩ := record
  rw [Registry.watchParts.eq_def]
  rcases Record.open_or_seen ⟨own, fields, closed⟩ seen with hopen | ⟨own, hname, hseen⟩
  · rw [resolve_record hopen]
    cases own with
    | none => exact issues_watchFields _ (h hopen)
    | some name =>
      dsimp only
      rw [if_neg (hopen name rfl)]
      exact issues_watchFields _ (h hopen)
  · rw [resolve_record_of_mem hname hseen]
    cases hname
    dsimp only
    rw [if_pos hseen]
    exact Issues.pure () _

/-- a name is looked up where it is not under expansion, and a record of its own is entered at once -/
theorem issues_watchParts_named {name : String}
    (hhint : ∀ hint, name ∉ seen → r.get? name = some hint →
      Issues (r.watch (name :: path) (name :: seen) hint) () (resolve r (name :: seen) hint).value P)
    (hrecord : ∀ record, name ∉ seen → r.get? name = some (.record record) → ∀ f ∈ record.fields,
      Issues (r.watch (name :: path) (name :: seen) f.hint) () (resolve r (name :: seen) f.hint).value P) :
    Issues (r.watchParts path seen (.named name)) () (resolve r seen (.named name)).value P := by
  rw [Registry.watchParts]
  by_cases hseen : name ∈ seen
  · rw [resolve_named_of_mem hseen, if_pos hseen]
    exact Issues.pure () _
  · rw [if_neg hseen]
    cases hget : r.get? name with
    | none =>
      rw [resolve_named_of_unregistered hseen hget]
      exact Issues.pure () _
    | some hint =>
      rw [resolve_named hseen hget]
      dsimp only
      cases hown : hint.recordOf? name with
      | none => exact hhint hint hseen hget
      | some record =>
        rw [Hint.eq_record_of_recordOf? hown] at hget
        exact issues_watchFields _ (hrecord record hseen hget)

/-- **What is handed on holds of all on record.** A watched run ends with the type that `resolve` gives. If a property
holds of the hint at the start, and goes from each hint to those that resolution goes on to, it holds of all that the
run comes to, with the names that are under expansion there. -/
theorem issues_watch_under {P : List String → Sight → Prop} (hP : r.HandsDown P) (path seen : List String) (h : Hint)
    (hstart : P seen ⟨path, h⟩) :
    Issues (r.watch path seen h) () (resolve r seen h).value fun e => ∃ names, P names e := by
  induction seen, h using Guarded.induct r generalizing path with
  | step seen h fresher smaller under =>
  rw [Registry.watch]
  have hhere : Issues (emit fun _ : Unit => Sight.mk path h) () () fun e => ∃ names, P names e :=
    Issues.emit ⟨seen, hstart⟩
  refine hhere.bind ?_
  cases h with
  | array item =>
    cases item with
    | none =>
      rw [Registry.watchParts, resolve]
      exact Issues.pure () _
    | some item =>
      have hitem := smaller item (Hint.weight_item_lt item) path (hP.item _ _ _ hstart)
      rw [Registry.watchParts, resolve]
      exact hitem.map Descriptor.array
  | map key value =>
    refine issues_watchParts_map key fun v hv => ?_
    subst hv
    exact smaller v (Hint.weight_value_lt key v) path (hP.value _ _ _ _ hstart)
  | optional inner =>
    rw [Registry.watchParts, resolve]
    refine issues_watchUnion fun m hm => smaller m ?_ path (hP.member _ _ _ hstart m hm)
    exact Hint.weight_lt_of_mem_optional hm
  | union hints =>
    rw [Registry.watchParts, resolve]
    refine issues_watchUnion fun m hm => smaller m ?_ path (hP.member _ _ _ hstart m hm)
    exact Hint.weight_lt_of_mem_union hm
  | literal values =>
    rw [Registry.watchParts, resolve]
    exact Issues.pure () _
  | record record =>
    refine issues_watchParts_record fun hopen f hf => under record.name f.hint ?_ path ?_
    · exact Hint.weight_field_lt hf
    · exact hP.field seen path record hopen hstart f hf
  | named name =>
    have hexpand := fun hint (hget : r.get? name = some hint) => fresher name (Registry.mem_names_of_get? hget)
    refine issues_watchParts_named (fun hint hseen hget => ?_) fun record hseen hget f hf => ?_
    · exact hexpand hint hget hseen hint (name :: path) (hP.reference _ _ _ _ hseen hget hstart)
    · exact hexpand _ hget hseen f.hint (name :: path) (hP.registered _ _ _ _ hseen hget hstart f hf)
  | unsupported label =>
    rw [Registry.watchParts, resolve]
    exact Issues.pure () _
  | _ =>
    rw [Registry.watchParts, resolve]
    exact Issues.pure () _

/-- what is handed on without regard to the names under expansion holds of all on record -/
theorem issues_watch (hP : r.HandsOn P) (path seen : List String) (h : Hint) (hstart : P ⟨path, h⟩) :
    Issues (r.watch path seen h) () (resolve r seen h).value P := by
  obtain ⟨met, hends, hmet⟩ := issues_watch_under hP.handsDown path seen h hstart
  exact ⟨met, hends, fun e he => (hmet e he).elim fun _ => id⟩

end ToolSchema
