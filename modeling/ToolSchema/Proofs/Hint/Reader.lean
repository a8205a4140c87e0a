/-
The reading of a document with one stack that every step shares.

`readSchema` is given the names under expansion and hands each part of a schema its own. `Json.read` has one stack of
them: putting a definition in place pushes its name, reads on and pops it, and nothing bounds the recursion. A run puts
on record what matters to the names, each time with the path of names that are under expansion at that point (`Event`):
which name is pushed, and which name is left in the hint, because it is on the path or because nothing defines it.

- `follows_within`: what is read under one more name leaves the stack as it was.
- `follows_read`: the induction over names still fresh and schemas inside (`reading_induct`).
- `reader_document_ends`: every run ends with the answer of `ofSchema`, and its record holds nothing unsound.
-/
import ToolSchema.Proofs.Hint.Names
import ToolSchema.Proofs.Hint.Recursion
import ToolSchema.Proofs.Run

namespace ToolSchema

open Run

namespace Hint

/-- what a reading reports, and what happens to the names of definitions on its way -/
inductive Event where
  | note (d : Diagnostic)
  /-- a definition is put in place, inside those of the path -/
  | expands (path : List String) (name : String)
  /-- a name is left because it is being expanded -/
  | cuts (path : List String) (name : String)
  /-- a name is left because the reference leads to no definition -/
  | misses (path : List String) (reference : String)

namespace Event

def note? : Event → Option Diagnostic
  | .note d => some d
  | _ => none

/-- the name that is left in the hint -/
def left? : Event → Option String
  | .cuts _ name => some name
  | .misses _ reference => some (referenceName reference)
  | _ => none

/-- No name is expanded twice on one path, and a name that is left is on the path or without definition. -/
def Sound (root : Json) : Event → Prop
  | .note _ => True
  | .expands path name => (name :: path).Nodup
  | .cuts path name => name ∈ path
  | .misses _ reference => reference ≠ "#" ∧ definition? root reference (referenceName reference) = none

end Event

/-- a run that writes to the stack of names under expansion, the innermost first -/
abbrev Reader := Run (List String) Event

namespace Reader

/-- put a name on the stack -/
def push (name : String) : Reader Unit := fun tape =>
  some ((), ⟨name :: tape.guard, tape.events ++ [.expands tape.guard name]⟩)

/-- take the innermost name off -/
def pop : Reader Unit := fun tape => some ((), ⟨tape.guard.tail, tape.events⟩)

/-- the name is on the stack -/
def isOpen (name : String) : Reader Bool := fun tape =>
  some (tape.guard.contains name, tape)

/-- read under a name -/
abbrev within (name : String) (reading : Reader Hint) : Reader Hint := do
  push name
  let h ← reading
  pop
  return h

end Reader

end Hint

/-! ## Reading -/

namespace Json

open Hint Hint.Reader

mutual

def read (root schema : Json) : Reader Hint :=
  match schema with
  | .bool true => pure .any
  | .bool false => pure (.unsupported "never")
  | .object node =>
    match Node.of node with
    | .reference reference => root |>.readReference reference
    | .literal values => pure (.literal values)
    | .alternatives variants => do
      let hints ← variants.mapM fun schema => root |>.read schema
      return ofAlternatives hints
    | .part schema => root |>.read schema
    | .severalParts => report .note (unsupportedWith "allOf" .severalParts)
    | .typed kinds => do
      let hints ← kinds.mapM fun kind => root |>.readTyped node kind
      return ofKinds hints
    | .untyped => pure .any
  | other =>
    report .note do
      Traced.note (.schemaNotObject other)
      return .any
partial_fixpoint

def readReference (root : Json) (reference : String) : Reader Hint :=
  if reference = "#" then root |>.expand (rootName root) root
  else
    match definition? root reference (referenceName reference) with
    | some definition => root |>.expand (referenceName reference) definition
    | none => do
      emit fun path => .misses path reference
      return .named (referenceName reference)
partial_fixpoint

def expand (root : Json) (name : String) (definition : Json) : Reader Hint := do
  if ← isOpen name then
    emit fun path => .cuts path name
    return .named name
  else
    let h ← within name (root |>.read definition)
    return withName name h
partial_fixpoint

def readTyped (root : Json) (node : List (String × Json)) (kind : String) : Reader Hint :=
  match kind with
  | "null" => pure .null
  | "string" => pure .string
  | "integer" => pure .integer
  | "number" => pure .number
  | "boolean" => pure .boolean
  | "array" =>
    match items? node with
    | some items => do
      let h ← root |>.read items
      return .array (some h)
    | none =>
      match tupleItems? node with
      | some items => do
        let hints ← items.mapM fun item => root |>.read item
        report .note (ofTuple hints)
      | none => pure (.array none)
  | "object" =>
    match properties? node with
    | some properties => do
      let fields ← properties.mapM fun p => do
        let h ← root |>.read p.2
        return (⟨p.1, h, (requiredNames node).contains p.1⟩ : Field Hint)
      return .record ⟨(node.lookup "title").bind Json.string?, fields, isClosed node⟩
    | none =>
      if isClosed node then pure (.record ⟨none, [], true⟩)
      else
        match values? node with
        | some values => do
          let h ← root |>.read values
          return .map (some .string) (some h)
        | none => pure (.map none none)
  | other => report .note (unsupportedWith other (.unknownSchemaType other))
partial_fixpoint

end

/-- read a whole document, under its title if it has one -/
def document (root : Json) : Reader Hint :=
  match title? root with
  | some name => within name (root.read root)
  | none => root.read root

end Json

namespace Hint.Reader

/-! ## What a reading comes to -/

/-- the record is of these reports, sound at each point, and has every name left, in order -/
structure Accounts (root : Json) (names : List String) (notes : List Diagnostic) (events : List Event) : Prop where
  notes_eq : events.filterMap Event.note? = notes
  sound : ∀ e ∈ events, e.Sound root
  names_sublist : names.Sublist (events.filterMap Event.left?)

variable {α β : Type} {root : Json} {path : List String}

/-- with these names under expansion the run ends with the result, on record what happened to the names, and they are
under expansion afterwards -/
def Follows (root : Json) (path : List String) (x : Reader α) (result : Traced α) (names : List String) : Prop :=
  ∃ events, Ends x path result.value events ∧ Accounts root names result.notes events

theorem accounts_nil (root : Json) : Accounts root [] [] [] :=
  ⟨rfl, List.forall_mem_nil _, List.nil_sublist _⟩

theorem follows_pure (root : Json) (path : List String) (a : α) : Follows root path (pure a) (pure a) [] :=
  ⟨[], Ends.pure path a, accounts_nil root⟩

theorem follows_report (root : Json) (path : List String) (result : Traced α) :
    Follows root path (report .note result) result [] := by
  refine ⟨result.notes.map Event.note, Ends.report Event.note result path, ⟨?_, ?_, List.nil_sublist _⟩⟩
  · rw [List.filterMap_map]
    exact List.filterMap_some
  · intro e he
    obtain ⟨d, -, rfl⟩ := List.mem_map.1 he
    trivial

/-- one event that is no report -/
theorem accounts_singleton {e : Event} (hnote : e.note? = none) (hsound : e.Sound root) :
    Accounts root e.left?.toList [] [e] := by
  refine ⟨?_, ?_, ?_⟩
  · rw [List.filterMap_cons_none hnote, List.filterMap_nil]
  · intro e' he'
    rw [List.mem_singleton.1 he']
    exact hsound
  · cases hleft : e.left? with
    | none => exact List.nil_sublist _
    | some name =>
      rw [List.filterMap_cons_some hleft]
      exact List.Sublist.refl _

theorem Accounts.append {names names' : List String} {notes notes' : List Diagnostic} {es es' : List Event}
    (h : Accounts root names notes es) (h' : Accounts root names' notes' es') :
    Accounts root (names ++ names') (notes ++ notes') (es ++ es') := by
  refine ⟨?_, ?_, ?_⟩
  · rw [List.filterMap_append, h.notes_eq, h'.notes_eq]
  · intro e he
    rcases List.mem_append.1 he with he | he
    · exact h.sound e he
    · exact h'.sound e he
  · rw [List.filterMap_append]
    exact h.names_sublist.append h'.names_sublist

namespace Follows

variable {x : Reader α} {f : α → Reader β} {result : Traced α} {next : α → Traced β} {names names' : List String}

theorem of_sublist (h : Follows root path x result names) (hsub : names'.Sublist names) :
    Follows root path x result names' := by
  obtain ⟨events, hends, haccounts⟩ := h
  exact ⟨events, hends, haccounts.notes_eq, haccounts.sound, hsub.trans haccounts.names_sublist⟩

theorem bind (hx : Follows root path x result names)
    (hf : Follows root path (f result.value) (next result.value) names') :
    Follows root path (x >>= f) (result >>= next) (names ++ names') := by
  obtain ⟨es, hends, haccounts⟩ := hx
  obtain ⟨es', hends', haccounts'⟩ := hf
  exact ⟨es ++ es', hends.bind hends', haccounts.append haccounts'⟩

/-- a step that only gives the value its form -/
theorem map (hx : Follows root path x result names) (g : α → β) :
    Follows root path (x >>= fun a => pure (g a)) (result >>= fun a => pure (g a)) names := by
  rw [← List.append_nil names]
  exact hx.bind (follows_pure root path (g result.value))

end Follows

theorem follows_mapM {f : α → Reader β} {result : α → Traced β} {names : α → List String} {l : List α}
    (h : ∀ a ∈ l, Follows root path (f a) (result a) (names a)) :
    Follows root path (l.mapM f) (l.mapM result) (l.flatMap names) := by
  induction l with
  | nil => exact follows_pure root path []
  | cons a rest ih =>
    rw [List.forall_mem_cons] at h
    rw [List.mapM_cons, List.mapM_cons, List.flatMap_cons]
    exact h.1.bind ((ih h.2).map fun bs => _ :: bs)

/-! ## Definitions -/

/-- **Pushing and popping.** What leaves the stack with one more name as it is, leaves the stack as it is. -/
theorem follows_within {name : String} {reading : Reader Hint} {result : Traced Hint} {names : List String}
    (hpath : (name :: path).Nodup) (h : Follows root (name :: path) reading result names) :
    Follows root path (within name reading) result names := by
  obtain ⟨events, hends, haccounts⟩ := h
  have hpush : Accounts root [] [] [.expands path name] := accounts_singleton (e := .expands path name) rfl hpath
  refine ⟨.expands path name :: events, fun before => ?_, hpush.append haccounts⟩
  calc within name reading ⟨path, before⟩
    _ = (reading ⟨name :: path, before ++ [.expands path name]⟩).bind
          fun p => some (p.1, ⟨p.2.guard.tail, p.2.events⟩) := rfl
    _ = some (result.value, ⟨path, before ++ [.expands path name] ++ events⟩) := by
      rw [hends]
      rfl
    _ = some (result.value, ⟨path, before ++ .expands path name :: events⟩) := by
      rw [List.append_assoc, List.singleton_append]

/-- the reading of a schema comes to what `readSchema` says of it -/
abbrev FollowsSchema (root : Json) (path : List String) (schema : Json) : Prop :=
  Follows root path (root.read schema) (readSchema root path schema) (readSchema root path schema).value.names

/-- a test of the stack, and what follows on its outcome -/
theorem follows_isOpen {name : String} {answer : Bool} {f : Bool → Reader α} {result : Traced α} {names : List String}
    (hanswer : path.contains name = answer) (h : Follows root path (f answer) result names) :
    Follows root path (isOpen name >>= f) result names := by
  obtain ⟨events, hends, haccounts⟩ := h
  refine ⟨events, fun before => ?_, haccounts⟩
  calc (isOpen name >>= f) ⟨path, before⟩
    _ = f (path.contains name) ⟨path, before⟩ := rfl
    _ = some (result.value, ⟨path, before ++ events⟩) := by rw [hanswer, hends]

/-- a name left in the hint, for a reason that holds -/
theorem follows_left {e : List String → Event} {name : String} (hleft : (e path).left? = some name)
    (hsound : (e path).Sound root) :
    Follows root path (emit e >>= fun _ => pure (.named name)) (pure (Hint.named name)) [name] := by
  have hnote : (e path).note? = none := by
    cases hevent : e path with
    | note d =>
      rw [hevent] at hleft
      cases hleft
    | _ => rfl
  have haccounts : Accounts root (e path).left?.toList [] [e path] := accounts_singleton hnote hsound
  rw [hleft] at haccounts
  exact ⟨[e path], (Ends.emit e path).map fun _ => Hint.named name, haccounts⟩

theorem follows_expand {name : String} {definition : Json} (hname : name ∈ expandable root) (hpath : path.Nodup)
    (h : name ∉ path → FollowsSchema root (name :: path) definition) :
    Follows root path (root.expand name definition) (expand root path name definition hname)
      (expand root path name definition hname).value.names := by
  rw [Json.expand, expand]
  by_cases hmem : name ∈ path
  · have hanswer : path.contains name = true := List.contains_iff_mem.2 hmem
    rw [dif_pos hmem]
    exact follows_isOpen hanswer (follows_left (e := fun path => .cuts path name) rfl hmem)
  · have hanswer : path.contains name = false := by simpa using hmem
    have hwithin := follows_within (List.nodup_cons.2 ⟨hmem, hpath⟩) (h hmem)
    rw [dif_neg hmem, Traced.bind_value, Traced.pure_value, names_withName]
    exact follows_isOpen hanswer (hwithin.map (withName name))

/-! ## Schemas -/

theorem follows_readAll {schemas : List Json} (h : ∀ schema ∈ schemas, FollowsSchema root path schema) :
    Follows root path (schemas.mapM root.read) (readAll root path schemas)
      (allNames (readAll root path schemas).value) := by
  rw [allNames_eq_flatMap, readAll_value, List.flatMap_map, readAll_eq_mapM]
  exact follows_mapM h

theorem follows_readFields {properties : List (String × Json)} (required : List String)
    (h : ∀ p ∈ properties, FollowsSchema root path p.2) :
    Follows root path
      (properties.mapM fun p => do
        let h ← root.read p.2
        return (⟨p.1, h, required.contains p.1⟩ : Field Hint))
      (readFields root path required properties) (fieldNames (readFields root path required properties).value) := by
  rw [fieldNames_eq_flatMap, readFields_value, List.flatMap_map, readFields_eq_mapM]
  exact follows_mapM fun p hp => (h p hp).map fun h => (⟨p.1, h, required.contains p.1⟩ : Field Hint)

section

variable {node : List (String × Json)}

theorem follows_readArray (h : ∀ part, Part (.object node) part → FollowsSchema root path part) :
    Follows root path (root.readTyped node "array") (readKind root path node "array")
      (readKind root path node "array").value.names := by
  rw [Json.readTyped, readKind]
  cases hitems : items? node with
  | some items => exact (h items (.items hitems)).map fun h => Hint.array (some h)
  | none =>
    cases htuple : tupleItems? node with
    | some items =>
      have hall := follows_readAll fun item hitem => h item (.tupleItem htuple hitem)
      have hwhole : Follows root path (items.mapM root.read >>= fun hints => report .note (ofTuple hints))
          (readAll root path items >>= ofTuple) (allNames (readAll root path items).value ++ []) :=
        hall.bind (follows_report root path _)
      exact hwhole.of_sublist (List.sublist_append_of_sublist_left (names_ofTuple _))
    | none => exact follows_pure root path _

theorem follows_readObject (h : ∀ part, Part (.object node) part → FollowsSchema root path part) :
    Follows root path (root.readTyped node "object") (readKind root path node "object")
      (readKind root path node "object").value.names := by
  rw [Json.readTyped, readKind]
  cases hproperties : properties? node with
  | some properties =>
    have hfields := follows_readFields (requiredNames node) fun p hp => h p.2 (.property hproperties hp)
    exact hfields.map fun fields => Hint.record ⟨(node.lookup "title").bind Json.string?, fields, isClosed node⟩
  | none =>
    dsimp only
    split
    · exact follows_pure root path _
    · cases hvalues : values? node with
      | some values => exact (h values (.values hvalues)).map fun h => Hint.map (some .string) (some h)
      | none => exact follows_pure root path _

/-- the contents of a node, taken to be of one kind -/
theorem follows_readTyped (kind : String) (h : ∀ part, Part (.object node) part → FollowsSchema root path part) :
    Follows root path (root.readTyped node kind) (readKind root path node kind)
      (readKind root path node kind).value.names := by
  by_cases harray : kind = "array"
  · exact harray ▸ follows_readArray h
  by_cases hobject : kind = "object"
  · exact hobject ▸ follows_readObject h
  -- all other kinds are read without a look into the node
  unfold Json.readTyped
  split
  case h_6 => exact absurd rfl harray
  case h_7 => exact absurd rfl hobject
  case h_8 =>
    rw [readKind] <;> try assumption
    exact follows_report root path _
  all_goals
    rw [readKind]
    exact follows_pure root path _

end

/-- **One schema.** Whichever keyword it is read by: definitions are read under one more name, schemas inside under the
same names. -/
theorem follows_read (path : List String) (schema : Json) (hpath : path.Nodup) : FollowsSchema root path schema := by
  induction path, schema using reading_induct root with
  | step path schema definitions parts =>
  have hdefinition : ∀ name ∈ expandable root, ∀ definition, name ∉ path →
      FollowsSchema root (name :: path) definition :=
    fun name hname definition hmem => definitions name hname hmem definition (List.nodup_cons.2 ⟨hmem, hpath⟩)
  have hpart : ∀ part, Part schema part → FollowsSchema root path part := fun part h => parts part h hpath
  cases schema with
  | object node =>
    rw [FollowsSchema, Json.read, readSchema]
    cases hof : Node.of node with
    | reference reference =>
      dsimp only
      rw [Json.readReference]
      split
      · have hname : rootName root ∈ expandable root := List.mem_cons_self
        exact follows_expand hname hpath (hdefinition _ hname root)
      · next hself =>
        split
        · next definition hdef =>
          have hname := mem_expandable hdef
          split
          · next definition' hdef' =>
            cases hdef.symm.trans hdef'
            exact follows_expand hname hpath (hdefinition _ hname definition)
          · next hnone => cases hdef.symm.trans hnone
        · next hdef =>
          split
          · next definition hsome => cases hdef.symm.trans hsome
          · exact follows_left (e := fun path => .misses path reference) rfl ⟨hself, hdef⟩
    | literal values => exact follows_pure root path _
    | alternatives variants =>
      have hall := follows_readAll fun schema hschema => hpart schema (.alternative hof hschema)
      dsimp only
      rw [Traced.bind_value, Traced.pure_value, names_ofAlternatives]
      exact hall.map ofAlternatives
    | part schema => exact hpart schema (.sole hof)
    | severalParts => exact follows_report root path _
    | typed kinds =>
      have hall : Follows root path (kinds.mapM (root.readTyped node)) (kinds.mapM (readKind root path node))
          (kinds.flatMap fun kind => (readKind root path node kind).value.names) :=
        follows_mapM fun kind _ => follows_readTyped kind hpart
      dsimp only
      rw [Traced.bind_value, Traced.pure_value, names_ofKinds, allNames_eq_flatMap, readKinds_value, List.flatMap_map,
        readKinds_eq_mapM]
      exact hall.map ofKinds
    | untyped => exact follows_pure root path _
  | bool b =>
    rw [FollowsSchema]
    cases b with
    | true =>
      rw [Json.read, readSchema]
      exact follows_pure root path _
    | false =>
      rw [Json.read, readSchema]
      exact follows_pure root path _
  | _ =>
    simp only [FollowsSchema, Json.read, readSchema]
    exact follows_report root path _

theorem follows_document (root : Json) :
    Follows root [] root.document (ofSchema root) (ofSchema root).value.names := by
  rw [Json.document, ofSchema]
  cases title? root with
  | none => exact follows_read [] root List.nodup_nil
  | some name =>
    have hpath : [name].Nodup := List.nodup_cons.2 ⟨List.not_mem_nil, List.nodup_nil⟩
    exact follows_within hpath (follows_read [name] root hpath)

end Hint.Reader

namespace Hint

/-- **Reading always ends.** Of every document, whatever its references lead to, the run comes to the hint of `ofSchema`
with its diagnostics, and leaves its stack empty. On its way no name is pushed while it is on the stack, and the names
left in the hint are, in order, among those it left: each of them on the stack at that point, or of a reference without
definition. -/
theorem reader_document_ends (root : Json) :
    ∃ events, Ends root.document [] (ofSchema root).value events ∧
      events.filterMap Event.note? = (ofSchema root).notes ∧ (∀ e ∈ events, e.Sound root) ∧
      (ofSchema root).value.names.Sublist (events.filterMap Event.left?) := by
  obtain ⟨events, hends, haccounts⟩ := Reader.follows_document root
  exact ⟨events, hends, haccounts.notes_eq, haccounts.sound, haccounts.names_sublist⟩

end Hint

end ToolSchema
