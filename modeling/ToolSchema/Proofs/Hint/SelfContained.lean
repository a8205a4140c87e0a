/-
Documents that define all they refer to.

Each reference of a self-contained document leads to the whole document or to one of its definitions. Reading leaves a
name only where a definition refers back to itself, for resolution to cut. But resolution cuts a name only inside of
the record that has it, so that the document needs one thing more: what refers back to itself is a record, and is read
under its own name (`Anchored`). Then no name is free in its hint (`free_ofSchema`), and it means the same whatever is
registered (`resolve_ofSchema_eq`). In other documents a registered type may take the place of the recursion
(`listDocument_captured`).

The induction (`bound_readSchema`) carries two facts from the parts of a schema to the whole (`Bound`). What is free in
its hint is under expansion; and so is what is free inside of the hint if it is a record. The second is needed because
the expansion of a definition puts another name on the record that it gets.
-/
import ToolSchema.Proofs.Hint.Reading
import ToolSchema.Proofs.Resolve.Free

namespace ToolSchema

/-! ## References -/

namespace Json

mutual

/-- the references in a document, wherever they stand -/
def references : Json → List String
  | .array items => itemReferences items
  | .object members => memberReferences members
  | _ => []

def itemReferences : List Json → List String
  | [] => []
  | v :: rest => references v ++ itemReferences rest

def memberReferences : List (String × Json) → List String
  | [] => []
  | (key, v) :: rest => (if key = "$ref" then v.string?.toList else []) ++ references v ++ memberReferences rest

end

variable {items : List Json} {members : List (String × Json)} {v : Json}

theorem references_subset_of_mem_items (hv : v ∈ items) : v.references ⊆ (array items).references := by
  rw [references]
  induction items with
  | nil => simp at hv
  | cons w rest ih =>
    rw [itemReferences]
    rcases List.mem_cons.1 hv with rfl | hrest
    · exact List.subset_append_left _ _
    · exact List.Subset.trans (ih hrest) (List.subset_append_right _ _)

theorem memberReferences_subset {key : String} (hv : (key, v) ∈ members) :
    (if key = "$ref" then v.string?.toList else []) ++ v.references ⊆ (object members).references := by
  rw [references]
  induction members with
  | nil => simp at hv
  | cons m rest ih =>
    obtain ⟨k, w⟩ := m
    rw [memberReferences]
    rcases List.mem_cons.1 hv with hfirst | hrest
    · cases hfirst
      exact List.subset_append_left _ _
    · exact List.Subset.trans (ih hrest) (List.subset_append_right _ _)

theorem references_subset_of_mem_members {m : String × Json} (hm : m ∈ members) :
    m.2.references ⊆ (object members).references :=
  List.Subset.trans (List.subset_append_right _ _) (memberReferences_subset hm)

theorem references_subset_of_lookup {key : String} (hv : members.lookup key = some v) :
    v.references ⊆ (object members).references :=
  references_subset_of_mem_members (Entries.mem_of_lookup hv)

theorem mem_references_of_lookup {path : String} (h : members.lookup "$ref" = some (.string path)) :
    path ∈ (object members).references :=
  memberReferences_subset (Entries.mem_of_lookup h) (List.mem_append_left _ (List.mem_singleton_self path))

end Json

namespace Schema

/-- each reference leads to the document, or to a definition that is there -/
def SelfContained (root : Json) : Prop :=
  ∀ path ∈ root.references, isLocal path = true ∧ (target? root path).isSome = true

instance (root : Json) : Decidable (SelfContained root) :=
  inferInstanceAs (Decidable (∀ path ∈ root.references, isLocal path = true ∧ (target? root path).isSome = true))

end Schema

namespace Hint

open Schema

variable {root schema part definition : Json} {stack : List String} {node : List (String × Json)} {path name : String}

theorem references_subset_of_part (h : Part schema part) : part.references ⊆ schema.references := by
  cases h with
  | @alternative node variants part hof hpart =>
    have hsays := Node.says_of_eq hof nofun nofun
    have hvariants : (Json.array variants).references ⊆ (Json.object node).references := by
      cases hsays with
      | anyOf h => exact Json.references_subset_of_lookup h
      | oneOf h => exact Json.references_subset_of_lookup h
    exact List.Subset.trans (Json.references_subset_of_mem_items hpart) hvariants
  | @sole node part hof =>
    have hsays := Node.says_of_eq hof nofun nofun
    cases hsays with
    | allOf h =>
      have hpart : part ∈ [part] := List.mem_singleton_self part
      exact List.Subset.trans (Json.references_subset_of_mem_items hpart) (Json.references_subset_of_lookup h)
  | items h => exact Json.references_subset_of_lookup (Option.filter_eq_some_iff.1 h).1
  | @tupleItem node parts part h hpart =>
    have hlookup := lookup_of_tupleItems? h
    exact List.Subset.trans (Json.references_subset_of_mem_items hpart) (Json.references_subset_of_lookup hlookup)
  | @property node properties p h hp =>
    have hlookup := lookup_of_properties? h
    exact List.Subset.trans (Json.references_subset_of_mem_members hp) (Json.references_subset_of_lookup hlookup)
  | values h => exact Json.references_subset_of_lookup (Option.filter_eq_some_iff.1 h).1

theorem references_subset_of_definitions {s : String} (h : (definitions root s).lookup name = some definition) :
    definition.references ⊆ root.references := by
  obtain ⟨node, members, rfl, hsection, hlookup⟩ := exists_section_of_lookup h
  exact List.Subset.trans (Json.references_subset_of_lookup hlookup) (Json.references_subset_of_lookup hsection)

/-! ## Definitions and their names -/

/-- the name that is under expansion while what a reference leads to is read -/
def nameOf (root : Json) (path : String) : String :=
  if path = "#" then rootName root else referenceName path

/-- the schema is read under the name -/
inductive Defines (root : Json) : String → Json → Prop
  | document : Defines root (rootName root) root
  | definition {s name : String} {schema : Json} (hs : s ∈ sections)
    (h : (definitions root s).lookup name = some schema) : Defines root name schema

theorem Defines.references_subset (h : Defines root name definition) : definition.references ⊆ root.references := by
  cases h with
  | document => exact List.Subset.refl _
  | definition hs h => exact references_subset_of_definitions h

theorem Defines.mem_expandable (h : Defines root name definition) : name ∈ expandable root := by
  cases h with
  | document => exact List.mem_cons_self
  | @definition s name definition hs h =>
    have hkey : name ∈ (definitions root s).map Prod.fst := List.mem_map_of_mem (Entries.mem_of_lookup h)
    exact List.mem_cons_of_mem _ (List.mem_flatMap.2 ⟨s, hs, hkey⟩)

theorem defines_of_target? (hlocal : isLocal path = true) (htarget : target? root path = some definition) :
    Defines root (nameOf root path) definition := by
  rw [nameOf]
  split
  · next hself =>
    subst hself
    cases htarget
    exact .document
  · next hself =>
    obtain ⟨s, hs, key, hkey, hpath⟩ := exists_key_of_isLocal hlocal hself
    rw [target?_eq hs hkey hpath] at htarget
    rw [referenceName_eq hkey hpath]
    exact .definition hs htarget

theorem expand_value (hname : name ∈ expandable root) :
    (expand root stack name definition hname).value =
      if name ∈ stack then .named name else withName name (readSchema root (name :: stack) definition).value := by
  rw [expand]
  split <;> rfl

/-- a reference that leads to a definition puts it in place, or is left where that is under expansion -/
theorem readSchema_reference (hof : Node.of node = .reference path) (hlocal : isLocal path = true)
    (htarget : target? root path = some definition) :
    (readSchema root stack (.object node)).value =
      if nameOf root path ∈ stack then .named (nameOf root path)
      else withName (nameOf root path) (readSchema root (nameOf root path :: stack) definition).value := by
  rw [readSchema]
  split <;> rename_i hcase <;> cases hcase.symm.trans hof
  by_cases hself : path = "#"
  · subst hself
    cases htarget
    exact expand_value List.mem_cons_self
  · rw [target?_eq_definition? hlocal hself] at htarget
    rw [if_neg hself, nameOf, if_neg hself]
    split
    · next definition' hdef =>
      cases hdef.symm.trans htarget
      exact expand_value (mem_expandable hdef)
    · next hnone => cases hnone.symm.trans htarget

/-! ## Anchored documents -/

/-- the schema is an object with properties, which is read as a record -/
def IsRecord (schema : Json) : Prop :=
  ∃ node, schema = .object node ∧ Node.of node = .typed ["object"] ∧ (properties? node).isSome = true

/-- all that the schema says is that the reference holds -/
inductive PassesOn : Json → String → Prop
  | reference {node : List (String × Json)} {path : String} (hof : Node.of node = .reference path) :
    PassesOn (.object node) path
  | part {node : List (String × Json)} {schema : Json} {path : String} (hof : Node.of node = .part schema)
    (h : PassesOn schema path) : PassesOn (.object node) path
  | alternative {node : List (String × Json)} {schema : Json} {path : String}
    (hof : Node.of node = .alternatives [schema]) (h : PassesOn schema path) : PassesOn (.object node) path

/-- What refers back to itself, so that its name is left, is a record, and no definition is a second name for it. -/
structure Anchored (root : Json) : Prop where
  records : ∀ name ∈ (ofSchema root).value.names, ∀ schema, Defines root name schema → IsRecord schema
  aliases : ∀ path ∈ root.references, ∀ definition, target? root path = some definition →
    ∀ next, PassesOn definition next → nameOf root next ∉ (ofSchema root).value.names

/-! ## What is free in the hint of a schema -/

/-- free in the hint are only names under expansion; the same goes inside of it, if it is a record, unless the schema
passes on to one of the names that are left -/
structure Bound (root : Json) (left stack : List String) (schema : Json) (h : Hint) : Prop where
  free_subset : h.free ⊆ stack
  freeInside_subset : (∀ next, PassesOn schema next → nameOf root next ∉ left) → h.freeInside ⊆ stack

variable {left : List String}

theorem bound_of_freeInside {h : Hint} (hinside : h.freeInside ⊆ stack) : Bound root left stack schema h :=
  ⟨List.Subset.trans (free_subset_freeInside h) hinside, fun _ => hinside⟩

theorem freeInside_eq_nil_of_names {h : Hint} (hnames : h.names = []) : h.freeInside = [] :=
  List.subset_nil.1 (hnames ▸ freeInside_subset_names h)

theorem bound_of_names_eq_nil {h : Hint} (hnames : h.names = []) : Bound root left stack schema h := by
  apply bound_of_freeInside
  rw [freeInside_eq_nil_of_names hnames]
  exact List.nil_subset _

theorem exists_record_of_isRecord (h : IsRecord schema) (root : Json) (stack : List String) :
    ∃ fields closed, (readSchema root stack schema).value = .record ⟨title? schema, fields, closed⟩ := by
  obtain ⟨node, rfl, hof, hproperties⟩ := h
  obtain ⟨properties, hproperties⟩ := Option.isSome_iff_exists.1 hproperties
  exact ⟨_, _, (readSchema_typed hof).trans (readKind_record hproperties)⟩

/-- a record is what it is, not what a reference says -/
theorem not_passesOn_of_isRecord (h : IsRecord schema) (path : String) : ¬ PassesOn schema path := by
  obtain ⟨node, rfl, hof, -⟩ := h
  intro hpass
  cases hpass with
  | reference hof' => cases hof.symm.trans hof'
  | part hof' => cases hof.symm.trans hof'
  | alternative hof' => cases hof.symm.trans hof'

section

variable (h : ∀ part, Part (.object node) part → (readSchema root stack part).value.names ⊆ left →
  (readSchema root stack part).value.free ⊆ stack)

include h

theorem freeInside_readArray (hleft : (readKind root stack node "array").value.names ⊆ left) :
    (readKind root stack node "array").value.freeInside ⊆ stack := by
  cases hitems : items? node with
  | some items =>
    rw [readKind_array hitems] at hleft ⊢
    exact h items (.items hitems) hleft
  | none =>
    cases htuple : tupleItems? node with
    | none =>
      rw [readKind_bareArray hitems htuple]
      exact List.nil_subset _
    | some items =>
      rw [readKind_tuple hitems htuple] at hleft ⊢
      rcases ofTuple_cases (items.map fun schema => (readSchema root stack schema).value) with
        ⟨last, hmem, hvalue⟩ | hnames
      · obtain ⟨item, hitem, rfl⟩ := List.mem_map.1 hmem
        rw [hvalue] at hleft ⊢
        exact h item (.tupleItem htuple hitem) hleft
      · rw [freeInside_eq_nil_of_names hnames]
        exact List.nil_subset _

theorem freeInside_readObject (hleft : (readKind root stack node "object").value.names ⊆ left) :
    (readKind root stack node "object").value.freeInside ⊆ stack := by
  cases hproperties : properties? node with
  | some properties =>
    rw [readKind_record hproperties] at hleft ⊢
    rw [names, fieldNames_eq_flatMap, List.flatMap_map] at hleft
    rw [freeInside, fieldsFree_eq_flatMap, List.flatMap_map]
    intro name hname
    obtain ⟨p, hp, hfree⟩ := List.mem_flatMap.1 hname
    exact h p.2 (.property hproperties hp) (fun n hn => hleft (List.mem_flatMap.2 ⟨p, hp, hn⟩)) hfree
  | none =>
    rw [readKind_mapping hproperties] at hleft ⊢
    split
    · exact List.nil_subset _
    · next hclosed =>
      rw [if_neg hclosed] at hleft
      cases hvalues : values? node with
      | none => exact List.nil_subset _
      | some values =>
        rw [hvalues] at hleft
        exact h values (.values hvalues) hleft

theorem freeInside_readKind (kind : String) (hleft : (readKind root stack node kind).value.names ⊆ left) :
    (readKind root stack node kind).value.freeInside ⊆ stack := by
  by_cases harray : kind = "array"
  · subst harray
    exact freeInside_readArray h hleft
  by_cases hobject : kind = "object"
  · subst hobject
    exact freeInside_readObject h hleft
  rw [freeInside_eq_nil_of_names (names_readKind_of_ne harray hobject)]
  exact List.nil_subset _

/-- types by name, given what is free in the parts of the schema -/
theorem bound_kinds {kinds : List String} (hof : Node.of node = .typed kinds)
    (hleft : (readSchema root stack (.object node)).value.names ⊆ left) :
    Bound root left stack (.object node) (readSchema root stack (.object node)).value := by
  rw [readSchema_kinds hof] at hleft ⊢
  rw [names_ofKinds, allNames_eq_flatMap, List.flatMap_map] at hleft
  apply bound_of_freeInside
  intro name hname
  obtain ⟨hint, hmem, hfree⟩ := List.mem_flatMap.1 (freeInside_ofKinds_subset _ hname)
  obtain ⟨kind, hkind, rfl⟩ := List.mem_map.1 hmem
  exact freeInside_readKind h kind (fun n hn => hleft (List.mem_flatMap.2 ⟨kind, hkind, hn⟩)) hfree

end

/-! ## Every schema -/

/-- alternatives, given what is read from each of them; a sole one is the schema itself -/
theorem bound_alternatives {variants : List Json} (hof : Node.of node = .alternatives variants)
    (hleft : (readSchema root stack (.object node)).value.names ⊆ left)
    (h : ∀ variant ∈ variants, (readSchema root stack variant).value.names ⊆ left →
      Bound root left stack variant (readSchema root stack variant).value) :
    Bound root left stack (.object node) (readSchema root stack (.object node)).value := by
  rw [readSchema_alternatives hof] at hleft ⊢
  rw [names_ofAlternatives, allNames_eq_flatMap, List.flatMap_map] at hleft
  have hvariant : ∀ variant ∈ variants, Bound root left stack variant (readSchema root stack variant).value :=
    fun variant hmem => h variant hmem fun n hn => hleft (List.mem_flatMap.2 ⟨variant, hmem, hn⟩)
  by_cases hsole : variants.length = 1
  · obtain ⟨variant, rfl⟩ := List.length_eq_one_iff.1 hsole
    have hbound := hvariant variant (List.mem_singleton_self variant)
    exact ⟨hbound.free_subset, fun hpass => hbound.freeInside_subset fun next h => hpass next (.alternative hof h)⟩
  · apply bound_of_freeInside
    rw [freeInside_ofAlternatives (by rwa [List.length_map]), free_ofAlternatives, allFree_eq_flatMap, List.flatMap_map]
    intro name hname
    obtain ⟨variant, hmem, hfree⟩ := List.mem_flatMap.1 hname
    exact (hvariant variant hmem).free_subset hfree

/-- a reference, given what is read from the definition that it leads to -/
theorem bound_reference (hanchored : Anchored root) (hof : Node.of node = .reference path)
    (hpath : path ∈ root.references) (hlocal : isLocal path = true) (htarget : target? root path = some definition)
    (hleft : (readSchema root stack (.object node)).value.names ⊆ (ofSchema root).value.names)
    (h : nameOf root path ∉ stack →
      (readSchema root (nameOf root path :: stack) definition).value.names ⊆ (ofSchema root).value.names →
      Bound root (ofSchema root).value.names (nameOf root path :: stack) definition
        (readSchema root (nameOf root path :: stack) definition).value) :
    Bound root (ofSchema root).value.names stack (.object node) (readSchema root stack (.object node)).value := by
  rw [readSchema_reference hof hlocal htarget] at hleft ⊢
  split at hleft
  · next hmem =>
    rw [if_pos hmem]
    apply bound_of_freeInside
    intro name hname
    rw [List.mem_singleton.1 hname]
    exact hmem
  · next hmem =>
    rw [if_neg hmem]
    rw [names_withName] at hleft
    have hbound := h hmem hleft
    have hinside := hbound.freeInside_subset (hanchored.aliases path hpath definition htarget)
    -- what else is free inside is under expansion already
    have hother : ∀ name ∈ (readSchema root (nameOf root path :: stack) definition).value.freeInside,
        nameOf root path ≠ name → name ∈ stack := by
      intro name hname hne
      rcases List.mem_cons.1 (hinside hname) with rfl | hstack
      · exact absurd rfl hne
      · exact hstack
    by_cases hrecursive : nameOf root path ∈ (ofSchema root).value.names
    · have hrecord := hanchored.records _ hrecursive definition (defines_of_target? hlocal htarget)
      obtain ⟨fields, closed, hvalue⟩ := exists_record_of_isRecord hrecord root (nameOf root path :: stack)
      refine ⟨fun name hname => ?_, fun hpass => absurd hrecursive (hpass path (.reference hof))⟩
      rw [hvalue] at hname hother
      obtain ⟨hfields, hown⟩ := List.mem_filter.1 hname
      exact hother name hfields fun h => bne_iff_ne.1 hown (congrArg some h)
    · apply bound_of_freeInside
      rw [freeInside_withName]
      intro name hname
      apply hother name hname
      rintro rfl
      exact hrecursive (hleft (freeInside_subset_names _ hname))

/-- **What is free is under expansion.** That goes for every schema in an anchored document, if the names left in its
hint are among those left in the end. -/
theorem bound_readSchema (hself : SelfContained root) (hanchored : Anchored root) (stack : List String) (schema : Json)
    (hreferences : schema.references ⊆ root.references)
    (hleft : (readSchema root stack schema).value.names ⊆ (ofSchema root).value.names) :
    Bound root (ofSchema root).value.names stack schema (readSchema root stack schema).value := by
  induction stack, schema using reading_induct root with
  | step stack schema definitions parts =>
  have hpart : ∀ part, Part schema part →
      (readSchema root stack part).value.names ⊆ (ofSchema root).value.names →
      Bound root (ofSchema root).value.names stack part (readSchema root stack part).value :=
    fun part h => parts part h (List.Subset.trans (references_subset_of_part h) hreferences)
  cases schema with
  | object node =>
    cases hof : Node.of node with
    | reference path =>
      have hpath : path ∈ root.references := by
        cases Node.says_of_eq hof nofun nofun with
        | ref hlookup => exact hreferences (Json.mem_references_of_lookup hlookup)
      obtain ⟨hlocal, htarget⟩ := hself path hpath
      obtain ⟨definition, htarget⟩ := Option.isSome_iff_exists.1 htarget
      have hdefines := defines_of_target? hlocal htarget
      exact bound_reference hanchored hof hpath hlocal htarget hleft fun hmem hnames =>
        definitions _ hdefines.mem_expandable hmem definition hdefines.references_subset hnames
    | literal values =>
      rw [readSchema_literal hof]
      exact bound_of_names_eq_nil rfl
    | alternatives variants =>
      exact bound_alternatives hof hleft fun variant hmem => hpart variant (.alternative hof hmem)
    | part schema =>
      rw [readSchema_part hof] at hleft ⊢
      have hbound := hpart schema (.sole hof) hleft
      exact ⟨hbound.free_subset, fun hpass => hbound.freeInside_subset fun next h => hpass next (.part hof h)⟩
    | severalParts =>
      rw [readSchema_severalParts hof]
      exact bound_of_names_eq_nil rfl
    | typed kinds => exact bound_kinds (fun part h hnames => (hpart part h hnames).free_subset) hof hleft
    | untyped =>
      rw [readSchema_untyped hof]
      exact bound_of_names_eq_nil rfl
  | bool b =>
    apply bound_of_names_eq_nil
    cases b with
    | true =>
      rw [readSchema]
      rfl
    | false =>
      rw [readSchema]
      rfl
  | _ =>
    apply bound_of_names_eq_nil
    simp only [readSchema]
    rfl

/-! ## Documents -/

/-- the hint of an anchored document leaves no name free -/
theorem free_ofSchema (hself : SelfContained root) (hanchored : Anchored root) : (ofSchema root).value.free = [] := by
  have hbound : Bound root (ofSchema root).value.names (title? root).toList root (ofSchema root).value :=
    bound_readSchema hself hanchored _ root (List.Subset.refl _) (List.Subset.refl _)
  rw [List.eq_nil_iff_forall_not_mem]
  intro name hname
  have hleft : name ∈ (ofSchema root).value.names := (free_sublist _).subset hname
  cases htitle : title? root with
  | none =>
    have hmem := hbound.free_subset hname
    rw [htitle] at hmem
    cases hmem
  | some title =>
    have hmem := hbound.free_subset hname
    rw [htitle, Option.toList_some, List.mem_singleton] at hmem
    subst hmem
    -- what bears the title is the document, so it is a record, and has the title for its name
    have hrecord : IsRecord root := by
      apply hanchored.records name hleft root
      have hroot : rootName root = name := by rw [rootName, htitle, Option.getD_some]
      exact hroot ▸ .document
    obtain ⟨fields, closed, hvalue⟩ := exists_record_of_isRecord hrecord root (title? root).toList
    rw [ofSchema, hvalue, free, List.mem_filter, htitle] at hname
    simp at hname

/-- **A self-contained document means the same in every registry**, with the same diagnostics, if it is anchored: if
all that refers back to itself in it are records, and none under a second name. -/
theorem resolve_ofSchema_eq (root : Json) (hself : SelfContained root) (hanchored : Anchored root)
    (r r' : Registry) : resolve r [] (ofSchema root).value = resolve r' [] (ofSchema root).value := by
  apply resolve_eq_of_free
  rw [free_ofSchema hself hanchored]
  exact List.Subset.refl _

/-- a tree refers back to itself as a record -/
theorem names_treeDocument : (ofSchema treeDocument).value.names = ["tree"] := by
  have hlocal : isLocal "#/$defs/tree" = true := by decide
  have hreference : ∀ stack node, Node.of node = .reference "#/$defs/tree" →
      (readSchema treeDocument stack (.object node)).value =
        if "tree" ∈ stack then .named "tree"
        else withName "tree" (readSchema treeDocument ("tree" :: stack) (.object treeNode)).value :=
    fun stack node hof => readSchema_reference hof hlocal rfl
  have hlabel : (readSchema treeDocument ["tree"] (.object [("type", .string "string")])).value = .string := by
    rw [readSchema_typed rfl, readKind]
    rfl
  have hchildren : (readSchema treeDocument ["tree"] (.object [("type", .string "array"),
      ("items", .object [("$ref", .string "#/$defs/tree")])])).value = .array (some (.named "tree")) := by
    rw [readSchema_typed rfl, readKind_array rfl, hreference ["tree"] _ rfl]
    rfl
  calc (ofSchema treeDocument).value.names
    _ = (withName "tree" (readSchema treeDocument ["tree"] (.object treeNode)).value).names :=
      congrArg names (hreference [] _ rfl)
    _ = ["tree"] := by
      rw [names_withName, readSchema_typed rfl, readKind_record rfl]
      simp only [List.map_cons, List.map_nil, hlabel, hchildren]
      rfl

theorem anchored_treeDocument : Anchored treeDocument := by
  have hrecord : IsRecord (.object treeNode) := ⟨treeNode, rfl, rfl, rfl⟩
  refine ⟨fun name hname schema hdefines => ?_, fun path hpath definition htarget next hnext => ?_⟩
  · rw [names_treeDocument, List.mem_singleton] at hname
    cases hdefines with
    | document => exact absurd hname (by decide)
    | definition hs h =>
      subst hname
      simp only [sections, List.mem_cons, List.not_mem_nil, or_false] at hs
      rcases hs with rfl | rfl
      · cases h
        exact hrecord
      · cases h
  · have hpath : path = "#/$defs/tree" := by
      have hreferences : treeDocument.references = ["#/$defs/tree", "#/$defs/tree"] := rfl
      simpa [hreferences] using hpath
    subst hpath
    cases htarget
    exact absurd hnext (not_passesOn_of_isRecord hrecord next)

theorem resolve_treeDocument_eq :
    SelfContained treeDocument ∧ Anchored treeDocument ∧
      resolve (Registry.empty.put "tree" .string) [] (ofSchema treeDocument).value =
        resolve Registry.empty [] (ofSchema treeDocument).value := by
  have hself : SelfContained treeDocument := by decide
  exact ⟨hself, anchored_treeDocument, resolve_ofSchema_eq treeDocument hself anchored_treeDocument _ _⟩

/-! ## A document that is not anchored -/

/-- a list of such lists -/
def listNode : List (String × Json) :=
  [("type", .string "array"), ("items", .object [("$ref", .string "#/$defs/list")])]

def listDocument : Json :=
  .object [("$ref", .string "#/$defs/list"), ("$defs", .object [("list", .object listNode)])]

/-- no record is there to bear the name that is left -/
theorem value_listDocument : (ofSchema listDocument).value = .array (some (.named "list")) := by
  have hlocal : isLocal "#/$defs/list" = true := by decide
  have hreference : ∀ stack node, Node.of node = .reference "#/$defs/list" →
      (readSchema listDocument stack (.object node)).value =
        if "list" ∈ stack then .named "list"
        else withName "list" (readSchema listDocument ("list" :: stack) (.object listNode)).value :=
    fun stack node hof => readSchema_reference hof hlocal rfl
  calc (ofSchema listDocument).value
    _ = withName "list" (readSchema listDocument ["list"] (.object listNode)).value := hreference [] _ rfl
    _ = .array (some (.named "list")) := by
      rw [readSchema_typed rfl, readKind_array rfl, hreference ["list"] _ rfl]
      rfl

/-- its items are whatever is registered under the name -/
theorem descriptor_listDocument {r : Registry} {h : Hint} (hget : r.get? "list" = some h)
    (hrecord : h.recordOf? "list" = none) :
    (ofSchema listDocument).value.descriptor r = .array (resolve r ["list"] h).value := by
  rw [value_listDocument, descriptor, resolve, resolve_named List.not_mem_nil hget, hrecord]
  rfl

/-- **A name without a record is captured.** Each reference of the document leads to its definition, and yet a type
registered under the name takes the place of the recursive items. -/
theorem listDocument_captured :
    SelfContained listDocument ∧
      (ofSchema listDocument).value.descriptor (Registry.empty.put "list" .string) = .array (.primitive .string) ∧
      (ofSchema listDocument).value.descriptor Registry.empty = .array .unknown := by
  refine ⟨by decide, ?_, ?_⟩
  · rw [descriptor_listDocument rfl rfl, resolve]
    rfl
  · rw [value_listDocument, descriptor, resolve, resolve_named_of_unregistered List.not_mem_nil rfl]
    rfl

end Hint

end ToolSchema
