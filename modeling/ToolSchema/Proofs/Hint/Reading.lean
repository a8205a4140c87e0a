/-
What the reading of a document says about its values.

Reading takes one keyword of a node and leaves the others out, puts references in place and lets a recursive one be a
name. None of this loses a value: `admits_of_validAt` says that what is valid against a schema of the fragment
(`Schema.Basic`) is admitted by the hint that is read from it, where names are not registered. The induction is on the
number of steps that validity takes; a step from a node to a schema inside, or along a reference, takes one.

- `Node.holds_of`: of a value that is valid against a node, the keyword that the node is read by holds.
- `ofSchema_valid_of_valid`: a document, read and resolved, gives a schema that accepts every value without null that
  the document accepts.
-/
import ToolSchema.Proofs.Hint.Recursion
import ToolSchema.Proofs.Resolve.Meaning
import ToolSchema.Proofs.Schema.Fragment

namespace ToolSchema.Hint

open Schema

variable {root : Json} {stack : List String} {node : List (String × Json)} {depth : Nat} {v : Json}

/-! ## The keyword that is read -/

/-- what a node may say, with the keyword that says so -/
inductive Node.Says (node : List (String × Json)) : Node → Prop
  | ref {path : String} (h : node.lookup "$ref" = some (.string path)) : Says node (.reference path)
  | const {value : Json} (h : node.lookup "const" = some value) : Says node (.literal [value])
  | enum {values : List Json} (h : node.lookup "enum" = some (.array values)) : Says node (.literal values)
  | anyOf {variants : List Json} (h : node.lookup "anyOf" = some (.array variants)) : Says node (.alternatives variants)
  | oneOf {variants : List Json} (h : node.lookup "oneOf" = some (.array variants)) : Says node (.alternatives variants)
  | allOf {schema : Json} (h : node.lookup "allOf" = some (.array [schema])) : Says node (.part schema)
  | severalParts : Says node .severalParts
  | type {kind : String} (h : node.lookup "type" = some (.string kind)) : Says node (.typed [kind])
  | types {kinds : List Json} (h : node.lookup "type" = some (.array kinds)) :
    Says node (.typed (kinds.filterMap Json.string?))
  | untyped : Says node .untyped

namespace Node

theorem says_ofKeywords? {n : Node} (h : ofKeywords? node = some n) : Says node n := by
  simp only [ofKeywords?, Option.or_eq_some_iff] at h
  rcases h with h | ⟨-, h | ⟨-, h | ⟨-, h | ⟨-, h | ⟨-, h⟩⟩⟩⟩⟩
  · obtain ⟨j, hj, hn⟩ := Option.bind_eq_some_iff.1 h
    cases j with
    | string path => cases hn; exact .ref hj
    | _ => cases hn
  · obtain ⟨value, hvalue, rfl⟩ := Option.map_eq_some_iff.1 h
    exact .const hvalue
  · obtain ⟨j, hj, hn⟩ := Option.bind_eq_some_iff.1 h
    cases j with
    | array values => cases hn; exact .enum hj
    | _ => cases hn
  · obtain ⟨j, hj, hn⟩ := Option.bind_eq_some_iff.1 h
    cases j with
    | array variants =>
      cases hn
      rcases Option.or_eq_some_iff.1 hj with hj | ⟨-, hj⟩
      · exact .anyOf hj
      · exact .oneOf hj
    | _ => cases hn
  · obtain ⟨j, hj, hn⟩ := Option.bind_eq_some_iff.1 h
    cases j with
    | array parts =>
      cases parts with
      | nil => cases hn; exact .severalParts
      | cons schema rest =>
        cases rest with
        | nil => cases hn; exact .allOf hj
        | cons _ _ => cases hn; exact .severalParts
    | _ => cases hn
  · obtain ⟨j, hj, hn⟩ := Option.bind_eq_some_iff.1 h
    cases j with
    | string kind => cases hn; exact .type hj
    | array kinds => cases hn; exact .types hj
    | _ => cases hn

/-- beside the keywords a node says at most what its contents are -/
theorem says_of_eq {n : Node} (hof : of node = n) (htyped : ∀ kinds, n ≠ .typed kinds) (huntyped : n ≠ .untyped) :
    Says node n := by
  cases hkeywords : ofKeywords? node with
  | some m =>
    rw [of, hkeywords, Option.getD_some] at hof
    exact hof ▸ says_ofKeywords? hkeywords
  | none =>
    rw [of, hkeywords, Option.getD_none, ofContents] at hof
    split at hof
    · exact absurd hof.symm (htyped _)
    · split at hof
      · exact absurd hof.symm (htyped _)
      · exact absurd hof.symm huntyped

/-- a node of the fragment that names no type speaks of no contents either -/
theorem says_of (hnode : Basic (.object node)) : Says node (of node) := by
  unfold of
  cases hkeywords : ofKeywords? node with
  | some n => exact says_ofKeywords? hkeywords
  | none =>
    have htype : Entries.has "type" node = false := by
      rw [Entries.has]
      cases htype : node.lookup "type" with
      | none => rfl
      | some operand =>
        have hfits := hnode.fits htype
        simp only [ofKeywords?, Option.or_eq_none_iff] at hkeywords
        cases operand <;> simp [inside?, ofType?, htype] at hfits hkeywords
    have hcontents : ¬ (Entries.has "items" node = true ∨ Entries.has "properties" node = true) := by
      intro h
      rw [hnode.typed h] at htype
      cases htype
    rw [not_or] at hcontents
    rw [Option.getD_none, ofContents, if_neg hcontents.2, if_neg hcontents.1]
    exact .untyped

/-- what a node says holds of a value, where the schemas inside are met along this number of steps -/
def Holds (root : Json) (depth : Nat) (v : Json) : Node → Prop
  | .reference path =>
    isLocal path = true ∧
      ∃ target, target? root path = some target ∧ Basic target ∧ validAt root depth target v = true
  | .literal values => ∃ u ∈ values, u.same v = true
  | .alternatives variants => ∃ schema ∈ variants, Basic schema ∧ validAt root depth schema v = true
  | .part schema => Basic schema ∧ validAt root depth schema v = true
  | .typed kinds => ∃ kind ∈ kinds, kind ∈ v.typeNames
  | _ => True

theorem holds_of_says {n : Node} (hroot : Basic root) (hnode : Basic (.object node)) (hkeyword : Says node n)
    (hv : validAt root (depth + 1) (.object node) v = true) : n.Holds root depth v := by
  cases hkeyword with
  | ref hlookup =>
    have hlocal := hnode.fits hlookup
    rw [inside?, Option.isSome_ite] at hlocal
    have hallow := keywordAllows_of_lookup hv hlookup
    rw [keywordAllows, Option.any_eq_true] at hallow
    obtain ⟨target, htarget, hvalid⟩ := hallow
    exact ⟨hlocal, target, htarget, hroot.of_target? hlocal htarget, hvalid⟩
  | const hlookup =>
    have hallow := keywordAllows_of_lookup hv hlookup
    exact ⟨_, List.mem_cons_self, hallow⟩
  | enum hlookup =>
    have hallow := keywordAllows_of_lookup hv hlookup
    rw [keywordAllows, List.any_eq_true] at hallow
    exact hallow
  | anyOf hlookup =>
    have hallow := keywordAllows_of_lookup hv hlookup
    rw [keywordAllows, List.any_eq_true] at hallow
    obtain ⟨schema, hmem, hvalid⟩ := hallow
    exact ⟨schema, hmem, hnode.inside hlookup rfl hmem, hvalid⟩
  | @oneOf variants hlookup =>
    have hallow := keywordAllows_of_lookup hv hlookup
    rw [keywordAllows, beq_iff_eq] at hallow
    have hpos : 0 < variants.countP fun schema => validAt root depth schema v := by
      rw [hallow]
      exact Nat.one_pos
    obtain ⟨schema, hmem, hvalid⟩ := List.countP_pos_iff.1 hpos
    exact ⟨schema, hmem, hnode.inside hlookup rfl hmem, hvalid⟩
  | @allOf schema hlookup =>
    have hallow := keywordAllows_of_lookup hv hlookup
    rw [keywordAllows, List.all_eq_true] at hallow
    have hmem : schema ∈ [schema] := List.mem_singleton_self schema
    exact ⟨hnode.inside hlookup rfl hmem, hallow _ hmem⟩
  | type hlookup =>
    have hallow := keywordAllows_of_lookup hv hlookup
    exact ⟨_, List.mem_cons_self, List.contains_iff_mem.1 hallow⟩
  | types hlookup =>
    have hallow := keywordAllows_of_lookup hv hlookup
    rw [keywordAllows, List.any_eq_true] at hallow
    obtain ⟨kind, hmem, hkind⟩ := hallow
    exact ⟨kind, hmem, List.contains_iff_mem.1 hkind⟩
  | severalParts => trivial
  | untyped => trivial

theorem holds_of (hroot : Basic root) (hnode : Basic (.object node))
    (hv : validAt root (depth + 1) (.object node) v = true) : (of node).Holds root depth v :=
  holds_of_says hroot hnode (says_of hnode) hv

end Node

/-! ## Hints put together -/

section

variable {r : Registry} {hints : List Hint}

theorem admits_of_literals? {values : List Json} (h : ofAlternatives.literals? hints = some values)
    (hv : ∃ h ∈ hints, Admits r h v) : Admits r (.literal values) v := by
  induction hints generalizing values with
  | nil => simp at hv
  | cons hint rest ih =>
    cases hint with
    | literal first =>
      rw [ofAlternatives.literals?, Option.map_eq_some_iff] at h
      obtain ⟨others, hothers, rfl⟩ := h
      rw [List.exists_mem_cons_iff] at hv
      rcases hv with hv | hv
      · cases hv with
        | literal hmem huv => exact .literal (List.mem_append_left others hmem) huv
      · cases ih hothers hv with
        | literal hmem huv => exact .literal (List.mem_append_right first hmem) huv
    | _ => cases h

theorem admits_ofAlternatives (hv : ∃ h ∈ hints, Admits r h v) : Admits r (ofAlternatives hints) v := by
  obtain ⟨h, hmem, hhv⟩ := hv
  match hints with
  | [] => simp at hmem
  | [single] =>
    rw [List.mem_singleton] at hmem
    exact hmem ▸ hhv
  | first :: second :: rest =>
    simp only [ofAlternatives]
    split
    · next values hvalues => exact admits_of_literals? hvalues ⟨h, hmem, hhv⟩
    · exact .union hmem hhv

theorem admits_ofKinds (hv : ∃ h ∈ hints, Admits r h v) : Admits r (ofKinds hints) v := by
  obtain ⟨h, hmem, hhv⟩ := hv
  match hints with
  | [] => simp at hmem
  | [single] =>
    rw [List.mem_singleton] at hmem
    exact hmem ▸ hhv
  | first :: second :: rest => exact .union hmem hhv

end

/-! ## One step -/

/-- reading loses no value that is valid along this number of steps -/
def ReadsAt (root : Json) (depth : Nat) : Prop :=
  ∀ stack schema v, Basic schema → validAt root depth schema v = true →
    Admits Registry.empty (readSchema root stack schema).value v

theorem admits_expand {name : String} {definition : Json} {hname : name ∈ expandable root}
    (hv : Admits Registry.empty (readSchema root (name :: stack) definition).value v) :
    Admits Registry.empty (expand root stack name definition hname).value v := by
  rw [expand]
  split
  · exact .unregistered v rfl
  · rw [Traced.bind_value, Traced.pure_value, admits_withName]
    exact hv

theorem admits_readArray {items : List Json} (h : ReadsAt root depth) (hnode : Basic (.object node))
    (hv : validAt root (depth + 1) (.object node) (.array items) = true) :
    Admits Registry.empty (readKind root stack node "array").value (.array items) := by
  rw [readKind]
  split
  · next schema hitems =>
    obtain ⟨hlookup, -⟩ := Option.filter_eq_some_iff.1 hitems
    have hbasic : Basic schema := hnode.inside hlookup rfl (List.mem_singleton_self schema)
    have hallow := keywordAllows_of_lookup hv hlookup
    simp only [keywordAllows, Json.array?, Option.getD_some, List.all_eq_true] at hallow
    exact .array fun w hw => h stack schema w hbasic (hallow w hw)
  · split
    · next tuple htuple =>
      -- the keyword for tuples is none of the fragment
      have hfits := hnode.fits (lookup_of_tupleItems? htuple)
      simp [inside?] at hfits
    · exact .bareArray items

section

variable {members : List (String × Json)}

theorem lookup_of_isClosed (h : isClosed node = true) : node.lookup "additionalProperties" = some (.bool false) := by
  rw [isClosed] at h
  split at h
  · next hlookup => exact hlookup
  · cases h

/-- beside `additionalProperties` as false, every member is declared -/
theorem declares_of_isClosed (hv : validAt root (depth + 1) (.object node) (.object members) = true)
    (hclosed : isClosed node = true) {m : String × Json} (hm : m ∈ members) : declares node m.1 = true := by
  have hallow := keywordAllows_of_lookup hv (lookup_of_isClosed hclosed)
  simp only [keywordAllows, Json.object?, Option.getD_some, List.all_eq_true, validAt_never, Bool.or_false] at hallow
  exact hallow m hm

/-- what a node requires is there -/
theorem has_of_mem_requiredNames (hv : validAt root (depth + 1) (.object node) (.object members) = true) {name : String}
    (hname : name ∈ requiredNames node) : Entries.has name members = true := by
  rw [requiredNames] at hname
  cases hlookup : node.lookup "required" with
  | none => simp [hlookup] at hname
  | some operand =>
    have hallow := keywordAllows_of_lookup hv hlookup
    cases operand with
    | array names =>
      simp only [keywordAllows, Json.object?, Option.all_some, List.all_eq_true] at hallow
      rw [hlookup] at hname
      exact hallow name hname
    | _ => simp [hlookup, Json.array?] at hname

/-- a node with properties, read as a record -/
theorem admits_readRecord {properties : List (String × Json)} (h : ReadsAt root depth) (hnode : Basic (.object node))
    (hlookup : node.lookup "properties" = some (.object properties))
    (hv : validAt root (depth + 1) (.object node) (.object members) = true) (name : Option String) :
    Admits Registry.empty
      (.record ⟨name, (readFields root stack (requiredNames node) properties).value, isClosed node⟩)
      (.object members) := by
  rw [readFields_value]
  refine .record ?_ ?_ ?_
  · intro m hm f hf
    obtain ⟨p, hp, rfl⟩ := List.mem_map.1 (Field.mem_of_last? hf)
    have hname : p.1 = m.1 := Field.name_of_last? hf
    have hbasic : Basic p.2 := hnode.inside hlookup rfl (List.mem_map_of_mem hp)
    have hallow := keywordAllows_of_lookup hv hlookup
    simp only [keywordAllows, Json.object?, Option.getD_some, List.all_eq_true, Bool.or_eq_true, bne_iff_ne] at hallow
    rcases hallow p hp m hm with hother | hvalid
    · exact absurd hname.symm hother
    · exact h stack p.2 m.2 hbasic hvalid
  · intro name f hf hrequired
    obtain ⟨p, hp, rfl⟩ := List.mem_map.1 (Field.mem_of_last? hf)
    have hname : p.1 = name := Field.name_of_last? hf
    apply has_of_mem_requiredNames hv
    rw [← hname]
    exact List.contains_iff_mem.1 hrequired
  · intro hclosed m hm
    have hdeclares := declares_of_isClosed hv hclosed hm
    rw [declares, hlookup] at hdeclares
    obtain ⟨schema, hp⟩ := Entries.exists_mem_of_has hdeclares
    exact Field.last?_isSome ⟨_, List.mem_map_of_mem hp, rfl⟩

theorem admits_readObject (h : ReadsAt root depth) (hnode : Basic (.object node))
    (hv : validAt root (depth + 1) (.object node) (.object members) = true) :
    Admits Registry.empty (readKind root stack node "object").value (.object members) := by
  rw [readKind]
  split
  · next properties hproperties =>
    exact admits_readRecord h hnode (lookup_of_properties? hproperties) hv _
  · next hproperties =>
    split
    · next hclosed =>
      -- nothing is declared, so that nothing may be there
      refine .record (fun _ _ _ hf => by cases hf) (fun _ _ hf => by cases hf) fun _ m hm => ?_
      have hdeclares := declares_of_isClosed hv hclosed hm
      rw [properties?] at hproperties
      rw [declares, hproperties] at hdeclares
      cases hdeclares
    · next hopen =>
      split
      · next schema hvalues =>
        obtain ⟨hlookup, -⟩ := Option.filter_eq_some_iff.1 hvalues
        have hbasic : Basic schema := hnode.inside hlookup rfl (List.mem_singleton_self schema)
        have hallow := keywordAllows_of_lookup hv hlookup
        rw [properties?] at hproperties
        simp only [keywordAllows, Json.object?, Option.getD_some, List.all_eq_true, declares, hproperties,
          Option.any_none, Bool.false_or] at hallow
        exact .map fun m hm => h stack schema m.2 hbasic (hallow m hm)
      · exact .bareMap none members

end

/-- whatever kind a node names, the value being of this kind -/
theorem admits_readKind {kind : String} (h : ReadsAt root depth) (hnode : Basic (.object node))
    (hv : validAt root (depth + 1) (.object node) v = true) (hkind : kind ∈ v.typeNames) :
    Admits Registry.empty (readKind root stack node kind).value v := by
  cases v with
  | array items =>
    cases List.mem_singleton.1 hkind
    exact admits_readArray h hnode hv
  | object members =>
    cases List.mem_singleton.1 hkind
    exact admits_readObject h hnode hv
  | number n =>
    rw [Json.typeNames] at hkind
    split at hkind
    · next hwhole =>
      simp only [List.mem_cons, List.not_mem_nil, or_false] at hkind
      rcases hkind with rfl | rfl
      · rw [readKind]
        exact .integer hwhole
      · rw [readKind]
        exact .number n
    · cases List.mem_singleton.1 hkind
      rw [readKind]
      exact .number n
  | _ =>
    cases List.mem_singleton.1 hkind
    rw [readKind]
    constructor

/-- **One step.** Whichever keyword a node is read by, it says no more than the keyword does. -/
theorem readsAt_succ (hroot : Basic root) (h : ReadsAt root depth) : ReadsAt root (depth + 1) := by
  intro stack schema v hschema hv
  cases schema with
  | bool b =>
    cases b with
    | true =>
      rw [readSchema]
      exact .any v
    | false => cases hv
  | object node =>
    have hholds := Node.holds_of hroot hschema hv
    rw [readSchema]
    split
    · next reference hof =>
      rw [hof] at hholds
      obtain ⟨hlocal, target, htarget, hbasic, hvalid⟩ := hholds
      have hadmits : ∀ name, Admits Registry.empty (readSchema root (name :: stack) target).value v :=
        fun name => h (name :: stack) target v hbasic hvalid
      split
      · next hself =>
        subst hself
        cases htarget
        exact admits_expand (hadmits _)
      · next hself =>
        rw [target?_eq_definition? hlocal hself] at htarget
        split
        · next definition hdef =>
          cases hdef.symm.trans htarget
          exact admits_expand (hadmits _)
        · exact .unregistered v rfl
    · next values hof =>
      rw [hof] at hholds
      obtain ⟨u, hu, huv⟩ := hholds
      exact .literal hu huv
    · next variants hof =>
      rw [hof] at hholds
      obtain ⟨schema, hmem, hbasic, hvalid⟩ := hholds
      rw [Traced.bind_value, Traced.pure_value, readAll_value]
      exact admits_ofAlternatives ⟨_, List.mem_map_of_mem hmem, h stack schema v hbasic hvalid⟩
    · next schema hof =>
      rw [hof] at hholds
      exact h stack schema v hholds.1 hholds.2
    · exact .unsupported _ v
    · next kinds hof =>
      rw [hof] at hholds
      obtain ⟨kind, hmem, hkind⟩ := hholds
      rw [Traced.bind_value, Traced.pure_value, readKinds_value]
      exact admits_ofKinds ⟨_, List.mem_map_of_mem hmem, admits_readKind h hschema hv hkind⟩
    · exact .any v
  | _ => cases hv

/-! ## All steps -/

theorem readsAt (hroot : Basic root) (depth : Nat) : ReadsAt root depth := by
  induction depth with
  | zero =>
    intro stack schema v _ hv
    cases hv
  | succ depth ih => exact readsAt_succ hroot ih

/-- **The reading of a document never rejects a value of it.** Of a document in the fragment, with references that may
be cyclic: what the document accepts and holds no null is accepted by the schema that its hint resolves to, where no
name is registered. -/
theorem ofSchema_valid_of_valid (document v : Json) (hdocument : Basic document) (hfree : v.nullFree = true)
    (hv : Valid document v) : Valid ((ofSchema document).value.descriptor Registry.empty).toJson v := by
  obtain ⟨bound, hvalid⟩ := hv
  have hadmits : Admits Registry.empty (ofSchema document).value v :=
    readsAt hdocument bound (title? document).toList document v hdocument (hvalid bound (Nat.le_refl bound))
  rw [valid_toJson_iff]
  exact (resolve_resolves Registry.empty [] _).accepts_of_admits hfree hadmits

/-- a tree of strings, whose definition refers to itself -/
def treeNode : List (String × Json) :=
  [("type", .string "object"),
    ("properties", .object [("label", .object [("type", .string "string")]),
      ("children", .object [("type", .string "array"), ("items", .object [("$ref", .string "#/$defs/tree")])])]),
    ("required", .array [.string "label"])]

def treeDocument : Json :=
  .object [("$ref", .string "#/$defs/tree"), ("$defs", .object [("tree", .object treeNode)])]

/-- a tree with one child -/
def smallTree : Json :=
  .object [("label", .string "top"), ("children", .array [.object [("label", .string "leaf")]])]

theorem basic_treeDocument : Basic treeDocument := by
  have hlabel : Basic (.object [("type", .string "string")]) := .of_inside (by decide) (by simp [inside?])
  have hchild : Basic (.object [("$ref", .string "#/$defs/tree")]) := by
    have hlocal : isLocal "#/$defs/tree" = true := by decide
    exact .of_inside (by decide) (by simp [inside?, hlocal])
  have hchildren : Basic (.object [("type", .string "array"), ("items", .object [("$ref", .string "#/$defs/tree")])]) :=
    .of_inside (by decide) (by simp [inside?, hchild])
  have htree : Basic (.object treeNode) :=
    .of_inside (by decide) (by simp [treeNode, inside?, hlabel, hchildren, Json.isString])
  have hlocal : isLocal "#/$defs/tree" = true := by decide
  exact .of_inside (by decide) (by simp [inside?, hlocal, htree])

theorem valid_smallTree : Valid treeDocument smallTree := by
  refine ⟨8, fun depth hdepth => ?_⟩
  obtain ⟨later, rfl⟩ := Nat.exists_eq_add_of_le' hdepth
  rfl

theorem ofSchema_valid_smallTree :
    Basic treeDocument ∧ smallTree.nullFree = true ∧ Valid treeDocument smallTree ∧
      Valid ((ofSchema treeDocument).value.descriptor Registry.empty).toJson smallTree :=
  ⟨basic_treeDocument, rfl, valid_smallTree,
    ofSchema_valid_of_valid treeDocument smallTree basic_treeDocument rfl valid_smallTree⟩

end ToolSchema.Hint
