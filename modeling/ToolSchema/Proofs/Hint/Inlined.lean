/-
Documents read with their references put in place.

`Reached` follows the reading of a document: which schemas it comes to, and which names are under expansion there. A
document is `Inlinable` if each reference on the way leads to a definition whose name is not under expansion, and if two
more things go well: where a reference is all that is said about items or about values, something that counts is put in
its place (`contents`), and the items of a tuple are alike as they were (`tuples`). Then what is read is what is read
from the document without references, up to the names of records, and no name is left (`ofSchema_inline`). The induction
(`Inlinable.eventually_alike`) goes along the reading; at a node that is no reference it takes the node apart and puts
it together again (`Alike.of_node`).

A name is not met again if definitions refer to names of lower rank only and the title is none of them
(`apart_of_nonRecursive`).

Names count when tuples are compared, and an expanded definition has another name than the schema in its place. A
definition that is false means something else where a reference to it stands, and a title is a name under expansion
though no definition bears it. So there are documents without recursion that are read otherwise with their references
put in place (`ofSchema_inline_differs`).
-/
import ToolSchema.Proofs.Schema.Inline

namespace ToolSchema.Hint

open Schema

variable {root schema definition : Json} {names stack : List String} {node : List (String × Json)} {path : String}

/-! ## What reading comes to -/

/-- reading of the document comes to the schema while the names are under expansion -/
inductive Reached (root : Json) : List String → Json → Prop
  | document : Reached root (title? root).toList root
  | part {names : List String} {schema part : Json} (h : Reached root names schema) (hpart : part ∈ parts schema) :
    Reached root names part
  | reference {names : List String} {node : List (String × Json)} {path : String} {definition : Json}
    (h : Reached root names (.object node)) (hof : Node.of node = .reference path)
    (htarget : target? root path = some definition) : Reached root (referenceName path :: names) definition

/-- the references that reading comes to can be put in place -/
structure Inlinable (root : Json) : Prop where
  /-- each leads to a definition -/
  leads : ∀ names node path, Reached root names (.object node) → Node.of node = .reference path →
    isLocal path = true ∧ path ≠ "#" ∧ (target? root path).isSome = true
  /-- whose name is not that of the document, nor of a definition on the way -/
  apart : ∀ names node path, Reached root names (.object node) → Node.of node = .reference path →
    referenceName path ∉ names
  /-- what comes to stand for all items, or for all values, is an object or true -/
  contents : ∀ names node, Reached root names (.object node) → ∀ schema ∈ contents node,
    Eventually fun depth => describes (inline root depth schema) = true
  /-- the items of a tuple are all alike, names included, if and only if they are without references -/
  tuples : ∀ names node, Reached root names (.object node) →
    Eventually fun depth => alike ((tuple node).map fun schema => (ofSchema (inline root depth schema)).value) =
      alike ((tuple node).map fun schema => (readSchema root names schema).value)

/-- each reference is read as the definition that it leads to -/
theorem Inlinable.exists_definition (h : Inlinable root) (hreached : Reached root names (.object node))
    (hof : Node.of node = .reference path) :
    ∃ definition, target? root path = some definition ∧ referenceName path ∈ expandable root ∧
      (readSchema root names (.object node)).value =
        withName (referenceName path) (readSchema root (referenceName path :: names) definition).value := by
  obtain ⟨hlocal, hself, htarget⟩ := h.leads names node path hreached hof
  obtain ⟨definition, htarget⟩ := Option.isSome_iff_exists.1 htarget
  have hname : nameOf root path = referenceName path := if_neg hself
  have hdefines := defines_of_target? hlocal htarget
  refine ⟨definition, htarget, hname ▸ hdefines.mem_expandable, ?_⟩
  rw [readSchema_reference hof hlocal htarget, hname, if_neg (h.apart names node path hreached hof)]

/-! ## Documents without recursion -/

/-- each reference leads to a definition, and from there to references of lower rank only -/
def NonRecursive (root : Json) (rank : String → Nat) : Prop :=
  ∀ path ∈ root.references, isLocal path = true ∧ path ≠ "#" ∧ (target? root path).isSome = true ∧
    ∀ definition ∈ target? root path, ∀ next ∈ definition.references, rank next < rank path

instance (root : Json) (rank : String → Nat) : Decidable (NonRecursive root rank) :=
  inferInstanceAs (Decidable (∀ path ∈ root.references, isLocal path = true ∧ path ≠ "#" ∧
    (target? root path).isSome = true ∧
      ∀ definition ∈ target? root path, ∀ next ∈ definition.references, rank next < rank path))

/-- reading comes only to references of the document, and under a name other than its title to those of lower rank -/
theorem Reached.ranked {rank : String → Nat} (h : NonRecursive root fun path => rank (referenceName path))
    (hreached : Reached root names schema) :
    schema.references ⊆ root.references ∧ ∀ name ∈ names, title? root ≠ some name →
      ∀ next ∈ schema.references, rank (referenceName next) < rank name := by
  induction hreached with
  | document =>
    refine ⟨List.Subset.refl _, fun name hname htitle => ?_⟩
    exact absurd (Option.mem_toList.1 hname) htitle
  | part _ hpart ih =>
    have hsubset := references_subset_of_part (part_of_mem_parts hpart)
    exact ⟨List.Subset.trans hsubset ih.1, fun name hname htitle next hnext => ih.2 name hname htitle next (hsubset hnext)⟩
  | @reference names node path definition _ hof htarget ih =>
    have hpath := mem_references_of_eq_reference hof
    obtain ⟨hlocal, -, -, hlower⟩ := h path (ih.1 hpath)
    refine ⟨(defines_of_target? hlocal htarget).references_subset, fun name hname htitle next hnext => ?_⟩
    have hnext := hlower definition htarget next hnext
    rcases List.mem_cons.1 hname with rfl | hname
    · exact hnext
    · exact Nat.lt_trans hnext (ih.2 name hname htitle path hpath)

section

variable {rank : String → Nat} (h : NonRecursive root fun path => rank (referenceName path))
  (hreached : Reached root names (.object node)) (hof : Node.of node = .reference path)

include h hreached hof

theorem leads_of_nonRecursive : isLocal path = true ∧ path ≠ "#" ∧ (target? root path).isSome = true := by
  obtain ⟨hlocal, hself, htarget, -⟩ := h path ((hreached.ranked h).1 (mem_references_of_eq_reference hof))
  exact ⟨hlocal, hself, htarget⟩

/-- no name is met again if the title is none of those in references -/
theorem apart_of_nonRecursive (htitle : ∀ path ∈ root.references, title? root ≠ some (referenceName path)) :
    referenceName path ∉ names := by
  obtain ⟨hreferences, hlower⟩ := hreached.ranked h
  have hpath := mem_references_of_eq_reference hof
  intro hname
  exact Nat.lt_irrefl _ (hlower _ hname (htitle path (hreferences hpath)) path hpath)

end

/-! ## Names -/

/-- no name is left -/
theorem Inlinable.names_eq_nil (h : Inlinable root) (names : List String) (schema : Json)
    (hreached : Reached root names schema) : (readSchema root names schema).value.names = [] := by
  induction names, schema using reading_induct root with
  | step names schema definitions parts =>
  cases schema with
  | object node =>
    by_cases hreference : ∃ path, Node.of node = .reference path
    · obtain ⟨path, hof⟩ := hreference
      obtain ⟨definition, htarget, hname, hvalue⟩ := h.exists_definition hreached hof
      rw [hvalue, names_withName]
      exact definitions _ hname (h.apart names node path hreached hof) definition (.reference hreached hof htarget)
    · rw [value_eq_hintOf (not_exists.1 hreference)]
      exact names_hintOf fun part hpart => parts part (part_of_mem_parts hpart) (.part hreached hpart)
  | bool b => cases b <;> (simp only [readSchema]; rfl)
  | _ => simp only [readSchema]; rfl

/-! ## Hints -/

/-- what is read of the schema is what is read without references -/
structure Alike (root : Json) (names : List String) (schema : Json) (depth : Nat) : Prop where
  referenceFree : ReferenceFree (inline root depth schema)
  unnamed_eq : (ofSchema (inline root depth schema)).value.unnamed = (readSchema root names schema).value.unnamed

theorem Alike.of_node {depth : Nat} (hof : ∀ path, Node.of node ≠ .reference path)
    (hparts : ∀ part ∈ parts (.object node), Alike root names part depth)
    (hcontents : ∀ schema ∈ contents node, describes (inline root depth schema) = true)
    (htuple : alike ((tuple node).map fun schema => (ofSchema (inline root depth schema)).value) =
      alike ((tuple node).map fun schema => (readSchema root names schema).value)) :
    Alike root names (.object node) depth := by
  have hnode : reference? node = none := by
    cases hpath : reference? node with
    | none => rfl
    | some path => exact absurd (Node.of_eq_reference_iff.2 hpath) (hof path)
  have hinline : inline root depth (.object node) = .object (replaceMembers (follow root depth) node) :=
    replace_object hnode
  have hof' : ∀ path, Node.of (replaceMembers (follow root depth) node) ≠ .reference path := by
    intro path hpath
    rw [Node.of_eq_reference_iff, reference?_replaceMembers, hnode] at hpath
    cases hpath
  have hparts' : parts (.object (replaceMembers (follow root depth) node)) =
      (parts (.object node)).map (inline root depth) := parts_replaceMembers hcontents
  have hfree : ∀ part ∈ parts (.object (replaceMembers (follow root depth) node)), ReferenceFree part := by
    rw [hparts']
    exact List.forall_mem_map.2 fun part hpart => (hparts part hpart).referenceFree
  refine ⟨?_, ?_⟩
  · rw [hinline]
    refine .of_parts (fun node' path hnode' => ?_) hfree
    cases hnode'
    exact hof' path
  · -- without references in them, the parts are read as documents of their own, and then in the places that they had
    calc (ofSchema (inline root depth (.object node))).value.unnamed
      _ = (hintOf (fun schema => (readSchema _ _ schema).value)
            (replaceMembers (follow root depth) node)).unnamed := by
        rw [hinline, ofSchema, value_eq_hintOf hof']
      _ = (hintOf (fun schema => (ofSchema schema).value) (replaceMembers (follow root depth) node)).unnamed := by
        rw [hintOf_congr fun part hpart => (hfree part hpart).value_eq _ part _ (title? part).toList]
        rfl
      _ = (hintOf (fun schema => (ofSchema (inline root depth schema)).value) node).unnamed :=
        congrArg unnamed (hintOf_replaceMembers hcontents)
      _ = (hintOf (fun schema => (readSchema root names schema).value) node).unnamed :=
        unnamed_hintOf (fun part hpart => (hparts part hpart).unnamed_eq) htuple
      _ = (readSchema root names (.object node)).value.unnamed := by rw [value_eq_hintOf hof]

theorem Alike.of_not_object {depth : Nat} (h : ∀ node, schema ≠ .object node) : Alike root names schema depth := by
  have hinline : inline root depth schema = schema := by
    cases schema with
    | object node => exact absurd rfl (h node)
    | _ => rfl
  have hfree : ReferenceFree schema := by
    refine .of_parts (fun node _ hnode => absurd hnode (h node)) fun part hpart => ?_
    cases schema with
    | object node => exact absurd rfl (h node)
    | _ => cases hpart
  refine ⟨hinline.symm ▸ hfree, ?_⟩
  rw [hinline, ofSchema, hfree.value_eq schema root _ names]

/-- with references followed far enough, that goes for every schema that reading comes to -/
theorem Inlinable.eventually_alike (h : Inlinable root) (names : List String) (schema : Json)
    (hreached : Reached root names schema) : Eventually (Alike root names schema) := by
  induction names, schema using reading_induct root with
  | step names schema definitions parts =>
  cases schema with
  | object node =>
    by_cases hreference : ∃ path, Node.of node = .reference path
    · obtain ⟨path, hof⟩ := hreference
      obtain ⟨definition, htarget, hname, hvalue⟩ := h.exists_definition hreached hof
      have hdefinition := definitions _ hname (h.apart names node path hreached hof) definition
        (.reference hreached hof htarget)
      refine hdefinition.step fun depth halike => ?_
      have hinline : inline root (depth + 1) (.object node) = inline root depth definition :=
        inline_reference (Node.of_eq_reference_iff.1 hof) htarget
      refine ⟨hinline ▸ halike.referenceFree, ?_⟩
      rw [hinline, hvalue, unnamed_withName]
      exact halike.unnamed_eq
    · have hparts := Eventually.forall_mem fun part hpart =>
        parts part (part_of_mem_parts hpart) (.part hreached hpart)
      have hcontents := Eventually.forall_mem (h.contents names node hreached)
      refine ((hparts.and hcontents).and (h.tuples names node hreached)).mono fun depth halike => ?_
      exact .of_node (not_exists.1 hreference) halike.1.1 halike.1.2 halike.2
  | _ => exact ⟨0, fun depth _ => .of_not_object nofun⟩

/-- **References are put in place.** No name is left in the hint of a document whose references can all be put in place,
and it is the hint of the document in which each reference is replaced by the definition that it leads to, up to the
names of records. -/
theorem ofSchema_inline (root : Json) (h : Inlinable root) :
    (ofSchema root).value.names = [] ∧
      Eventually fun depth => ReferenceFree (inline root depth root) ∧
        (ofSchema (inline root depth root)).value.unnamed = (ofSchema root).value.unnamed := by
  refine ⟨h.names_eq_nil _ root .document, ?_⟩
  exact (h.eventually_alike _ root .document).mono fun _ halike => ⟨halike.referenceFree, halike.unnamed_eq⟩

/-! ## A document with references -/

/-- a position refers to its two coordinates -/
def positionNode : List (String × Json) :=
  [("type", .string "array"),
    ("prefixItems", .array [.object [("$ref", .string "#/$defs/degree")], .object [("$ref", .string "#/$defs/degree")]])]

/-- and is referred to by the trip, as the start of it and as one of its stops -/
def tripNode : List (String × Json) :=
  [("title", .string "Trip"), ("type", .string "object"),
    ("properties", .object [("start", .object [("$ref", .string "#/$defs/geo~1position")]),
      ("stops", .object [("type", .string "array"),
        ("items", .object [("$ref", .string "#/$defs/geo~1position")])])]),
    ("$defs", .object [("geo/position", .object positionNode), ("degree", .object [("type", .string "number")])])]

/-- the names under expansion in each schema that reading comes to -/
inductive InTrip : List String → Json → Prop
  | trip : InTrip ["Trip"] (.object tripNode)
  | stops : InTrip ["Trip"] (.object [("type", .string "array"),
      ("items", .object [("$ref", .string "#/$defs/geo~1position")])])
  | toPosition : InTrip ["Trip"] (.object [("$ref", .string "#/$defs/geo~1position")])
  | position : InTrip ["geo/position", "Trip"] (.object positionNode)
  | toDegree : InTrip ["geo/position", "Trip"] (.object [("$ref", .string "#/$defs/degree")])
  | degree : InTrip ["degree", "geo/position", "Trip"] (.object [("type", .string "number")])

theorem inTrip_of_reached (h : Reached (.object tripNode) names schema) : InTrip names schema := by
  induction h with
  | document => exact .trip
  | part _ hpart ih =>
    cases ih with
    | trip =>
      rcases List.mem_cons.1 hpart with rfl | hpart
      · exact .toPosition
      · rw [List.mem_singleton.1 hpart]
        exact .stops
    | stops =>
      rw [List.mem_singleton.1 hpart]
      exact .toPosition
    | position =>
      rcases List.mem_cons.1 hpart with rfl | hpart
      · exact .toDegree
      · rw [List.mem_singleton.1 hpart]
        exact .toDegree
    | _ => cases hpart
  | reference _ hof htarget ih =>
    cases ih with
    | toPosition =>
      cases hof
      cases htarget
      exact .position
    | toDegree =>
      cases hof
      cases htarget
      exact .degree
    | _ => cases hof

def tripRank (name : String) : Nat :=
  if name = "degree" then 0 else 1

theorem nonRecursive_trip : NonRecursive (.object tripNode) fun path => tripRank (referenceName path) := by
  decide

/-- both coordinates are numbers, with the reference to the definition or without it -/
theorem value_degree (depth : Nat) :
    (ofSchema (inline (.object tripNode) (depth + 1) (.object [("$ref", .string "#/$defs/degree")]))).value = .number ∧
      (readSchema (.object tripNode) ["geo/position", "Trip"]
        (.object [("$ref", .string "#/$defs/degree")])).value = .number := by
  have hdegree : ∀ root stack, (readSchema root stack (.object [("type", .string "number")])).value = .number := by
    intro root stack
    rw [readSchema_typed rfl, readKind]
    rfl
  refine ⟨hdegree _ _, ?_⟩
  rw [readSchema_reference rfl (by decide) rfl, if_neg (by decide), hdegree]
  rfl

theorem inlinable_trip : Inlinable (.object tripNode) where
  leads _ _ _ hreached hof := leads_of_nonRecursive nonRecursive_trip hreached hof
  apart _ _ _ hreached hof := apart_of_nonRecursive nonRecursive_trip hreached hof (by decide)
  contents names node hreached schema hmem := by
    cases inTrip_of_reached hreached with
    | stops =>
      rw [List.mem_singleton.1 hmem]
      exact .of_succ fun depth => rfl
    | _ => cases hmem
  tuples names node hreached := by
    cases inTrip_of_reached hreached with
    | position =>
      refine .of_succ fun depth => ?_
      obtain ⟨hinlined, hread⟩ := value_degree depth
      have htuple : tuple positionNode =
        [.object [("$ref", .string "#/$defs/degree")], .object [("$ref", .string "#/$defs/degree")]] := rfl
      simp only [htuple, List.map_cons, List.map_nil, hinlined, hread]
    | _ => exact ⟨0, fun _ _ => rfl⟩

theorem ofSchema_inline_trip :
    Inlinable (.object tripNode) ∧ (ofSchema (.object tripNode)).value.names = [] ∧
      Eventually fun depth => ReferenceFree (inline (.object tripNode) depth (.object tripNode)) ∧
        (ofSchema (inline (.object tripNode) depth (.object tripNode))).value.unnamed =
          (ofSchema (.object tripNode)).value.unnamed :=
  ⟨inlinable_trip, ofSchema_inline (.object tripNode) inlinable_trip⟩

/-! ## Documents that are read otherwise -/

/-- the hint without references is another one, names of records aside -/
structure ReadOtherwise (root : Json) : Prop where
  nonRecursive : NonRecursive root fun _ => 0
  referenceFree : ∀ depth, ReferenceFree (inline root (depth + 1) root)
  unnamed_ne : ∀ depth, (ofSchema (inline root (depth + 1) root)).value.unnamed ≠ (ofSchema root).value.unnamed

def sideNode : List (String × Json) :=
  [("type", .string "object"), ("properties", .object [])]

/-- two records that are alike but for the names of their definitions -/
def pairDocument : Json :=
  .object [("type", .string "array"),
    ("prefixItems", .array [.object [("$ref", .string "#/$defs/width")], .object [("$ref", .string "#/$defs/height")]]),
    ("$defs", .object [("width", .object sideNode), ("height", .object sideNode)])]

/-- items that nothing is allowed for, by reference -/
def emptyListDocument : Json :=
  .object [("type", .string "array"), ("items", .object [("$ref", .string "#/$defs/nothing")]),
    ("$defs", .object [("nothing", .bool false)])]

/-- a title that a definition has for its name -/
def titledDocument : Json :=
  .object [("title", .string "size"), ("type", .string "array"), ("items", .object [("$ref", .string "#/$defs/size")]),
    ("$defs", .object [("size", .object [("type", .string "integer")])])]

/-- two definitions of one name, one of which refers to the other -/
def twiceDefinedDocument : Json :=
  .object [("$ref", .string "#/$defs/size"),
    ("$defs", .object [("size", .object [("type", .string "array"),
      ("items", .object [("$ref", .string "#/definitions/size")])])]),
    ("definitions", .object [("size", .object [("type", .string "integer")])])]

theorem value_side (root : Json) (stack : List String) :
    (readSchema root stack (.object sideNode)).value = .record ⟨none, [], false⟩ := by
  rw [readSchema_typed rfl, readKind_record rfl]
  rfl

theorem readOtherwise_pairDocument : ReadOtherwise pairDocument where
  nonRecursive := by decide
  referenceFree depth := referenceFree_of_references _ rfl
  unnamed_ne depth := by
    have hwidth : (readSchema pairDocument [] (.object [("$ref", .string "#/$defs/width")])).value =
        .record ⟨some "width", [], false⟩ := by
      rw [readSchema_reference rfl (by decide) rfl, if_neg (by decide), value_side]
      rfl
    have hheight : (readSchema pairDocument [] (.object [("$ref", .string "#/$defs/height")])).value =
        .record ⟨some "height", [], false⟩ := by
      rw [readSchema_reference rfl (by decide) rfl, if_neg (by decide), value_side]
      rfl
    have horiginal : (ofSchema pairDocument).value = .unsupported "tuple" := by
      calc (ofSchema pairDocument).value
        _ = (ofTuple [(readSchema pairDocument [] (.object [("$ref", .string "#/$defs/width")])).value,
              (readSchema pairDocument [] (.object [("$ref", .string "#/$defs/height")])).value]).value := by
          rw [ofSchema, pairDocument, readSchema_typed rfl, readKind_tuple rfl rfl]
          rfl
        _ = .unsupported "tuple" := by
          rw [hwidth, hheight]
          rfl
    have hinlined : (ofSchema (inline pairDocument (depth + 1) pairDocument)).value =
        .array (some (.record ⟨none, [], false⟩)) := by
      have hinline : inline pairDocument (depth + 1) pairDocument = .object [("type", .string "array"),
        ("prefixItems", .array [.object sideNode, .object sideNode]),
        ("$defs", .object [("width", .object sideNode), ("height", .object sideNode)])] := rfl
      rw [hinline, ofSchema, readSchema_typed rfl, readKind_tuple rfl rfl]
      simp only [List.map_cons, List.map_nil, value_side]
      rfl
    rw [horiginal, hinlined]
    intro h
    cases h

theorem readOtherwise_emptyListDocument : ReadOtherwise emptyListDocument where
  nonRecursive := by decide
  referenceFree depth := referenceFree_of_references _ rfl
  unnamed_ne depth := by
    have horiginal : (ofSchema emptyListDocument).value = .array (some (.unsupported "never")) := by
      rw [ofSchema, emptyListDocument, readSchema_typed rfl, readKind_array rfl,
        readSchema_reference rfl (by decide) rfl, if_neg (by decide), readSchema]
      rfl
    have hinlined : (ofSchema (inline emptyListDocument (depth + 1) emptyListDocument)).value = .array none := by
      have hinline : inline emptyListDocument (depth + 1) emptyListDocument =
        .object [("type", .string "array"), ("items", .bool false), ("$defs", .object [("nothing", .bool false)])] := rfl
      rw [ofSchema, hinline, readSchema_typed rfl, readKind_bareArray rfl rfl]
    rw [horiginal, hinlined]
    intro h
    cases h

theorem names_titledDocument : (ofSchema titledDocument).value.names = ["size"] := by
  rw [ofSchema, titledDocument, readSchema_typed rfl, readKind_array rfl, readSchema_reference rfl (by decide) rfl,
    if_pos (by decide)]
  rfl

theorem names_twiceDefinedDocument : (ofSchema twiceDefinedDocument).value.names = ["size"] := by
  rw [ofSchema, twiceDefinedDocument, readSchema_reference rfl (by decide) rfl, if_neg (by decide),
    readSchema_typed rfl, readKind_array rfl, readSchema_reference rfl (by decide) rfl, if_pos (by decide)]
  rfl

/-- **References can tell.** None of these documents is recursive, and yet they are read otherwise with their references
put in place: a tuple whose items differ by the names of their definitions only, and items that are refused by
reference. Where a title or another definition has the name of a definition, that name is left. -/
theorem ofSchema_inline_differs :
    ReadOtherwise pairDocument ∧ ReadOtherwise emptyListDocument ∧
      (NonRecursive titledDocument (fun _ => 0) ∧ (ofSchema titledDocument).value.names = ["size"]) ∧
      (NonRecursive twiceDefinedDocument (fun path => if path = "#/$defs/size" then 1 else 0) ∧
        (ofSchema twiceDefinedDocument).value.names = ["size"]) :=
  ⟨readOtherwise_pairDocument, readOtherwise_emptyListDocument, ⟨by decide, names_titledDocument⟩,
    ⟨by decide, names_twiceDefinedDocument⟩⟩

end ToolSchema.Hint
