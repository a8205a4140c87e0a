/-
The schemas that say nothing beyond what a hint can say of single keywords.

`Basic` is the fragment: boolean schemas, and nodes of the keywords that `inside?` lists, whose references lead to the
document or to one of its definitions. A node that speaks of items or of properties names a type. In this fragment a
reference leads where the reading of the document takes it (`target?_eq_definition?`), and the fragment goes on there
(`Basic.of_target?`).
-/
import ToolSchema.Proofs.Entries
import ToolSchema.Proofs.Schema.Validity
import ToolSchema.Proofs.Text.Split

namespace ToolSchema

namespace Schema

/-! ## The fragment -/

/-- a reference to the whole document, or to a definition by its key -/
def isLocal (reference : String) : Bool :=
  reference == "#" || Hint.sections.any fun s =>
    (Text.dropPrefix? ("#/" ++ s ++ "/").toList reference.toList).any (!·.contains '/')

/-- the schemas inside the operand of a keyword, if the keyword belongs to the fragment and the operand fits it -/
def inside? : String → Json → Option (List Json)
  | "type", .string _ => some []
  | "type", .array kinds => if kinds.all Json.isString then some [] else none
  | "items", schema => some [schema]
  | "properties", .object properties => some (properties.map Prod.snd)
  | "required", .array names => if names.all Json.isString then some [] else none
  | "additionalProperties", schema => some [schema]
  | "enum", .array _ => some []
  | "const", _ => some []
  | "anyOf", .array schemas => some schemas
  | "oneOf", .array schemas => some schemas
  | "allOf", .array schemas => some schemas
  | "title", .string _ => some []
  | "$defs", .object definitions => some (definitions.map Prod.snd)
  | "definitions", .object definitions => some (definitions.map Prod.snd)
  | "$ref", .string reference => if isLocal reference then some [] else none
  | _, _ => none

/-- the schema is built from the keywords of the fragment -/
inductive Basic : Json → Prop
  | bool (b : Bool) : Basic (.bool b)
  | node {node : List (String × Json)}
    (htyped : Entries.has "items" node = true ∨ Entries.has "properties" node = true → Entries.has "type" node = true)
    (hfits : ∀ k ∈ node, (inside? k.1 k.2).isSome = true)
    (hinside : ∀ k ∈ node, ∀ schemas, inside? k.1 k.2 = some schemas → ∀ schema ∈ schemas, Basic schema) :
    Basic (.object node)

namespace Basic

variable {node : List (String × Json)} {key : String} {operand : Json}

theorem typed (h : Basic (.object node)) :
    Entries.has "items" node = true ∨ Entries.has "properties" node = true → Entries.has "type" node = true := by
  cases h with
  | node htyped hfits hinside => exact htyped

theorem fits (h : Basic (.object node)) (hkey : node.lookup key = some operand) :
    (inside? key operand).isSome = true := by
  cases h with
  | node htyped hfits hinside => exact hfits (key, operand) (Entries.mem_of_lookup hkey)

theorem inside (h : Basic (.object node)) (hkey : node.lookup key = some operand) {schemas : List Json}
    (hschemas : inside? key operand = some schemas) {schema : Json} (hmem : schema ∈ schemas) : Basic schema := by
  cases h with
  | node htyped hfits hinside => exact hinside (key, operand) (Entries.mem_of_lookup hkey) schemas hschemas schema hmem

theorem of_inside
    (htyped : Entries.has "items" node = true ∨ Entries.has "properties" node = true → Entries.has "type" node = true)
    (h : ∀ k ∈ node, ∃ schemas, inside? k.1 k.2 = some schemas ∧ ∀ schema ∈ schemas, Basic schema) :
    Basic (.object node) := by
  refine .node htyped ?_ ?_
  · intro k hk
    obtain ⟨schemas, hschemas, -⟩ := h k hk
    rw [hschemas]
    rfl
  · intro k hk schemas hschemas
    obtain ⟨schemas', hschemas', hbasic⟩ := h k hk
    cases hschemas.symm.trans hschemas'
    exact hbasic

end Basic

/-! ## References -/

/-- a local reference to a definition ends in its key -/
theorem exists_key_of_isLocal {reference : String} (hlocal : isLocal reference = true) (hself : reference ≠ "#") :
    ∃ s ∈ Hint.sections, ∃ key : List Char, '/' ∉ key ∧ reference.toList = '#' :: '/' :: s.toList ++ '/' :: key := by
  simp only [isLocal, Bool.or_eq_true, beq_iff_eq, hself, false_or, List.any_eq_true] at hlocal
  obtain ⟨s, hs, hprefix⟩ := hlocal
  refine ⟨s, hs, ?_⟩
  simp only [Text.dropPrefix?] at hprefix
  split at hprefix
  · next h =>
    obtain ⟨key, hkey⟩ := List.isPrefixOf_iff_prefix.1 h
    rw [← hkey, List.drop_left] at hprefix
    refine ⟨key, by simpa using hprefix, ?_⟩
    rw [← hkey]
    simp
  · cases hprefix

theorem referenceName_eq {reference : String} {before key : List Char} (hkey : '/' ∉ key)
    (href : reference.toList = before ++ '/' :: key) :
    Hint.referenceName reference = String.ofList (Hint.unescape key) := by
  have htake : (reference.toList.reverse.takeWhile (· != '/')) = key.reverse := by
    have hreverse : '/' ∉ key.reverse := fun h => hkey (List.mem_reverse.1 h)
    rw [href, List.reverse_append, List.reverse_cons, List.append_assoc,
      List.takeWhile_append_of_pos (Text.bne_of_not_mem hreverse)]
    simp
  rw [Hint.referenceName, htake, List.reverse_reverse]

theorem target?_eq {root : Json} {reference : String} {s : String} {key : List Char} (hs : s ∈ Hint.sections)
    (hkey : '/' ∉ key) (href : reference.toList = '#' :: '/' :: s.toList ++ '/' :: key) :
    target? root reference = (Hint.definitions root s).lookup (String.ofList (Hint.unescape key)) := by
  have hsegments : Text.splitOn (· == '/') (s.toList ++ '/' :: key) = [s.toList, key] := by
    have hslash : '/' ∉ s.toList := by
      simp only [Hint.sections, List.mem_cons, List.not_mem_nil, or_false] at hs
      rcases hs with rfl | rfl <;> decide
    rw [Text.splitOn_append_cons rfl, Text.splitOn_eq_singleton (Text.beq_of_not_mem hslash),
      Text.splitOn_eq_singleton (Text.beq_of_not_mem hkey)]
    rfl
  have hname : String.ofList (Hint.unescape s.toList) = s := by
    simp only [Hint.sections, List.mem_cons, List.not_mem_nil, or_false] at hs
    rcases hs with rfl | rfl <;> rfl
  rw [target?, href]
  simp only [List.cons_append, hsegments, List.foldlM_cons, List.foldlM_nil, hname, bind_pure]
  rw [Hint.definitions]
  cases root.get? s with
  | none => rfl
  | some definitions => cases definitions <;> rfl

/-- a reference points into one section only -/
theorem isPrefixOf_section {s t : String} {key : List Char} (hs : s ∈ Hint.sections) (ht : t ∈ Hint.sections) :
    ("#/" ++ t ++ "/").toList.isPrefixOf ('#' :: '/' :: s.toList ++ '/' :: key) = (t == s) := by
  simp only [Hint.sections, List.mem_cons, List.not_mem_nil, or_false] at hs ht
  rcases hs with rfl | rfl <;> rcases ht with rfl | rfl <;> simp [List.isPrefixOf]

theorem definition?_eq {root : Json} {reference name s : String} {key : List Char} (hs : s ∈ Hint.sections)
    (href : reference.toList = '#' :: '/' :: s.toList ++ '/' :: key) :
    Hint.definition? root reference name = (Hint.definitions root s).lookup name := by
  have hsections : Hint.definition? root reference name =
      (if "$defs" = s then (Hint.definitions root "$defs").lookup name else none).or
        (if "definitions" = s then (Hint.definitions root "definitions").lookup name else none) := by
    have hfirst := @isPrefixOf_section s "$defs" key hs (by decide)
    have hsecond := @isPrefixOf_section s "definitions" key hs (by decide)
    simp only [Hint.definition?, href, Hint.sections, List.findSome?_cons, List.findSome?_nil, hfirst, hsecond,
      beq_iff_eq]
    cases if "$defs" = s then (Hint.definitions root "$defs").lookup name else none <;>
      cases if "definitions" = s then (Hint.definitions root "definitions").lookup name else none <;> rfl
  rw [hsections]
  simp only [Hint.sections, List.mem_cons, List.not_mem_nil, or_false] at hs
  rcases hs with rfl | rfl
  · rw [if_pos rfl, if_neg (by decide), Option.or_none]
  · rw [if_neg (by decide), if_pos rfl, Option.none_or]

theorem target?_eq_definition? {root : Json} {reference : String} (hlocal : isLocal reference = true)
    (hself : reference ≠ "#") :
    target? root reference = Hint.definition? root reference (Hint.referenceName reference) := by
  obtain ⟨s, hs, key, hkey, href⟩ := exists_key_of_isLocal hlocal hself
  have hname : Hint.referenceName reference = String.ofList (Hint.unescape key) := referenceName_eq hkey href
  rw [target?_eq hs hkey href, definition?_eq hs href, hname]

/-- what defines something is an object, with a section that is an object -/
theorem exists_section_of_lookup {root definition : Json} {s name : String}
    (h : (Hint.definitions root s).lookup name = some definition) :
    ∃ node definitions, root = .object node ∧ node.lookup s = some (.object definitions) ∧
      definitions.lookup name = some definition := by
  cases root with
  | object node =>
    simp only [Hint.definitions, Json.get?] at h
    cases hsection : node.lookup s with
    | none => simp [hsection] at h
    | some operand =>
      cases operand with
      | object definitions =>
        rw [hsection] at h
        exact ⟨node, definitions, rfl, hsection, h⟩
      | _ => simp [hsection, Json.object?] at h
  | _ => simp [Hint.definitions, Json.get?] at h

theorem Basic.of_definitions {root definition : Json} (hroot : Basic root) {s name : String} (hs : s ∈ Hint.sections)
    (hdefinition : (Hint.definitions root s).lookup name = some definition) : Basic definition := by
  obtain ⟨node, definitions, rfl, hsection, hlookup⟩ := exists_section_of_lookup hdefinition
  have hinside : inside? s (.object definitions) = some (definitions.map Prod.snd) := by
    simp only [Hint.sections, List.mem_cons, List.not_mem_nil, or_false] at hs
    rcases hs with rfl | rfl <;> rfl
  exact hroot.inside hsection hinside (List.mem_map_of_mem (Entries.mem_of_lookup hlookup))

/-- where a reference leads, the fragment goes on -/
theorem Basic.of_target? {root schema : Json} (hroot : Basic root) {reference : String}
    (hlocal : isLocal reference = true) (htarget : target? root reference = some schema) : Basic schema := by
  by_cases hself : reference = "#"
  · subst hself
    cases htarget
    exact hroot
  · obtain ⟨s, hs, key, hkey, href⟩ := exists_key_of_isLocal hlocal hself
    rw [target?_eq hs hkey href] at htarget
    exact hroot.of_definitions hs htarget

end Schema

end ToolSchema
