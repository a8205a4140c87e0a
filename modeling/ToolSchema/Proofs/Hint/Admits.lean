/-
Hints as sets of values.

`Admits r h v` says that `v` is a value of the type that `h` describes, where names stand for the hints registered in
`r`. A recursive type has the values that its unfolding yields in finitely many steps: the relation is the least one
closed under its rules. A name that is not registered, and a type that no schema describes, say nothing.

- `admits_iff_mem_members`: a union has the values of its flattened members.
- `admits_withName`: the name of a record does not matter to its values.
-/
import ToolSchema.Hint.Members
import ToolSchema.Proofs.Fields
import ToolSchema.Proofs.Schema.Validity
import ToolSchema.Registry

namespace ToolSchema

namespace Hint

/-- the value belongs to the type -/
inductive Admits (r : Registry) : Hint → Json → Prop
  | null : Admits r .null .null
  | string (s : String) : Admits r .string (.string s)
  | integer {n : Json.Number} (hn : n.isWhole = true) : Admits r .integer (.number n)
  | number (n : Json.Number) : Admits r .number (.number n)
  | boolean (b : Bool) : Admits r .boolean (.bool b)
  | any (v : Json) : Admits r .any v
  | bareArray (items : List Json) : Admits r (.array none) (.array items)
  | array {item : Hint} {items : List Json} (hitems : ∀ v ∈ items, Admits r item v) :
    Admits r (.array (some item)) (.array items)
  | bareMap (key : Option Hint) (members : List (String × Json)) : Admits r (.map key none) (.object members)
  | map {key : Option Hint} {value : Hint} {members : List (String × Json)}
    (hvalues : ∀ m ∈ members, Admits r value m.2) : Admits r (.map key (some value)) (.object members)
  | absent (inner : Hint) : Admits r (.optional inner) .null
  | present {inner : Hint} {v : Json} (h : Admits r inner v) : Admits r (.optional inner) v
  | union {hints : List Hint} {h : Hint} {v : Json} (hmem : h ∈ hints) (hv : Admits r h v) : Admits r (.union hints) v
  | literal {values : List Json} {u v : Json} (hmem : u ∈ values) (hv : u.same v = true) : Admits r (.literal values) v
  | record {record : Record Hint} {members : List (String × Json)}
    (hfields : ∀ m ∈ members, ∀ f, Field.last? m.1 record.fields = some f → Admits r f.hint m.2)
    (hrequired : ∀ name f, Field.last? name record.fields = some f → f.required = true → Entries.has name members = true)
    (hclosed : record.closed = true → ∀ m ∈ members, (Field.last? m.1 record.fields).isSome = true) :
    Admits r (.record record) (.object members)
  | unregistered {name : String} (v : Json) (hget : r.get? name = none) : Admits r (.named name) v
  | registered {name : String} {h : Hint} {v : Json} (hget : r.get? name = some h) (hv : Admits r h v) :
    Admits r (.named name) v
  | unsupported (label : String) (v : Json) : Admits r (.unsupported label) v

variable {r : Registry} {v : Json}

/-! ## Unions -/

mutual

theorem admits_iff_mem_members (h : Hint) : Admits r h v ↔ ∃ m ∈ h.members, Admits r m v := by
  cases h with
  | optional inner =>
    have ih := admits_iff_mem_members inner
    simp only [members, List.mem_append, List.mem_singleton]
    constructor
    · intro h
      cases h with
      | absent => exact ⟨.null, .inr rfl, .null⟩
      | present h =>
        obtain ⟨m, hm, hv⟩ := ih.1 h
        exact ⟨m, .inl hm, hv⟩
    · rintro ⟨m, hm | rfl, hv⟩
      · exact .present (ih.2 ⟨m, hm, hv⟩)
      · cases hv
        exact .absent inner
  | union hints =>
    have ih := admits_some_iff_mem_allMembers hints
    simp only [members]
    rw [← ih]
    constructor
    · intro h
      cases h with
      | union hmem hv => exact ⟨_, hmem, hv⟩
    · rintro ⟨m, hmem, hv⟩
      exact .union hmem hv
  | _ => simp only [members, List.mem_singleton, exists_eq_left]

theorem admits_some_iff_mem_allMembers (hints : List Hint) :
    (∃ h ∈ hints, Admits r h v) ↔ ∃ m ∈ allMembers hints, Admits r m v := by
  cases hints with
  | nil => simp only [allMembers]
  | cons h rest =>
    have hfirst := admits_iff_mem_members h
    have hrest := admits_some_iff_mem_allMembers rest
    simp only [allMembers, List.mem_cons, List.mem_append, or_and_right, exists_or, exists_eq_left]
    rw [hfirst, hrest]

end

/-! ## Names of records -/

theorem admits_withName {name : String} {h : Hint} : Admits r (withName name h) v ↔ Admits r h v := by
  cases h with
  | record record =>
    constructor
    · intro h
      cases h with
      | record hfields hrequired hclosed => exact .record hfields hrequired hclosed
    · intro h
      cases h with
      | record hfields hrequired hclosed => exact .record hfields hrequired hclosed
  | _ => rfl

end Hint

end ToolSchema
