/-
How the members of a union are grouped.

`Groups h members` says that a hint is made of optionals and unions over these members, from left to right; every hint
is so (`groups_members`). Resolution sees only the members, and of those that are null only the first (`nullOnce`): the
others have nothing to add, neither to the choice between one member and several (`filter_nullOnce`) nor to the variants
(`distinctVariants_nullOnce`). From that, `resolve_regroup`: hints over the same members resolve alike, however they are
grouped and however often null is repeated.
-/
import ToolSchema.Proofs.Resolve.Members

namespace ToolSchema

/-! ## Members in groups -/

namespace Hint

def isGroup : Hint → Bool
  | .optional _ => true
  | .union _ => true
  | _ => false

/-- The hint is made of optionals and unions over these members, from left to right. An optional type has those of the
inner type, then null. -/
inductive Groups : Hint → List Hint → Prop
  | member {m : Hint} (hm : m.isGroup = false) : Groups m [m]
  | optional {inner : Hint} {members : List Hint} (hinner : Groups inner members) :
    Groups (.optional inner) (members ++ [.null])
  | empty : Groups (.union []) []
  | cons {first : Hint} {rest members members' : List Hint} (hfirst : Groups first members)
    (hrest : Groups (.union rest) members') : Groups (.union (first :: rest)) (members ++ members')

theorem Groups.members_eq {h : Hint} {members : List Hint} (hh : Groups h members) : h.members = members := by
  induction hh with
  | member hm =>
    next m =>
    cases m with
    | optional inner => cases hm
    | union hints => cases hm
    | _ => rfl
  | optional hinner ih => rw [Hint.members, ih]
  | empty => rfl
  | cons hfirst hrest ihfirst ihrest =>
    rw [Hint.members] at ihrest
    rw [Hint.members, allMembers, ihfirst, ihrest]

mutual

/-- every hint is made of its members in this way -/
theorem groups_members (h : Hint) : Groups h h.members := by
  cases h with
  | optional inner => exact .optional (groups_members inner)
  | union hints => exact groups_allMembers hints
  | _ => exact .member rfl

theorem groups_allMembers (hints : List Hint) : Groups (.union hints) (allMembers hints) := by
  cases hints with
  | nil => exact .empty
  | cons h rest => exact .cons (groups_members h) (groups_allMembers rest)

end

/-- the members less each null after the first -/
def nullOnce : List Hint → List Hint
  | [] => []
  | .null :: rest => .null :: rest.filter (!·.isNull)
  | m :: rest => m :: nullOnce rest

variable {m : Hint} {members rest : List Hint}

theorem nullOnce_cons_of_ne (hm : m.isNull = false) : nullOnce (m :: rest) = m :: nullOnce rest := by
  cases m with
  | null => cases hm
  | _ => rfl

theorem nullOnce_eq_nil : nullOnce members = [] ↔ members = [] := by
  cases members with
  | nil => simp [nullOnce]
  | cons m rest => cases m <;> simp [nullOnce]

theorem filter_nullOnce : (nullOnce members).filter (!·.isNull) = members.filter (!·.isNull) := by
  induction members with
  | nil => rfl
  | cons m rest ih =>
    cases hm : m.isNull with
    | true =>
      rw [eq_null_of_isNull hm, nullOnce, List.filter_cons_of_neg (by decide), List.filter_cons_of_neg (by decide),
        List.filter_filter]
      simp only [Bool.and_self]
    | false =>
      rw [nullOnce_cons_of_ne hm, List.filter_cons_of_pos (by simp [hm]), List.filter_cons_of_pos (by simp [hm]), ih]

theorem nullOnce_append_null (h : .null ∈ members) : nullOnce (members ++ [.null]) = nullOnce members := by
  induction members with
  | nil => cases h
  | cons m rest ih =>
    cases hm : m.isNull with
    | true =>
      rw [eq_null_of_isNull hm, List.cons_append, nullOnce, nullOnce, List.filter_append]
      exact congrArg (Hint.null :: ·) (List.append_nil _)
    | false =>
      have hrest : .null ∈ rest := by
        rcases List.mem_cons.1 h with rfl | hrest
        · cases hm
        · exact hrest
      rw [List.cons_append, nullOnce_cons_of_ne hm, nullOnce_cons_of_ne hm, ih hrest]

end Hint

open Hint (nullOnce)

variable {r : Registry} {seen : List String} {members : List Hint}

/-! ## Null counts once -/

namespace Descriptor

theorem distinctVariants_nullOnce {type : Hint → Descriptor} (htype : type .null = .primitive .null) :
    distinctVariants ((nullOnce members).map type) = distinctVariants (members.map type) := by
  have hcollect : ∀ before : List Descriptor,
      collect same before ((nullOnce members).flatMap fun m => (type m).variants) =
        collect same before (members.flatMap fun m => (type m).variants) := by
    induction members with
    | nil => exact fun _ => rfl
    | cons m rest ih =>
      intro before
      cases hm : m.isNull with
      | true =>
        rw [Hint.eq_null_of_isNull hm, nullOnce, List.flatMap_cons, List.flatMap_cons, collect_append, collect_append]
        refine collect_flatMap_filter fun m' _ hm' a ha => ?_
        have hnull : m' = .null := Hint.eq_null_of_isNull (by simpa using hm')
        rw [hnull] at ha
        have hself : a.same a = true := by
          rw [htype] at ha
          rw [List.mem_singleton.1 ha]
          rfl
        exact exists_same_of_mem hself ha
      | false =>
        rw [Hint.nullOnce_cons_of_ne hm, List.flatMap_cons, List.flatMap_cons, collect_append, collect_append, ih]
  rw [distinctVariants, distinctVariants, List.flatMap_map, List.flatMap_map]
  exact hcollect []

end Descriptor

theorem resolve_null_value : (resolve r seen .null).value = .primitive .null := by
  rw [resolve]
  rfl

theorem resolveUnion_nullOnce (members : List Hint) :
    (resolveUnion r seen members).value = (resolveUnion r seen (nullOnce members)).value := by
  rcases Nat.lt_or_ge (members.filter (!·.isNull)).length 2 with hfew | hseveral
  · by_cases hnil : members = []
    · rw [hnil, nullOnce]
    · exact resolveUnion_congr_of_filter hnil (mt Hint.nullOnce_eq_nil.1 hnil) Hint.filter_nullOnce.symm
        (Nat.le_of_lt_succ hfew)
  · have hseveral' : 2 ≤ ((nullOnce members).filter (!·.isNull)).length := by rwa [Hint.filter_nullOnce]
    rw [resolveUnion_value hseveral, resolveUnion_value hseveral']
    exact Descriptor.ofVariants_congr (Descriptor.distinctVariants_nullOnce resolve_null_value).symm

theorem resolve_value_congr_members {h k : Hint} (hmembers : nullOnce h.members = nullOnce k.members) :
    (resolve r seen h).value = (resolve r seen k).value := by
  rw [resolve_value_eq_members, resolve_value_eq_members, resolveUnion_nullOnce, hmembers, ← resolveUnion_nullOnce]

/-- **How a union is nested does not matter.** Two hints over the same members resolve alike, also if one of them
repeats null after its first occurrence. So a union of one hint is that hint, and an optional type that is optional once
more is the optional type. -/
theorem resolve_regroup (r : Registry) (seen : List String) :
    (∀ h k members members', Hint.Groups h members → Hint.Groups k members' → nullOnce members = nullOnce members' →
        (resolve r seen h).value = (resolve r seen k).value) ∧
      (∀ h, (resolve r seen (.union [h])).value = (resolve r seen h).value) ∧
      ∀ h, (resolve r seen (.optional (.optional h))).value = (resolve r seen (.optional h)).value := by
  refine ⟨fun h k members members' hh hk hmembers => ?_, fun h => ?_, fun h => ?_⟩
  · rw [← hh.members_eq, ← hk.members_eq] at hmembers
    exact resolve_value_congr_members hmembers
  · have hmembers : (Hint.union [h]).members = h.members := List.append_nil _
    exact resolve_value_congr_members (congrArg nullOnce hmembers)
  · have hmembers : (Hint.optional (.optional h)).members = (Hint.optional h).members ++ [.null] := rfl
    have hnull : .null ∈ (Hint.optional h).members := List.mem_append_right _ List.mem_cons_self
    apply resolve_value_congr_members
    rw [hmembers, Hint.nullOnce_append_null hnull]

/-- an empty union among the members, and a null that comes a second time -/
theorem resolve_regroup_nested :
    Hint.Groups (.union [.optional .string, .union [], .optional (.union [.integer])])
        [.string, .null, .integer, .null] ∧
      Hint.Groups (.union [.union [.optional .string], .integer]) [.string, .null, .integer] ∧
      nullOnce [.string, .null, .integer, .null] = nullOnce [.string, .null, .integer] ∧
      (resolve .empty [] (.union [.optional .string, .union [], .optional (.union [.integer])])).value =
        (resolve .empty [] (.union [.union [.optional .string], .integer])).value := by
  have hleft := Hint.groups_members (.union [.optional .string, .union [], .optional (.union [.integer])])
  have hright := Hint.groups_members (.union [.union [.optional .string], .integer])
  exact ⟨hleft, hright, rfl, (resolve_regroup .empty []).1 _ _ _ _ hleft hright rfl⟩

end ToolSchema
