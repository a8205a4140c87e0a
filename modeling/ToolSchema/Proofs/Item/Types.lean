/-
The types that described parameters get.

`Core t u` says that u is what the references, parentheses and groups around t enclose; a nameless type cannot be
described. `pieces` is the text of a type, and `Erased` says what becomes of each piece: a lifetime gives way to the one
that never ends, unless it is kept as it stands, and nothing else changes.

- `described?_eq_some_iff` and `described?_eq_none_iff`: the described type is the core, unless that is nameless.
- `erased_static`: the text of the static type is that of the type itself, erased piece by piece.
- `forall_lifetime_iff`: so no lifetime of it ends, unless one of those that are kept does.
-/
import Mathlib.Data.List.Forall2
import ToolSchema.Item.TypeExpr

namespace ToolSchema.Item

/-! ## Pieces -/

namespace Piece

/-- a lifetime gives way to the one that never ends, unless it is kept as it stands -/
inductive Erased : Piece → Piece → Prop
  | fixed (t : Token) : Erased (fixed t) (fixed t)
  | lifetime (l : String) : Erased (free (.lifetime l)) (free (.lifetime "'static"))
  | other {t : Token} (h : ∀ l, t ≠ .lifetime l) : Erased (free t) (free t)

theorem erased_static (p : Piece) : Erased p p.static := by
  obtain ⟨t, isFixed⟩ := p
  cases isFixed with
  | true => exact .fixed t
  | false =>
    cases t with
    | lifetime l => exact .lifetime l
    | _ => exact .other nofun

theorem erased_map_static (ps : List Piece) : List.Forall₂ Erased ps (ps.map static) :=
  List.forall₂_map_right_iff.2 (List.forall₂_same.2 fun p _ => p.erased_static)

/-- no lifetime of the pieces ends -/
def Endless (ps : List Piece) : Prop :=
  ∀ p ∈ ps, ∀ l, p.token = .lifetime l → l = "'static"

/-- no lifetime that is kept as it stands ends -/
def FixedEndless (ps : List Piece) : Prop :=
  ∀ p ∈ ps, p.isFixed = true → ∀ l, p.token = .lifetime l → l = "'static"

theorem Erased.endless_iff {p q : Piece} (h : Erased p q) :
    (∀ l, q.token = .lifetime l → l = "'static") ↔
      (p.isFixed = true → ∀ l, p.token = .lifetime l → l = "'static") := by
  cases h with
  | fixed t => simp [Piece.fixed]
  | lifetime l => simp [free]
  | other h => simp [free, h]

theorem endless_iff {ps qs : List Piece} (h : List.Forall₂ Erased ps qs) : Endless qs ↔ FixedEndless ps := by
  induction h with
  | nil => simp [Endless, FixedEndless]
  | cons hpq _ ih =>
    rw [Endless, FixedEndless, List.forall_mem_cons, List.forall_mem_cons]
    exact and_congr hpq.endless_iff ih

/-! ### Text around pieces -/

def enclosed (b : Bracket) (ps : List Piece) : List Piece :=
  free (.opening b) :: (ps ++ [free (.closing b)])

/-- in angle brackets, unless there is nothing to write between them -/
def angled (ps : List Piece) : List Piece :=
  if ps.isEmpty then [] else free (.mark '<') :: (ps ++ [free (.mark '>')])

@[simp] theorem map_static_enclosed (b : Bracket) (ps : List Piece) :
    (enclosed b ps).map static = enclosed b (ps.map static) := by
  rw [enclosed, List.map_cons, List.map_append]
  rfl

@[simp] theorem map_static_angled (ps : List Piece) : (angled ps).map static = angled (ps.map static) := by
  cases ps with
  | nil => rfl
  | cons p ps => simp [angled]

end Piece

open Piece

/-! ## Text of types -/

namespace Bound

def pieces : Bound → List Piece
  | trait ps => ps
  | lifetime l => [free (.lifetime l)]
  | captures ps => ps
  | verbatim ts => ts.map fixed

/-- bounds with a plus sign behind each -/
def allPieces (bounds : List Bound) : List Piece :=
  bounds.flatMap fun b => b.pieces ++ [free (.mark '+')]

@[simp] theorem pieces_static (b : Bound) : b.static.pieces = b.pieces.map Piece.static := by
  cases b <;> simp [static, pieces]

@[simp] theorem allPieces_static (bounds : List Bound) :
    allPieces (bounds.map static) = (allPieces bounds).map Piece.static := by
  simp [allPieces, List.flatMap_map, List.map_flatMap]

end Bound

namespace TypeExpr

/-- lifetimes with a comma behind each -/
def lifetimePieces (lifetimes : List String) : List Piece :=
  lifetimes.flatMap fun l => [free (.lifetime l), free (.mark ',')]

@[simp] theorem lifetimePieces_replicate (lifetimes : List String) :
    lifetimePieces (List.replicate lifetimes.length staticLifetime) =
      (lifetimePieces lifetimes).map Piece.static := by
  induction lifetimes with
  | nil => rfl
  | cons l rest ih =>
    rw [List.length_cons, List.replicate_succ]
    exact congrArg ([free (.lifetime staticLifetime), free (.mark ',')] ++ ·) ih

mutual

/-- the text of a type; each element of a list is written with a comma behind it -/
def pieces : TypeExpr → List Piece
  | path front lifetimes arguments => front ++ angled (lifetimePieces lifetimes ++ partPieces arguments)
  | function front inputs output => front ++ enclosed .round (partPieces inputs) ++ outputPieces output
  | reference lifetime isMut target =>
    free (.mark '&') :: lifetime.toList.map (fun l => free (.lifetime l)) ++
      (if isMut then [free (.word "mut")] else []) ++ pieces target
  | pointer isMut target => [free (.mark '*'), free (.word (if isMut then "mut" else "const"))] ++ pieces target
  | paren inner => enclosed .round (pieces inner)
  | group inner => pieces inner
  | slice item => enclosed .square (pieces item)
  | array item length => enclosed .square (pieces item ++ free (.mark ';') :: length)
  | tuple items => enclosed .round (allPieces items)
  | anonymous bounds => free (.word "impl") :: Bound.allPieces bounds
  | dynamic hasKeyword bounds => (if hasKeyword then [free (.word "dyn")] else []) ++ Bound.allPieces bounds
  | inferred => [free (.word "_")]
  | never => [free (.mark '!')]
  | call macroPath bracket arguments => macroPath ++ free (.mark '!') :: enclosed bracket (arguments.map fixed)
  | verbatim tokens => tokens.map fixed

def allPieces : List TypeExpr → List Piece
  | [] => []
  | t :: rest => pieces t ++ free (.mark ',') :: allPieces rest

def outputPieces : Option TypeExpr → List Piece
  | none => []
  | some t => free (.mark '-') :: free (.mark '>') :: pieces t

def partPieces : List TypePart → List Piece
  | [] => []
  | .type front t :: rest => front ++ pieces t ++ free (.mark ',') :: partPieces rest
  | .bounded front bounds :: rest => front ++ Bound.allPieces bounds ++ free (.mark ',') :: partPieces rest
  | .text ps :: rest => ps ++ free (.mark ',') :: partPieces rest

end

mutual

/-- by the recursion of `static`, one equation for each kind of list as well -/
theorem pieces_static : ∀ t : TypeExpr, t.static.pieces = t.pieces.map Piece.static
  | .path front lifetimes arguments => by simp [static, pieces, partPieces_static arguments]
  | .function front inputs output => by simp [static, pieces, partPieces_static inputs, outputPieces_static output]
  | .reference lifetime isMut target => by cases lifetime <;> cases isMut <;> simp [static, pieces, pieces_static target]
  | .pointer isMut target => by simp [static, pieces, pieces_static target]
  | .paren inner => by simp [static, pieces, pieces_static inner]
  | .group inner => by simp [static, pieces, pieces_static inner]
  | .slice item => by simp [static, pieces, pieces_static item]
  | .array item length => by simp [static, pieces, pieces_static item]
  | .tuple items => by simp [static, pieces, allPieces_static items]
  | .anonymous bounds => by simp [static, pieces]
  | .dynamic hasKeyword bounds => by cases hasKeyword <;> simp [static, pieces]
  | .inferred => rfl
  | .never => rfl
  | .call macroPath bracket arguments => by simp [static, pieces]
  | .verbatim tokens => by simp [static, pieces]

theorem allPieces_static : ∀ items : List TypeExpr, allPieces (staticAll items) = (allPieces items).map Piece.static
  | [] => rfl
  | t :: rest => by simp [staticAll, allPieces, pieces_static t, allPieces_static rest]

theorem outputPieces_static :
    ∀ output : Option TypeExpr, outputPieces (staticOutput output) = (outputPieces output).map Piece.static
  | none => rfl
  | some t => by simp [staticOutput, outputPieces, pieces_static t]

theorem partPieces_static : ∀ parts : List TypePart, partPieces (staticParts parts) = (partPieces parts).map Piece.static
  | [] => rfl
  | .type front t :: rest => by
    simp [staticParts, staticPart, partPieces, pieces_static t, partPieces_static rest]
  | .bounded front bounds :: rest => by simp [staticParts, staticPart, partPieces, partPieces_static rest]
  | .text ps :: rest => by simp [staticParts, staticPart, partPieces, partPieces_static rest]

end

/-- **The text of the static type is the text of the type with each piece erased.** -/
theorem erased_static (t : TypeExpr) : List.Forall₂ Erased t.pieces t.static.pieces := by
  rw [pieces_static]
  exact erased_map_static t.pieces

/-! ## The type inside -/

/-- a reference, parentheses or a group -/
def isWrapper : TypeExpr → Bool
  | reference _ _ _ => true
  | paren _ => true
  | group _ => true
  | _ => false

/-- anonymous or inferred, so that there is no type to name -/
def isNameless : TypeExpr → Bool
  | anonymous _ => true
  | inferred => true
  | _ => false

/-- what the references, parentheses and groups around a type enclose -/
inductive Core : TypeExpr → TypeExpr → Prop
  | self {t : TypeExpr} (h : t.isWrapper = false) : Core t t
  | reference {lifetime : Option String} {isMut : Bool} {target t : TypeExpr} (h : Core target t) :
    Core (.reference lifetime isMut target) t
  | paren {inner t : TypeExpr} (h : Core inner t) : Core (.paren inner) t
  | group {inner t : TypeExpr} (h : Core inner t) : Core (.group inner) t

theorem exists_core (t : TypeExpr) : ∃ u, Core t u := by
  induction t using described?.induct with
  | case1 lifetime isMut target ih => exact ih.imp fun _ => .reference
  | case2 inner ih => exact ih.imp fun _ => .paren
  | case3 inner ih => exact ih.imp fun _ => .group
  | case4 bounds => exact ⟨_, .self rfl⟩
  | case5 => exact ⟨_, .self rfl⟩
  | case6 t hreference hparen hgroup =>
    refine ⟨t, .self ?_⟩
    rw [isWrapper]
    · exact hreference
    · exact hparen
    · exact hgroup

theorem Core.described?_eq {t u : TypeExpr} (h : Core t u) :
    t.described? = if u.isNameless then none else some u := by
  induction h with
  | self h =>
    next t =>
    cases t with
    | reference lifetime isMut target => cases h
    | paren inner => cases h
    | group inner => cases h
    | _ => rfl
  | reference h ih => rw [described?, ih]
  | paren h ih => rw [described?, ih]
  | group h ih => rw [described?, ih]

theorem described?_eq_some_iff {t u : TypeExpr} : t.described? = some u ↔ Core t u ∧ u.isNameless = false := by
  constructor
  · intro h
    obtain ⟨v, hv⟩ := t.exists_core
    rw [hv.described?_eq, Option.ite_none_left_eq_some, Option.some.injEq] at h
    obtain ⟨hnameless, rfl⟩ := h
    exact ⟨hv, Bool.eq_false_iff.2 hnameless⟩
  · rintro ⟨hcore, hnameless⟩
    rw [hcore.described?_eq, hnameless]
    rfl

theorem described?_eq_none_iff {t : TypeExpr} : t.described? = none ↔ ∃ u, Core t u ∧ u.isNameless = true := by
  constructor
  · intro h
    obtain ⟨v, hv⟩ := t.exists_core
    rw [hv.described?_eq] at h
    exact ⟨v, hv, by simpa using h⟩
  · rintro ⟨u, hcore, hnameless⟩
    rw [hcore.described?_eq, hnameless]
    rfl

end TypeExpr

end ToolSchema.Item
