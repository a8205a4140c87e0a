/-
Which function items can be described, and what is said of their parameters.

`Describable` lists what an item must satisfy. `Function.checks` are the checks of an item in their order, and `Fails`
says which of them fails with which error. `Describes p d` is what a description d has to say of the parameter p: its
plain name, where its type comes from, and its default. Of several attributes with one path, the first counts
(`IsFirst`). Whether tokens are an expression is a parameter throughout.

- `errorOf?_describe`: the error of an item is that of the first check to fail, which goes for each parameter and for
  the parameters in a row as well.
- `describable_iff`: an item is describable if and only if none of its checks fails.
- `forall₂_describes`: the descriptions are those of the parameters, one by one.
- `describe_faithful`: all of that together.
- `convert_keeps_lifetime`: a lifetime in a macro call outlasts the description, and a name for a whole is as good as a
  plain one.
-/
import ToolSchema.Item.Constructor
import ToolSchema.Proofs.Item.Types

namespace ToolSchema.Item

/-! ## Names -/

/-- the second name is the first one without the mark of a name that is written like a keyword -/
inductive IsPlain : String → String → Prop
  | marked (plain : String) : IsPlain (rawMark ++ plain) plain
  | unmarked {name : String} (h : ∀ plain, name ≠ rawMark ++ plain) : IsPlain name name

theorem isPlain_plainName (name : String) : IsPlain name (plainName name) := by
  rw [plainName]
  split
  · next hmark =>
    obtain ⟨rest, hrest⟩ := List.isPrefixOf_iff_prefix.1 hmark
    have hdrop : name.toList.drop rawMark.length = rest := by
      rw [← hrest]
      exact List.drop_left
    have hname : name = rawMark ++ String.ofList rest := by
      rw [← String.toList_inj, String.toList_append, String.toList_ofList, hrest]
    rw [hdrop]
    subst hname
    exact .marked _
  · next hmark =>
    refine .unmarked fun plain h => hmark ?_
    rw [h, String.toList_append]
    exact List.isPrefixOf_iff_prefix.2 (List.prefix_append _ _)

/-! ## Attributes -/

/-- the first attribute with this path -/
def IsFirst (path : String) (attributes : List Attribute) (a : Attribute) : Prop :=
  a.path = path ∧ ∃ before after, attributes = before ++ a :: after ∧ ∀ b ∈ before, b.path ≠ path

theorem first?_eq_some_iff {path : String} {attributes : List Attribute} {a : Attribute} :
    first? path attributes = some a ↔ IsFirst path attributes a := by
  simp [first?, List.find?_eq_some_iff_append, IsFirst]

theorem first?_eq_none_iff {path : String} {attributes : List Attribute} :
    first? path attributes = none ↔ ∀ a ∈ attributes, a.path ≠ path := by
  simp [first?]

theorem isFirst_or_forall (path : String) (attributes : List Attribute) :
    (∃ arguments, IsFirst path attributes ⟨path, arguments⟩) ∨ ∀ a ∈ attributes, a.path ≠ path := by
  cases hfirst : first? path attributes with
  | none => exact .inr (first?_eq_none_iff.1 hfirst)
  | some a =>
    have ha : IsFirst path attributes a := first?_eq_some_iff.1 hfirst
    obtain ⟨path', arguments⟩ := a
    cases ha.1
    exact .inl ⟨arguments, ha⟩

theorem IsFirst.mem {path : String} {attributes : List Attribute} {a : Attribute} (h : IsFirst path attributes a) :
    a ∈ attributes := by
  obtain ⟨-, before, after, rfl, -⟩ := h
  exact List.mem_append_right before List.mem_cons_self

section

variable {isExpression : List Token → Bool} {attributes : List Attribute} {arguments : Arguments}

theorem default?_of_isFirst (h : IsFirst "default" attributes ⟨"default", arguments⟩) :
    default? isExpression attributes =
      match arguments with
      | .absent => .ok .unspecified
      | .list tokens => if isExpression tokens then .ok (.value tokens) else .error .noExpression
      | .value _ => .error .defaultForm := by
  rw [default?, first?_eq_some_iff.2 h]
  cases arguments <;> rfl

theorem default?_of_forall_ne (h : ∀ a ∈ attributes, a.path ≠ "default") :
    default? isExpression attributes = .ok .absent := by
  rw [default?, first?_eq_none_iff.2 h]

theorem hint?_of_isFirst (h : IsFirst "hint" attributes ⟨"hint", arguments⟩) :
    hint? isExpression attributes =
      match arguments with
      | .list tokens => if isExpression tokens then .ok (some tokens) else .error .noExpression
      | _ => .error .noExpression := by
  rw [hint?, first?_eq_some_iff.2 h]
  cases arguments <;> rfl

theorem hint?_of_forall_ne (h : ∀ a ∈ attributes, a.path ≠ "hint") : hint? isExpression attributes = .ok none := by
  rw [hint?, first?_eq_none_iff.2 h]

end

/-! ## Checks -/

/-- what is checked of an item, and of each of its parameters -/
inductive Check where
  | receiver
  | generics
  | variadic
  | pattern (p : Parameter)
  | default (p : Parameter)
  | hint (p : Parameter)

def Parameter.checks (p : Parameter) : List Check := [.pattern p, .default p, .hint p]

/-- the checks of an item in their order -/
def Function.checks (f : Function) : List Check :=
  [.receiver, .generics, .variadic] ++ f.parameters.flatMap Parameter.checks

section

variable (isExpression : List Token → Bool) (f : Function)

/-- the check fails with this error -/
inductive Fails : Check → Error → Prop
  | receiver (h : f.hasReceiver = true) : Fails .receiver .receiver
  | generics (h : .other ∈ f.generics) : Fails .generics .generics
  | variadic (h : f.isVariadic = true) : Fails .variadic .variadic
  | pattern {p : Parameter} (h : p.pattern = .other) : Fails (.pattern p) .pattern
  | defaultForm {p : Parameter} {tokens : List Token} (h : IsFirst "default" p.attributes ⟨"default", .value tokens⟩) :
    Fails (.default p) .defaultForm
  | defaultTokens {p : Parameter} {tokens : List Token} (h : IsFirst "default" p.attributes ⟨"default", .list tokens⟩)
    (hno : isExpression tokens = false) : Fails (.default p) .noExpression
  | hint {p : Parameter} {arguments : Arguments} (h : IsFirst "hint" p.attributes ⟨"hint", arguments⟩)
    (hno : ∀ tokens, arguments = .list tokens → isExpression tokens = false) : Fails (.hint p) .noExpression

/-- the error of the first check to fail -/
def FirstFailure (e : Error) : Prop :=
  ∃ before c after, f.checks = before ++ c :: after ∧ Fails isExpression f c e ∧
    ∀ b ∈ before, ∀ e', ¬ Fails isExpression f b e'

/-- a name, and attributes from which a default and a hint can be read -/
structure Parameter.Describable (p : Parameter) : Prop where
  /-- the name may be that of a whole whose parts are bound as well -/
  pattern : ∃ name parts, p.pattern = .name name parts
  default : ∀ arguments, IsFirst "default" p.attributes ⟨"default", arguments⟩ →
    arguments = .absent ∨ ∃ tokens, arguments = .list tokens ∧ isExpression tokens = true
  hint : ∀ arguments, IsFirst "hint" p.attributes ⟨"hint", arguments⟩ →
    ∃ tokens, arguments = .list tokens ∧ isExpression tokens = true

/-- what an item must satisfy to be described -/
structure Describable : Prop where
  no_receiver : f.hasReceiver = false
  generics : ∀ g ∈ f.generics, g = .lifetime
  not_variadic : f.isVariadic = false
  parameters : ∀ p ∈ f.parameters, p.Describable isExpression

end

/-! ### The checks as they are made -/

/-- the error that ends a computation -/
def errorOf? {α : Type} : Except Error α → Option Error
  | .ok _ => none
  | .error e => some e

theorem errorOf?_bind {α β : Type} {x : Except Error α} {next : α → Except Error β} {rest : Option Error}
    (h : ∀ a, x = .ok a → errorOf? (next a) = rest) : errorOf? (x >>= next) = (errorOf? x).or rest := by
  cases x with
  | ok a => exact h a rfl
  | error e => rfl

/-- tokens that are not an expression are refused -/
theorem errorOf?_ite {α : Type} {b : Bool} {a : α} {e e' : Error} :
    errorOf? (if b then .ok a else .error e) = some e' ↔ b = false ∧ e = e' := by
  cases b <;> simp [errorOf?]

theorem exists_ok_iff_errorOf? {α : Type} {x : Except Error α} : (∃ a, x = .ok a) ↔ errorOf? x = none := by
  cases x <;> simp [errorOf?]

theorem eq_error_iff_errorOf? {α : Type} {x : Except Error α} {e : Error} : x = .error e ↔ errorOf? x = some e := by
  cases x <;> simp [errorOf?]

def Check.error? (isExpression : List Token → Bool) (f : Function) : Check → Option Error
  | receiver => if f.hasReceiver then some .receiver else none
  | generics => if f.generics.contains .other then some .generics else none
  | variadic => if f.isVariadic then some .variadic else none
  | pattern p =>
    match p.pattern with
    | .name _ _ => none
    | .other => some .pattern
  | default p => errorOf? (default? isExpression p.attributes)
  | hint p => errorOf? (hint? isExpression p.attributes)

section

variable {isExpression : List Token → Bool} {f : Function} {p : Parameter} {e : Error}

theorem fails_default_iff :
    Fails isExpression f (.default p) e ↔ errorOf? (default? isExpression p.attributes) = some e := by
  constructor
  · intro h
    cases h with
    | defaultForm h =>
      rw [default?_of_isFirst h]
      rfl
    | defaultTokens h hno =>
      rw [default?_of_isFirst h]
      exact errorOf?_ite.2 ⟨hno, rfl⟩
  · intro h
    rcases isFirst_or_forall "default" p.attributes with ⟨arguments, hfirst⟩ | hnone
    · rw [default?_of_isFirst hfirst] at h
      cases arguments with
      | absent => cases h
      | list tokens =>
        obtain ⟨hno, rfl⟩ := errorOf?_ite.1 h
        exact .defaultTokens hfirst hno
      | value tokens =>
        cases h
        exact .defaultForm hfirst
    · rw [default?_of_forall_ne hnone] at h
      cases h

theorem fails_hint_iff :
    Fails isExpression f (.hint p) e ↔ errorOf? (hint? isExpression p.attributes) = some e := by
  constructor
  · intro h
    cases h with
    | hint h hno =>
      next arguments =>
      rw [hint?_of_isFirst h]
      cases arguments with
      | list tokens => exact errorOf?_ite.2 ⟨hno tokens rfl, rfl⟩
      | _ => rfl
  · intro h
    rcases isFirst_or_forall "hint" p.attributes with ⟨arguments, hfirst⟩ | hnone
    · rw [hint?_of_isFirst hfirst] at h
      cases arguments with
      | list tokens =>
        obtain ⟨hno, rfl⟩ := errorOf?_ite.1 h
        exact .hint hfirst fun tokens' htokens => by cases htokens; exact hno
      | absent =>
        cases h
        exact .hint hfirst fun tokens htokens => by cases htokens
      | value tokens =>
        cases h
        exact .hint hfirst fun tokens htokens => by cases htokens
    · rw [hint?_of_forall_ne hnone] at h
      cases h

theorem fails_iff {c : Check} : Fails isExpression f c e ↔ c.error? isExpression f = some e := by
  constructor
  · intro h
    cases h with
    | receiver h => rw [Check.error?, if_pos h]
    | generics h => rw [Check.error?, if_pos (List.contains_iff_mem.2 h)]
    | variadic h => rw [Check.error?, if_pos h]
    | pattern h => rw [Check.error?, h]
    | defaultForm h => exact fails_default_iff.1 (Fails.defaultForm (f := f) h)
    | defaultTokens h hno => exact fails_default_iff.1 (Fails.defaultTokens (f := f) h hno)
    | hint h hno => exact fails_hint_iff.1 (Fails.hint (f := f) h hno)
  · intro h
    cases c with
    | receiver =>
      rw [Check.error?, Option.ite_none_right_eq_some] at h
      cases h.2
      exact .receiver h.1
    | generics =>
      rw [Check.error?, Option.ite_none_right_eq_some] at h
      cases h.2
      exact .generics (List.contains_iff_mem.1 h.1)
    | variadic =>
      rw [Check.error?, Option.ite_none_right_eq_some] at h
      cases h.2
      exact .variadic h.1
    | pattern p =>
      rw [Check.error?] at h
      cases hpattern : p.pattern with
      | name name parts =>
        rw [hpattern] at h
        cases h
      | other =>
        rw [hpattern] at h
        cases h
        exact .pattern hpattern
    | default p => exact fails_default_iff.2 h
    | hint p => exact fails_hint_iff.2 h

theorem findSome?_cons_or (test : Check → Option Error) (c : Check) (rest : List Check) :
    (c :: rest).findSome? test = (test c).or (rest.findSome? test) := by
  rw [List.findSome?_cons]
  cases test c <;> rfl

theorem errorOf?_describeParameter :
    errorOf? (describeParameter isExpression p) = p.checks.findSome? (Check.error? isExpression f) := by
  cases hpattern : p.pattern with
  | other => simp [describeParameter, hpattern, Parameter.checks, Check.error?, errorOf?]
  | name name parts =>
    rw [describeParameter, hpattern]
    -- once there is a default, only the hint can fail
    have hhint (d : Default) : errorOf? (do
        let hint ← hint? isExpression p.attributes
        return (⟨plainName name, source hint p.type, d⟩ : Described)) = errorOf? (hint? isExpression p.attributes) := by
      refine (errorOf?_bind ?_).trans Option.or_none
      exact fun hint _ => rfl
    refine (errorOf?_bind fun d _ => hhint d).trans ?_
    rw [Parameter.checks, findSome?_cons_or, findSome?_cons_or, findSome?_cons_or, List.findSome?_nil, Option.or_none,
      Check.error?, hpattern, Option.none_or]
    rfl

theorem errorOf?_describeParameters (parameters : List Parameter) :
    errorOf? (describeParameters isExpression parameters) =
      (parameters.flatMap Parameter.checks).findSome? (Check.error? isExpression f) := by
  induction parameters with
  | nil => rfl
  | cons p rest ih =>
    have hrest (d : Described) : errorOf? (do
        let ds ← describeParameters isExpression rest
        return d :: ds) = errorOf? (describeParameters isExpression rest) := by
      refine (errorOf?_bind ?_).trans Option.or_none
      exact fun ds _ => rfl
    rw [describeParameters, List.flatMap_cons, List.findSome?_append, ← ih, ← errorOf?_describeParameter]
    exact errorOf?_bind fun d _ => hrest d

theorem errorOf?_check :
    errorOf? (check f) = [Check.receiver, .generics, .variadic].findSome? (Check.error? isExpression f) := by
  rw [findSome?_cons_or, findSome?_cons_or, findSome?_cons_or, List.findSome?_nil, Option.or_none, check, Check.error?,
    Check.error?, Check.error?]
  cases f.hasReceiver
  · cases f.generics.contains .other
    · cases f.isVariadic <;> rfl
    · rfl
  · rfl

/-- the error of an item is that of the first check that has one -/
theorem errorOf?_describe :
    errorOf? (describe isExpression f) = f.checks.findSome? (Check.error? isExpression f) := by
  rw [Function.checks, List.findSome?_append, ← errorOf?_check, ← errorOf?_describeParameters]
  refine errorOf?_bind fun _ _ => ?_
  refine (errorOf?_bind ?_).trans Option.or_none
  exact fun ds _ => rfl

theorem describe_eq_error_iff : describe isExpression f = .error e ↔ FirstFailure isExpression f e := by
  rw [eq_error_iff_errorOf?, errorOf?_describe, List.findSome?_eq_some_iff, FirstFailure]
  simp only [fails_iff, Option.eq_none_iff_forall_ne_some]

/-- a parameter is describable if none of its checks fails -/
theorem Parameter.describable_iff :
    p.Describable isExpression ↔ ∀ c ∈ p.checks, ∀ e, ¬ Fails isExpression f c e := by
  simp only [Parameter.checks, List.forall_mem_cons, List.not_mem_nil, false_implies, implies_true, and_true]
  constructor
  · rintro ⟨⟨name, parts, hpattern⟩, hdefault, hhint⟩
    refine ⟨fun e h => ?_, fun e h => ?_, fun e h => ?_⟩
    · cases h with
      | pattern h => rw [hpattern] at h; cases h
    · cases h with
      | defaultForm h =>
        rcases hdefault _ h with h | ⟨tokens, h, -⟩
        · cases h
        · cases h
      | defaultTokens h hno =>
        rcases hdefault _ h with h | ⟨tokens, h, hexpr⟩
        · cases h
        · cases h
          rw [hno] at hexpr
          cases hexpr
    · cases h with
      | hint h hno =>
        obtain ⟨tokens, htokens, hexpr⟩ := hhint _ h
        rw [hno tokens htokens] at hexpr
        cases hexpr
  · rintro ⟨hpattern, hdefault, hhint⟩
    refine ⟨?_, fun arguments h => ?_, fun arguments h => ?_⟩
    · cases hp : p.pattern with
      | name name parts => exact ⟨name, parts, rfl⟩
      | other => exact absurd (.pattern hp) (hpattern .pattern)
    · cases arguments with
      | absent => exact .inl rfl
      | list tokens =>
        refine .inr ⟨tokens, rfl, ?_⟩
        by_contra hno
        exact hdefault .noExpression (.defaultTokens h (Bool.eq_false_iff.2 hno))
      | value tokens => exact absurd (.defaultForm h) (hdefault .defaultForm)
    · by_contra hno
      refine hhint .noExpression (.hint h fun tokens htokens => ?_)
      exact Bool.eq_false_iff.2 fun hexpr => hno ⟨tokens, htokens, hexpr⟩

/-- an item is describable if none of its checks fails -/
theorem describable_iff : Describable isExpression f ↔ ∀ c ∈ f.checks, ∀ e, ¬ Fails isExpression f c e := by
  simp only [Function.checks, List.forall_mem_append, List.forall_mem_cons, List.not_mem_nil, false_implies,
    implies_true, and_true, List.mem_flatMap, forall_exists_index, and_imp]
  constructor
  · rintro ⟨hreceiver, hgenerics, hvariadic, hparameters⟩
    refine ⟨⟨fun e h => ?_, fun e h => ?_, fun e h => ?_⟩, fun c p hp hc => ?_⟩
    · cases h with
      | receiver h => rw [hreceiver] at h; cases h
    · cases h with
      | generics h => cases hgenerics _ h
    · cases h with
      | variadic h => rw [hvariadic] at h; cases h
    · exact Parameter.describable_iff.1 (hparameters p hp) c hc
  · rintro ⟨⟨hreceiver, hgenerics, hvariadic⟩, hparameters⟩
    refine ⟨?_, fun g hg => ?_, ?_, fun p hp => ?_⟩
    · exact Bool.eq_false_iff.2 fun h => hreceiver .receiver (.receiver h)
    · cases g with
      | lifetime => rfl
      | other => exact absurd (.generics hg) (hgenerics .generics)
    · exact Bool.eq_false_iff.2 fun h => hvariadic .variadic (.variadic h)
    · exact Parameter.describable_iff.2 fun c hc => hparameters c p hp hc

theorem exists_describe_iff : (∃ c, describe isExpression f = .ok c) ↔ Describable isExpression f := by
  rw [exists_ok_iff_errorOf?, errorOf?_describe, List.findSome?_eq_none_iff, describable_iff]
  simp only [fails_iff, Option.eq_none_iff_forall_ne_some]

end

/-! ## What a description says -/

/-- the default that a parameter is given: none, one without a value, or one with a value -/
inductive HasDefault (attributes : List Attribute) : Default → Prop
  | absent (h : ∀ a ∈ attributes, a.path ≠ "default") : HasDefault attributes .absent
  | unspecified (h : IsFirst "default" attributes ⟨"default", .absent⟩) : HasDefault attributes .unspecified
  | value {tokens : List Token} (h : IsFirst "default" attributes ⟨"default", .list tokens⟩) :
    HasDefault attributes (.value tokens)

/-- A hint, or else the core of the type with the lifetime that never ends in place of any other. Lifetimes that are kept
as they stand are the only ones left. -/
inductive HasSource (p : Parameter) : Source → Prop
  | hint {tokens : List Token} (h : IsFirst "hint" p.attributes ⟨"hint", .list tokens⟩) : HasSource p (.hint tokens)
  | type {t u : TypeExpr} (hnone : ∀ a ∈ p.attributes, a.path ≠ "hint") (hcore : p.type.Core t)
    (hnameless : t.isNameless = false) (herased : List.Forall₂ Piece.Erased t.pieces u.pieces)
    (hendless : Piece.Endless u.pieces ↔ Piece.FixedEndless t.pieces) : HasSource p (.type u)
  | untyped {t : TypeExpr} (hnone : ∀ a ∈ p.attributes, a.path ≠ "hint") (hcore : p.type.Core t)
    (hnameless : t.isNameless = true) : HasSource p .untyped

/-- what the description of a parameter has to say -/
structure Describes (p : Parameter) (d : Described) : Prop where
  name : ∃ name parts, p.pattern = .name name parts ∧ IsPlain name d.name
  source : HasSource p d.source
  default : HasDefault p.attributes d.default
  /-- the parameter is optional -/
  optional : d.default ≠ .absent ↔ ∃ a ∈ p.attributes, a.path = "default"

section

variable {isExpression : List Token → Bool} {p : Parameter}

theorem ite_eq_ok_iff {α : Type} {b : Bool} {a a' : α} {e : Error} :
    (if b then .ok a else .error e : Except Error α) = .ok a' ↔ b = true ∧ a = a' := by
  cases b <;> simp

theorem bind_eq_ok {α β : Type} {x : Except Error α} {next : α → Except Error β} {b : β} :
    (x >>= next) = .ok b ↔ ∃ a, x = .ok a ∧ next a = .ok b := by
  cases x <;> simp [bind, Except.bind]

theorem HasDefault.ne_absent_iff {attributes : List Attribute} {d : Default} (h : HasDefault attributes d) :
    d ≠ .absent ↔ ∃ a ∈ attributes, a.path = "default" := by
  cases h with
  | absent h => simpa using h
  | unspecified h => exact iff_of_true Default.noConfusion ⟨_, h.mem, rfl⟩
  | value h => exact iff_of_true Default.noConfusion ⟨_, h.mem, rfl⟩

theorem hasDefault_of_eq_ok {attributes : List Attribute} {d : Default} (h : default? isExpression attributes = .ok d) :
    HasDefault attributes d := by
  rcases isFirst_or_forall "default" attributes with ⟨arguments, hfirst⟩ | hnone
  · rw [default?_of_isFirst hfirst] at h
    cases arguments with
    | absent =>
      cases h
      exact .unspecified hfirst
    | list tokens =>
      obtain ⟨-, rfl⟩ := ite_eq_ok_iff.1 h
      exact .value hfirst
    | value tokens => cases h
  · rw [default?_of_forall_ne hnone] at h
    cases h
    exact .absent hnone

theorem hasSource_of_eq_ok {hint : Option (List Token)} (h : hint? isExpression p.attributes = .ok hint) :
    HasSource p (source hint p.type) := by
  rcases isFirst_or_forall "hint" p.attributes with ⟨arguments, hfirst⟩ | hnone
  · rw [hint?_of_isFirst hfirst] at h
    cases arguments with
    | list tokens =>
      obtain ⟨-, rfl⟩ := ite_eq_ok_iff.1 h
      exact .hint hfirst
    | absent => cases h
    | value tokens => cases h
  · rw [hint?_of_forall_ne hnone] at h
    cases h
    cases hdescribed : p.type.described? with
    | none =>
      obtain ⟨t, hcore, hnameless⟩ := TypeExpr.described?_eq_none_iff.1 hdescribed
      simp only [source, hdescribed]
      exact .untyped hnone hcore hnameless
    | some t =>
      obtain ⟨hcore, hnameless⟩ := TypeExpr.described?_eq_some_iff.1 hdescribed
      simp only [source, hdescribed]
      exact .type hnone hcore hnameless t.erased_static (Piece.endless_iff t.erased_static)

theorem describes_of_eq_ok {d : Described} (h : describeParameter isExpression p = .ok d) : Describes p d := by
  rw [describeParameter] at h
  cases hpattern : p.pattern with
  | other =>
    rw [hpattern] at h
    cases h
  | name name parts =>
    rw [hpattern] at h
    obtain ⟨default, hdefault, h⟩ := bind_eq_ok.1 h
    obtain ⟨hint, hhint, h⟩ := bind_eq_ok.1 h
    cases h
    have hd : HasDefault p.attributes default := hasDefault_of_eq_ok hdefault
    exact ⟨⟨name, parts, hpattern, isPlain_plainName name⟩, hasSource_of_eq_ok hhint, hd, hd.ne_absent_iff⟩

theorem forall₂_describes {parameters : List Parameter} {ds : List Described}
    (h : describeParameters isExpression parameters = .ok ds) : List.Forall₂ Describes parameters ds := by
  induction parameters generalizing ds with
  | nil =>
    cases h
    exact .nil
  | cons p rest ih =>
    obtain ⟨d, hd, h⟩ := bind_eq_ok.1 h
    obtain ⟨ds, hds, h⟩ := bind_eq_ok.1 h
    cases h
    exact .cons (describes_of_eq_ok hd) (ih hds)

end

/-- **Exactly the describable items are described, and faithfully.** The others have the error of the first check to
fail. The descriptions are those of the parameters in their order. No lifetime of a described type ends, unless one does
that is kept as it stands. -/
theorem describe_faithful (isExpression : List Token → Bool) (f : Function) :
    ((∃ c, describe isExpression f = .ok c) ↔ Describable isExpression f) ∧
      (∀ e, describe isExpression f = .error e ↔ FirstFailure isExpression f e) ∧
      ∀ c, describe isExpression f = .ok c →
        IsPlain f.name c.tool ∧ List.Forall₂ Describes f.parameters c.parameters := by
  refine ⟨exists_describe_iff, fun e => describe_eq_error_iff, fun c h => ?_⟩
  obtain ⟨-, -, h⟩ := bind_eq_ok.1 h
  obtain ⟨ds, hds, h⟩ := bind_eq_ok.1 h
  cases h
  exact ⟨isPlain_plainName f.name, forall₂_describes hds⟩

/-- a type that is a name -/
def named (name : String) : TypeExpr := .path [.free (.word name)] [] []

/-- an item with a borrowed text under a name that is a keyword, a number that is ten by default, and some function -/
def fetch : Function where
  name := "fetch"
  visibility := "pub"
  hasReceiver := false
  generics := [.lifetime]
  isVariadic := false
  docs := []
  parameters :=
    [⟨.name "r#in" none, .reference (some "'a") false (.path [.free (.word "Cow")] ["'a"] [.type [] (named "str")]), []⟩,
      ⟨.name "limit" none, named "usize",
        [⟨"default", .list [.literal "10"]⟩, ⟨"default", .value [.literal "20"]⟩]⟩,
      ⟨.name "keep" none, .anonymous [.trait (Piece.ofTokens [.word "Fn", .opening .round, .closing .round])], []⟩]

/-- the description of the item, and the error of one that has a receiver and a variadic tail as well -/
theorem describe_faithful_fetch :
    (∃ c, describe hasExpression fetch = .ok c ∧ c.parameters.map Described.name = ["in", "limit", "keep"] ∧
        List.Forall₂ Describes fetch.parameters c.parameters) ∧
      FirstFailure hasExpression { fetch with hasReceiver := true, isVariadic := true } .receiver := by
  obtain ⟨-, hfailure, -⟩ :=
    describe_faithful hasExpression { fetch with hasReceiver := true, isVariadic := true }
  refine ⟨⟨_, rfl, by decide, ?_⟩, (hfailure .receiver).1 rfl⟩
  exact ((describe_faithful hasExpression fetch).2.2 _ rfl).2

/-- an item with a type that names its lifetime in a macro call, and a whole whose parts have no names -/
def convert : Function where
  name := "convert"
  visibility := ""
  hasReceiver := false
  generics := [.lifetime]
  isVariadic := false
  docs := []
  parameters :=
    [⟨.name "with" none, .path [.free (.word "Box")] [] [.type [] (.dynamic true [.trait (Piece.ofTokens
          [.word "Convert", .mark '<', .word "cast", .mark '!', .opening .round, .lifetime "'a", .closing .round,
            .mark '>'])])], []⟩,
      ⟨.name "whole" (some .other), named "u8", []⟩]

/-- That lifetime stays in the described type, and the item is described though a parameter is no plain name. -/
theorem convert_keeps_lifetime :
    ∃ c, describe hasExpression convert = .ok c ∧
      (∃ d ∈ c.parameters, ∃ u, d.source = .type u ∧ ¬ Piece.Endless u.pieces) ∧
      ∃ p ∈ convert.parameters, ∀ name, p.pattern ≠ .name name none := by
  refine ⟨_, rfl, ⟨_, .head _, _, rfl, fun hendless => ?_⟩, ⟨_, .tail _ (.head _), fun name h => ?_⟩⟩
  · have hlifetime : "'a" = "'static" := hendless (.fixed (.lifetime "'a")) (by decide) "'a" rfl
    exact absurd hlifetime (by decide)
  · cases (Pattern.name.inj h).2

end ToolSchema.Item
