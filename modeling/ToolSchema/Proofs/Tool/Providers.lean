/-
Runs of registrations of providers.

A registry of providers is a map in which names count up to case: every name is brought to lower case on its way in
and on its way out. Lower case being idempotent, the names it lists are their own lower case (`Canonical`), which
registering keeps (`Canonical.register`), so that each of them can be looked up again (`has_of_mem_names`).
- `get?_registerAll`: a lookup finds what was registered last under the name, in any spelling.
- `names_registerAll`: the names stand in the order in which they first came, once each.
- `registerAll_caseless`: both, for the registries one can start from, and what a bundle makes of them.
-/
import ToolSchema.Proofs.Text.Lowercase
import ToolSchema.Proofs.Writes
import ToolSchema.Tool.Bundle

namespace ToolSchema

namespace Providers

variable {ps : Providers} {name : String}

/-! ## One registration -/

theorem register_value (name : String) (p : Provider) (ps : Providers) :
    (ps.register name p).value = ⟨ps.known.put (Text.lowercase name) p⟩ := by
  simp only [register]
  split <;> rfl

/-- names are distinct and in lower case -/
structure Canonical (ps : Providers) : Prop where
  nodup : ps.names.Nodup
  lower : ∀ name ∈ ps.names, Text.lowercase name = name

theorem Canonical.empty : Canonical .empty where
  nodup := List.nodup_nil
  lower _ h := nomatch h

theorem Canonical.register (h : ps.Canonical) (name : String) (p : Provider) :
    (ps.register name p).value.Canonical := by
  rw [register_value]
  refine ⟨Entries.nodup_put _ _ _ h.nodup, fun n hn => ?_⟩
  rw [names, Entries.keys_put] at hn
  split at hn
  · exact h.lower n hn
  · obtain hold | hnew := List.mem_append.1 hn
    · exact h.lower n hold
    · rw [List.mem_singleton.1 hnew, Text.lowercase_lowercase]

theorem has_iff : ps.has name = true ↔ (ps.get? name).isSome = true := Iff.rfl

theorem has_eq_false_iff : ps.has name = false ↔ ps.get? name = none :=
  Option.isSome_eq_false_iff.trans Option.isNone_iff_eq_none

/-- a name that is listed is found -/
theorem Canonical.has_of_mem_names (h : ps.Canonical) (hname : name ∈ ps.names) : ps.has name = true := by
  rw [has, h.lower name hname]
  exact (Entries.mem_keys_iff_has name ps.known).1 hname

/-! ## Runs -/

/-- register in order -/
def registerAll (ps : Providers) : List (String × Provider) → Traced Providers
  | [] => pure ps
  | (name, p) :: rest => do
    let ps ← ps.register name p
    registerAll ps rest

/-- what a run of registrations writes -/
def writes (calls : List (String × Provider)) : List (String × Provider) :=
  calls.map fun call => (Text.lowercase call.1, call.2)

theorem registerAll_value (ps : Providers) (calls : List (String × Provider)) :
    (ps.registerAll calls).value = ⟨ps.known.putAll (writes calls)⟩ := by
  induction calls generalizing ps with
  | nil => rfl
  | cons call rest ih =>
    obtain ⟨name, p⟩ := call
    rw [registerAll, Traced.bind_value, register_value, ih]
    rfl

theorem Canonical.registerAll (h : ps.Canonical) (calls : List (String × Provider)) :
    (ps.registerAll calls).value.Canonical := by
  induction calls generalizing ps with
  | nil => exact h
  | cons call rest ih =>
    obtain ⟨name, p⟩ := call
    exact ih (h.register name p)

/-- the providers that need no registration are registered in an empty registry -/
theorem builtin_eq :
    builtin = (Providers.empty.registerAll [("openai", .openai), ("anthropic", .anthropic)]).value := by
  have hopenai : Text.lowercase "openai" = "openai" := by decide +kernel
  have hanthropic : Text.lowercase "anthropic" = "anthropic" := by decide +kernel
  simp [registerAll_value, writes, hopenai, hanthropic, builtin, Providers.empty, Entries.putAll, Entries.put]

theorem Canonical.builtin : Canonical .builtin := by
  rw [builtin_eq]
  exact Canonical.empty.registerAll _

theorem lookup_writes_reverse (key : String) (calls : List (String × Provider)) :
    (writes calls).reverse.lookup key =
      (calls.reverse.find? fun call => Text.lowercase call.1 == key).map Prod.snd := by
  rw [writes, ← List.map_reverse]
  induction calls.reverse with
  | nil => rfl
  | cons call rest ih =>
    rw [List.map_cons, Entries.lookup_cons_if, List.find?_cons, ih]
    by_cases hkey : key = Text.lowercase call.1
    · simp [hkey]
    · have hother : (Text.lowercase call.1 == key) = false := beq_false_of_ne (Ne.symm hkey)
      simp [hkey, hother]

/-- **The last registration counts**, in whatever spelling. -/
theorem get?_registerAll (name : String) (ps : Providers) (calls : List (String × Provider)) :
    (ps.registerAll calls).value.get? name =
      ((calls.reverse.find? fun call => Text.lowercase call.1 == Text.lowercase name).map Prod.snd).or
        (ps.get? name) := by
  rw [registerAll_value, get?, Entries.lookup_putAll, lookup_writes_reverse, get?]

/-- **The first registration gives the place.** -/
theorem names_registerAll (h : ps.Canonical) (calls : List (String × Provider)) :
    (ps.registerAll calls).value.names = (ps.names ++ calls.map fun call => Text.lowercase call.1).eraseDups := by
  rw [registerAll_value, names, Entries.keys_putAll _ h.nodup, writes, List.map_map, names]
  rfl

end Providers

/-! ## Bundles -/

namespace Bundle

variable {α : Type} {ps : Providers} {name : String}

theorem schema?_eq_none_iff (b : Bundle α) : b.schema? ps name = none ↔ ps.has name = false := by
  rw [schema?, Option.map_eq_none_iff, Providers.has_eq_false_iff]

theorem call?_eq_none_iff (b : Bundle α) : b.call? ps name = none ↔ ps.has name = false := by
  rw [call?, Option.map_eq_none_iff, Providers.has_eq_false_iff]

end Bundle

/-- **A registry of providers is a map that is blind to case.** After any run of registrations a name, in any spelling,
finds the provider that was registered last under it, or else the built-in one. The names that are listed are those of
the run in lower case, in the order of their first registration, and each of them is found. A bundle has a schema and
call arguments in the format of a name if and only if the name is found, and then they are those of its provider. -/
theorem registerAll_caseless {α : Type} (start : Providers) (calls : List (String × Provider)) (b : Bundle α)
    (hstart : start = .empty ∨ start = .builtin) :
    let ps := (start.registerAll calls).value
    (∀ name,
      ps.get? name =
        ((calls.reverse.find? fun call => Text.lowercase call.1 == Text.lowercase name).map Prod.snd).or
          (start.get? name) ∧
      (ps.has name = true ↔ (ps.get? name).isSome = true)) ∧
    (ps.names = (start.names ++ calls.map fun call => Text.lowercase call.1).eraseDups ∧ ps.names.Nodup ∧
      ∀ name ∈ ps.names, ps.has name = true ∧ (ps.get? name).isSome = true) ∧
    ∀ name,
      (b.schema? ps name = none ↔ ps.has name = false) ∧
      (b.call? ps name = none ↔ ps.has name = false) ∧
      ∀ p, ps.get? name = some p →
        b.schema? ps name = some (p.schema b.envelope) ∧ b.call? ps name = some (p.call (p.schema b.envelope)) := by
  intro ps
  have hcanonical : start.Canonical := by
    obtain rfl | rfl := hstart
    · exact .empty
    · exact .builtin
  have hps : ps.Canonical := hcanonical.registerAll calls
  refine ⟨fun name => ⟨Providers.get?_registerAll name start calls, Providers.has_iff⟩,
    ⟨Providers.names_registerAll hcanonical calls, hps.nodup, ?_⟩, ?_⟩
  · intro name hname
    have hfound := hps.has_of_mem_names hname
    exact ⟨hfound, Providers.has_iff.1 hfound⟩
  · refine fun name => ⟨b.schema?_eq_none_iff, b.call?_eq_none_iff, fun p hp => ⟨?_, ?_⟩⟩
    · rw [Bundle.schema?, hp, Option.map_some]
    · rw [Bundle.call?, hp, Option.map_some]

/-- a format that knows a tool by its name alone -/
def byName : Provider where
  schema e := .string e.name
  call schema := .object [("tools", .array [schema])]

/-- a tool without parameters -/
def ping : Bundle Unit where
  callable := ()
  signature := ⟨"ping", none, []⟩
  envelope := ⟨"ping", .empty "Check the line."⟩
  call := Envelope.call ⟨"ping", .empty "Check the line."⟩

/-- three registrations, of which the first and the last are under one name, in two spellings -/
def spellings : List (String × Provider) :=
  [("ΟΔΟΣ", .openai), ("OpenAI", byName), ("Οδος", .anthropic)]

/-- a street ends in a final sigma, whether it is written in capitals or not -/
theorem registerAll_caseless_spellings :
    let ps := (Providers.builtin.registerAll spellings).value
    ps.names = ["openai", "anthropic", "οδος"] ∧ ps.has "οδος" = true ∧ ps.has "οδοσ" = false ∧
      ps.get? "οδοΣ" = some .anthropic ∧ ps.get? "oPENAI" = some byName ∧ ps.get? "Anthropic" = some .anthropic ∧
      ping.call? ps "OPENAI" = some (.object [("tools", .array [.string "ping"])]) ∧
      ping.schema? ps "οδοσ" = none := by
  intro ps
  obtain ⟨hget, ⟨hnames, -, hlisted⟩, hbundle⟩ := registerAll_caseless .builtin spellings ping (.inr rfl)
  have hlower : (spellings.map fun call => Text.lowercase call.1) = ["οδος", "openai", "οδος"] := by decide +kernel
  have hall : ps.names = ["openai", "anthropic", "οδος"] := by
    rw [hnames, hlower]
    decide
  have hstreet : "οδος" ∈ ps.names := by
    rw [hall]
    decide
  have hopenai : ps.get? "OPENAI" = some byName := (hget "OPENAI").1.trans rfl
  have hnot : ps.has "οδοσ" = false := Providers.has_eq_false_iff.2 ((hget "οδοσ").1.trans rfl)
  exact ⟨hall, (hlisted "οδος" hstreet).1, hnot, (hget "οδοΣ").1.trans rfl, (hget "oPENAI").1.trans rfl,
    (hget "Anthropic").1.trans rfl, ((hbundle "OPENAI").2.2 byName hopenai).2, (hbundle "οδοσ").1.2 hnot⟩

end ToolSchema
