/-
Runs: computations that write to a tape and may not end.

The tape holds a guard, which a run may change on its way, and the events issued so far. Where a recursion is not known
to end, its run is the least solution of its equations, and has a value just if the recursion ends. `Ends` says that a
run ends, with which value and events, and that it leaves the guard as it found it:
- `Ends.bind`: so does a sequence of such runs.
- `Ends.mapM_cons`: so does such a run on each element of a list.
`Issues` says that a run ends and all its events have a property.
-/
import ToolSchema.Diagnostic

namespace ToolSchema

/-- what a run writes to: its guard, and the events that were issued, oldest first -/
structure Tape (γ ε : Type) where
  guard : γ
  events : List ε

/-- a computation that writes to a tape and may not end -/
abbrev Run (γ ε : Type) := StateT (Tape γ ε) Option

namespace Run

variable {γ ε α β : Type}

/-- issue an event, which may tell of the guard -/
def emit (event : γ → ε) : Run γ ε Unit :=
  fun tape => some ((), ⟨tape.guard, tape.events ++ [event tape.guard]⟩)

/-- take over a result that is at hand, with its diagnostics as events -/
def report (event : Diagnostic → ε) (result : Traced α) : Run γ ε α :=
  fun tape => some (result.value, ⟨tape.guard, tape.events ++ result.notes.map event⟩)

/-- Started on this guard, the run ends with the value. It has issued the events, and the guard is as before. -/
def Ends (x : Run γ ε α) (guard : γ) (value : α) (events : List ε) : Prop :=
  ∀ before, x ⟨guard, before⟩ = some (value, ⟨guard, before ++ events⟩)

namespace Ends

variable {x : Run γ ε α} {f : α → Run γ ε β} {guard : γ} {a : α} {b : β} {es es' : List ε}

theorem pure (guard : γ) (a : α) : Ends (Pure.pure a : Run γ ε α) guard a [] := by
  intro before
  rw [List.append_nil]
  rfl

theorem emit (event : γ → ε) (guard : γ) : Ends (Run.emit event) guard () [event guard] :=
  fun _ => rfl

theorem report (event : Diagnostic → ε) (result : Traced α) (guard : γ) :
    Ends (Run.report event result) guard result.value (result.notes.map event) :=
  fun _ => rfl

theorem bind (hx : Ends x guard a es) (hf : Ends (f a) guard b es') : Ends (x >>= f) guard b (es ++ es') := by
  intro before
  calc (x >>= f) ⟨guard, before⟩
    _ = (x ⟨guard, before⟩).bind fun p => f p.1 p.2 := rfl
    _ = f a ⟨guard, before ++ es⟩ := by rw [hx, Option.bind_some]
    _ = some (b, ⟨guard, before ++ (es ++ es')⟩) := by rw [hf, List.append_assoc]

/-- a step that only gives the value its form -/
theorem map (hx : Ends x guard a es) (g : α → β) : Ends (x >>= fun a => Pure.pure (g a)) guard (g a) es := by
  rw [← List.append_nil es]
  exact Ends.bind hx (Ends.pure guard (g a))

theorem mapM_nil (f : α → Run γ ε β) (guard : γ) : Ends ([].mapM f) guard [] [] := by
  rw [List.mapM_nil]
  exact .pure guard []

theorem mapM_cons {rest : List α} {bs : List β} (hfirst : Ends (f a) guard b es)
    (hrest : Ends (rest.mapM f) guard bs es') :
    Ends ((a :: rest).mapM f) guard (b :: bs) (es ++ es') := by
  rw [List.mapM_cons]
  exact hfirst.bind (hrest.map fun bs => b :: bs)

end Ends

variable {x : Run γ ε α} {guard : γ} {a : α} {b : β} {P : ε → Prop}

/-- the run ends with the value, and what it issues has the property -/
def Issues (x : Run γ ε α) (guard : γ) (value : α) (P : ε → Prop) : Prop :=
  ∃ events, Ends x guard value events ∧ ∀ e ∈ events, P e

namespace Issues

theorem pure (guard : γ) (a : α) : Issues (Pure.pure a : Run γ ε α) guard a P :=
  ⟨[], Ends.pure guard a, List.forall_mem_nil P⟩

theorem bind {f : α → Run γ ε β} (hx : Issues x guard a P) (hf : Issues (f a) guard b P) :
    Issues (x >>= f) guard b P := by
  obtain ⟨es, hends, hes⟩ := hx
  obtain ⟨es', hends', hes'⟩ := hf
  refine ⟨es ++ es', hends.bind hends', fun e he => ?_⟩
  rcases List.mem_append.1 he with he | he
  · exact hes e he
  · exact hes' e he

/-- a step that only gives the value its form -/
theorem map (hx : Issues x guard a P) (g : α → β) : Issues (x >>= fun a => Pure.pure (g a)) guard (g a) P :=
  hx.bind (Issues.pure guard (g a))

theorem emit {event : γ → ε} (h : P (event guard)) : Issues (Run.emit event) guard () P := by
  refine ⟨[event guard], Ends.emit event guard, fun e he => ?_⟩
  rw [List.mem_singleton.1 he]
  exact h

theorem mapM {f : α → Run γ ε β} {value : α → β} {l : List α} (h : ∀ a ∈ l, Issues (f a) guard (value a) P) :
    Issues (l.mapM f) guard (l.map value) P := by
  induction l with
  | nil => exact Issues.pure guard []
  | cons a rest ih =>
    rw [List.forall_mem_cons] at h
    rw [List.mapM_cons, List.map_cons]
    exact h.1.bind ((ih h.2).map fun bs => value a :: bs)

end Issues

end Run

end ToolSchema
