import Lapcare.Semantics.Logged
import Mathlib.Data.List.Forall2

/-!
# Two runs side by side

What an observer sees of a log entry is a view of it. Two computations are alike if, from
logs that look the same, they come to related outcomes and leave logs that look the same:
the relational counterpart of what one computation logs and raises.

## Main definitions

* `Logged.Alike` — related outcomes and equal views, from logs with equal views

## Main results

* `Alike.bind`, `Alike.tryCatch`, `alike_mapM` — alike parts make alike wholes
-/

namespace Semantics

namespace Logged

variable {κ ω ε α α' β β' : Type}

/-- Both return, with related values, or both raise the same exception. -/
def OutcomesAlike (q : α → α' → Prop) : Except ε α → Except ε α' → Prop
  | .ok a, .ok a' => q a a'
  | .error e, .error e' => e = e'
  | .ok _, .error _ => False
  | .error _, .ok _ => False

theorem OutcomesAlike.mono {q r : α → α' → Prop} (weaken : ∀ a a', q a a' → r a a')
    {outcome : Except ε α} {outcome' : Except ε α'} (alike : OutcomesAlike q outcome outcome') :
    OutcomesAlike r outcome outcome' := by
  cases outcome with
  | ok a =>
    cases outcome' with
    | ok a' => exact weaken a a' alike
    | error e' => exact alike
  | error e =>
    cases outcome' with
    | ok a' => exact alike
    | error e' => exact alike

theorem outcomesAlike_eq_iff {outcome outcome' : Except ε α} :
    OutcomesAlike (· = ·) outcome outcome' ↔ outcome = outcome' := by
  cases outcome <;> cases outcome' <;> simp [OutcomesAlike]

/-- Outcomes whose values have equal images. -/
theorem outcomesAlike_map_iff (f : α → β) {outcome outcome' : Except ε α} :
    OutcomesAlike (fun a a' => f a = f a') outcome outcome' ↔ outcome.map f = outcome'.map f := by
  cases outcome <;> cases outcome' <;> simp [OutcomesAlike, Except.map]

/-- From logs that look the same, the computations come to related outcomes and leave logs
that look the same. -/
def Alike (view : κ → ω) (q : α → α' → Prop) (m : Logged κ ε α) (m' : Logged κ ε α') : Prop :=
  ∀ log log', log.map view = log'.map view →
    OutcomesAlike q (exec m log).1 (exec m' log').1 ∧
      (exec m log).2.map view = (exec m' log').2.map view

section Alike

variable {view : κ → ω} {q : α → α' → Prop} {r : β → β' → Prop}

theorem alike_pure {a : α} {a' : α'} (related : q a a') :
    Alike view q (pure a : Logged κ ε α) (pure a') :=
  fun _ _ same => ⟨related, same⟩

theorem alike_throw (e : ε) : Alike view q (throw e : Logged κ ε α) (throw e) :=
  fun _ _ same => ⟨rfl, same⟩

theorem alike_perform {answer : List κ → Except ε α} {answer' : List κ → Except ε α'}
    {entry : Except ε α → κ} {entry' : Except ε α' → κ}
    (answers : ∀ log log', log.map view = log'.map view →
      OutcomesAlike q (answer log) (answer' log'))
    (entries : ∀ outcome outcome', OutcomesAlike q outcome outcome' →
      view (entry outcome) = view (entry' outcome')) :
    Alike view q (perform answer entry) (perform answer' entry') := by
  intro log log' same
  have related := answers log log' same
  refine ⟨related, ?_⟩
  simp only [exec_perform, List.map_append, List.map_cons, List.map_nil, same,
    entries _ _ related]

theorem Alike.mono {q' : α → α' → Prop} (weaken : ∀ a a', q a a' → q' a a')
    {m : Logged κ ε α} {m' : Logged κ ε α'} (alike : Alike view q m m') :
    Alike view q' m m' := by
  intro log log' same
  obtain ⟨outcomes, logs⟩ := alike log log' same
  exact ⟨outcomes.mono weaken, logs⟩

theorem Alike.bind {m : Logged κ ε α} {m' : Logged κ ε α'} {next : α → Logged κ ε β}
    {next' : α' → Logged κ ε β'} (first : Alike view q m m')
    (rest : ∀ a a', q a a' → Alike view r (next a) (next' a')) :
    Alike view r (m >>= next) (m' >>= next') := by
  intro log log' same
  obtain ⟨outcomes, logs⟩ := first log log' same
  rw [exec_bind, exec_bind]
  rcases done : exec m log with ⟨e | a, later⟩ <;>
    rcases done' : exec m' log' with ⟨e' | a', later'⟩ <;> rw [done, done'] at outcomes logs
  · exact ⟨outcomes, logs⟩
  · exact outcomes.elim
  · exact outcomes.elim
  · exact rest a a' outcomes later later' logs

theorem Alike.map {m : Logged κ ε α} {m' : Logged κ ε α'} {f : α → β} {f' : α' → β'}
    (first : Alike view q m m') (maps : ∀ a a', q a a' → r (f a) (f' a')) :
    Alike view r (f <$> m) (f' <$> m') := by
  rw [← bind_pure_comp, ← bind_pure_comp]
  exact first.bind fun a a' related => alike_pure (maps a a' related)

theorem Alike.tryCatch {m : Logged κ ε α} {m' : Logged κ ε α'} {handler : ε → Logged κ ε α}
    {handler' : ε → Logged κ ε α'} (first : Alike view q m m')
    (rest : ∀ e, Alike view q (handler e) (handler' e)) :
    Alike view q (tryCatch m handler) (tryCatch m' handler') := by
  intro log log' same
  obtain ⟨outcomes, logs⟩ := first log log' same
  rw [exec_tryCatch, exec_tryCatch]
  rcases done : exec m log with ⟨e | a, later⟩ <;>
    rcases done' : exec m' log' with ⟨e' | a', later'⟩ <;> rw [done, done'] at outcomes logs
  · obtain rfl : e = e' := outcomes
    exact rest e later later' logs
  · exact outcomes.elim
  · exact outcomes.elim
  · exact ⟨outcomes, logs⟩

/-- Visits that are alike make loops that are alike. -/
theorem alike_mapM {γ : Type} {visit : γ → Logged κ ε α} {visit' : γ → Logged κ ε α'}
    (each : ∀ x, Alike view q (visit x) (visit' x)) (xs : List γ) :
    Alike view (List.Forall₂ q) (xs.mapM visit) (xs.mapM visit') := by
  induction xs with
  | nil => exact alike_pure .nil
  | cons x xs ih =>
    rw [List.mapM_cons, List.mapM_cons]
    exact (each x).bind fun _ _ related => ih.bind fun _ _ rest => alike_pure (.cons related rest)

end Alike

end Logged

end Semantics
