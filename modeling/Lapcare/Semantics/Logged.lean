import Mathlib.Data.List.Basic
import Mathlib.Order.Basic

/-!
# Computations that call an environment

A `Logged κ ε α` computation calls an environment, may raise `ε`, and logs one entry
of `κ` for each call. A raise keeps the log. The environment answers a call from the
log so far, so any deterministic environment with memory is one.

## Main definitions

* `Logged.exec` — outcome and final log of a computation started on a log
* `Logged.perform` — one call: ask the environment, log the answer
* `Logged.Logs`, `Logged.Raises`, `Logged.Local` — what a computation may log, what
  may leave it as an exception, and which log entries can influence it
* `Logged.OneCall` — a visit that makes exactly one call

## Main results

* `OneCall.mapM` — a loop of such visits calls along a prefix of its list, in order,
  and makes no call after one that stops it
* `mapM_outcome` — against an environment without memory, the loop is `List.mapM`
* `traces_mapM` — results of a loop with the entries of their visits
* `exists_of_mem_exec_mapM`, `exists_of_exec_mapM_error` — what leaves a loop came from a visit
-/

namespace Semantics

/-- Computations that log entries of type `κ` and may raise `ε`. -/
abbrev Logged (κ ε α : Type) := ExceptT ε (StateM (List κ)) α

namespace Logged

variable {κ ε α β γ : Type}

/-- Outcome and final log of a computation started on `log`. -/
def exec (m : Logged κ ε α) (log : List κ) : Except ε α × List κ :=
  (m.run.run log).run

/-- One call: the environment answers from the log so far, and the call is logged
together with its answer. -/
def perform (answer : List κ → Except ε α) (entry : Except ε α → κ) : Logged κ ε α :=
  ExceptT.mk fun log => pure (answer log, log ++ [entry (answer log)])

@[simp] theorem exec_pure (a : α) (log : List κ) :
    exec (pure a : Logged κ ε α) log = (.ok a, log) := rfl

@[simp] theorem exec_throw (e : ε) (log : List κ) :
    exec (throw e : Logged κ ε α) log = (.error e, log) := rfl

@[simp] theorem exec_perform (answer : List κ → Except ε α) (entry : Except ε α → κ)
    (log : List κ) :
    exec (perform answer entry) log = (answer log, log ++ [entry (answer log)]) := rfl

theorem exec_bind (m : Logged κ ε α) (next : α → Logged κ ε β) (log : List κ) :
    exec (m >>= next) log =
      match exec m log with
      | (.ok a, later) => exec (next a) later
      | (.error e, later) => (.error e, later) := by
  change ((ExceptT.bind m next).run log).run = _
  simp only [ExceptT.bind, ExceptT.mk, ExceptT.bindCont, StateT.run, exec, ExceptT.run, bind,
    StateT.bind, Id.run]
  rcases m log with ⟨outcome | outcome, later⟩ <;> rfl

theorem exec_bind_ok {m : Logged κ ε α} {next : α → Logged κ ε β} {log later : List κ} {a : α}
    (done : exec m log = (.ok a, later)) : exec (m >>= next) log = exec (next a) later := by
  rw [exec_bind, done]

theorem exec_map (m : Logged κ ε α) (f : α → β) (log : List κ) :
    exec (f <$> m) log = ((exec m log).1.map f, (exec m log).2) := by
  rw [← bind_pure_comp, exec_bind]
  rcases exec m log with ⟨outcome | outcome, later⟩ <;> rfl

theorem exec_tryCatch (m : Logged κ ε α) (handler : ε → Logged κ ε α) (log : List κ) :
    exec (tryCatch m handler) log =
      match exec m log with
      | (.ok a, later) => (.ok a, later)
      | (.error e, later) => exec (handler e) later := by
  change ((ExceptT.tryCatch m handler).run log).run = _
  simp only [ExceptT.tryCatch, ExceptT.mk, StateT.run, exec, ExceptT.run, bind, StateT.bind,
    Id.run]
  rcases m log with ⟨outcome | outcome, later⟩ <;> rfl

/-- What a program answers that ends well is not the handler's business. -/
theorem exec_tryCatch_fst_of_ok {m : Logged κ ε α} {a : α} {log : List κ}
    (done : (exec m log).1 = .ok a) (f : α → β) (handler : ε → Logged κ ε β) :
    (exec (tryCatch (f <$> m) handler) log).1 = .ok (f a) := by
  rw [exec_tryCatch, exec_map, done]
  rfl

/-- What a handler answers that does not look at the log. -/
theorem exec_tryCatch_fst_of_error {m : Logged κ ε α} {e : ε} {log : List κ}
    (raised : (exec m log).1 = .error e) (f : α → β) {handler : ε → Logged κ ε β}
    {outcome : Except ε β} (handled : ∀ later, (exec (handler e) later).1 = outcome) :
    (exec (tryCatch (f <$> m) handler) log).1 = outcome := by
  rw [exec_tryCatch, exec_map, raised]
  exact handled _

theorem exec_mapM_cons (visit : α → Logged κ ε β) (x : α) (xs : List α) (log : List κ) :
    exec ((x :: xs).mapM visit) log =
      match exec (visit x) log with
      | (.ok b, later) =>
          ((exec (xs.mapM visit) later).1.map (b :: ·), (exec (xs.mapM visit) later).2)
      | (.error e, later) => (.error e, later) := by
  rw [List.mapM_cons, exec_bind]
  rcases exec (visit x) log with ⟨e | b, later⟩
  · rfl
  · exact exec_map (xs.mapM visit) (b :: ·) later

theorem exec_bind_fst (m : Logged κ ε α) (next : α → Logged κ ε β) (log : List κ) :
    (exec (m >>= next) log).1 =
      (exec m log).1 >>= fun a => (exec (next a) (exec m log).2).1 := by
  rw [exec_bind]
  rcases exec m log with ⟨e | a, later⟩ <;> rfl

/-! ### What is logged -/

/-- The computation only appends to the log, and only entries that satisfy `p`. -/
def Logs (p : κ → Prop) (m : Logged κ ε α) : Prop :=
  ∀ log, ∃ entries, (exec m log).2 = log ++ entries ∧ ∀ entry ∈ entries, p entry

section Logs

variable {p q : κ → Prop}

theorem logs_pure (a : α) : Logs p (pure a : Logged κ ε α) :=
  fun log => ⟨[], by simp, by simp⟩

theorem logs_throw (e : ε) : Logs p (throw e : Logged κ ε α) :=
  fun log => ⟨[], by simp, by simp⟩

theorem logs_perform {answer : List κ → Except ε α} {entry : Except ε α → κ}
    (allowed : ∀ outcome, p (entry outcome)) : Logs p (perform answer entry) :=
  fun log => ⟨[entry (answer log)], rfl, by simpa using allowed _⟩

theorem Logs.bind {m : Logged κ ε α} {next : α → Logged κ ε β} (first : Logs p m)
    (rest : ∀ a, Logs p (next a)) : Logs p (m >>= next) := by
  intro log
  obtain ⟨entries, appended, allowed⟩ := first log
  rw [exec_bind]
  rcases done : exec m log with ⟨outcome | a, later⟩
  · exact ⟨entries, by rw [← appended, done], allowed⟩
  · obtain ⟨more, appendedMore, allowedMore⟩ := rest a later
    refine ⟨entries ++ more, ?_, ?_⟩
    · rw [done] at appended
      rw [← List.append_assoc, ← appended]
      exact appendedMore
    · intro entry member
      rcases List.mem_append.mp member with member | member
      · exact allowed entry member
      · exact allowedMore entry member

theorem Logs.map {m : Logged κ ε α} (f : α → β) (first : Logs p m) : Logs p (f <$> m) := by
  intro log
  rw [exec_map]
  exact first log

theorem Logs.tryCatch {m : Logged κ ε α} {handler : ε → Logged κ ε α} (first : Logs p m)
    (rest : ∀ e, Logs p (handler e)) : Logs p (tryCatch m handler) := by
  intro log
  obtain ⟨entries, appended, allowed⟩ := first log
  rw [exec_tryCatch]
  rcases done : exec m log with ⟨e | a, later⟩
  · obtain ⟨more, appendedMore, allowedMore⟩ := rest e later
    refine ⟨entries ++ more, ?_, ?_⟩
    · rw [done] at appended
      rw [← List.append_assoc, ← appended]
      exact appendedMore
    · intro entry member
      rcases List.mem_append.mp member with member | member
      · exact allowed entry member
      · exact allowedMore entry member
  · exact ⟨entries, by rw [← appended, done], allowed⟩

theorem Logs.mono {m : Logged κ ε α} (first : Logs p m) (weaken : ∀ entry, p entry → q entry) :
    Logs q m := by
  intro log
  obtain ⟨entries, appended, allowed⟩ := first log
  exact ⟨entries, appended, fun entry member => weaken entry (allowed entry member)⟩

theorem logs_mapM {visit : α → Logged κ ε β} (each : ∀ a, Logs p (visit a)) (xs : List α) :
    Logs p (xs.mapM visit) := by
  induction xs with
  | nil => exact logs_pure []
  | cons x xs ih =>
    rw [List.mapM_cons]
    exact (each x).bind fun _ => ih.bind fun _ => logs_pure _

/-- Entries a computation never logs are the same before and after it. -/
theorem Logs.filter_eq {m : Logged κ ε α} {keep : κ → Bool}
    (others : Logs (fun entry => keep entry = false) m) (log : List κ) :
    (exec m log).2.filter keep = log.filter keep := by
  obtain ⟨entries, appended, dropped⟩ := others log
  have nothing : entries.filter keep = [] := by
    rw [List.filter_eq_nil_iff]
    intro entry member
    simp [dropped entry member]
  rw [appended, List.filter_append, nothing, List.append_nil]

end Logs

/-! ### Outcome and entries together -/

/-- The computation only appends to the log, and `q` holds of its outcome and of the
entries it appended. -/
def Traces (q : Except ε α → List κ → Prop) (m : Logged κ ε α) : Prop :=
  ∀ log, ∃ entries, (exec m log).2 = log ++ entries ∧ q (exec m log).1 entries

section Traces

variable {q : Except ε α → List κ → Prop} {r : Except ε β → List κ → Prop}

theorem traces_pure {a : α} (holds : q (.ok a) []) : Traces q (pure a : Logged κ ε α) :=
  fun _ => ⟨[], by simp, holds⟩

theorem traces_perform {answer : List κ → Except ε α} {entry : Except ε α → κ}
    (holds : ∀ outcome, q outcome [entry outcome]) : Traces q (perform answer entry) :=
  fun log => ⟨[entry (answer log)], rfl, holds _⟩

theorem Logs.traces {p : κ → Prop} {m : Logged κ ε α} (logs : Logs p m) :
    Traces (fun _ entries => ∀ entry ∈ entries, p entry) m :=
  fun log => logs log

theorem Traces.mono {q' : Except ε α → List κ → Prop} {m : Logged κ ε α} (first : Traces q m)
    (weaken : ∀ outcome entries, q outcome entries → q' outcome entries) : Traces q' m := by
  intro log
  obtain ⟨entries, appended, holds⟩ := first log
  exact ⟨entries, appended, weaken _ _ holds⟩

/-- Sequencing: either the first part raises, or the entries of both are appended. -/
theorem Traces.bind {s : α → Except ε β → List κ → Prop} {m : Logged κ ε α}
    {next : α → Logged κ ε β} (first : Traces q m) (rest : ∀ a, Traces (s a) (next a))
    (raised : ∀ e entries, q (.error e) entries → r (.error e) entries)
    (joined : ∀ a outcome entries more, q (.ok a) entries → s a outcome more →
      r outcome (entries ++ more)) :
    Traces r (m >>= next) := by
  intro log
  obtain ⟨entries, appended, holds⟩ := first log
  rw [exec_bind]
  rcases done : exec m log with ⟨e | a, later⟩
  · rw [done] at appended holds
    exact ⟨entries, appended, raised e entries holds⟩
  · rw [done] at appended holds
    obtain ⟨more, appendedMore, holdsMore⟩ := rest a later
    have extended : later = log ++ entries := appended
    refine ⟨entries ++ more, ?_, joined a _ entries more holds holdsMore⟩
    rw [appendedMore, extended, List.append_assoc]

theorem Traces.map {m : Logged κ ε α} {f : α → β} (first : Traces q m)
    (maps : ∀ outcome entries, q outcome entries → r (outcome.map f) entries) :
    Traces r (f <$> m) := by
  intro log
  obtain ⟨entries, appended, holds⟩ := first log
  rw [exec_map]
  exact ⟨entries, appended, maps _ _ holds⟩

/-- A handler that makes no call of its own leaves the entries as they are. -/
theorem Traces.tryCatch {q' : Except ε α → List κ → Prop} {m : Logged κ ε α}
    {handler : ε → Logged κ ε α} (first : Traces q m)
    (returned : ∀ a entries, q (.ok a) entries → q' (.ok a) entries)
    (handled : ∀ e entries, q (.error e) entries →
      Traces (fun outcome more => more = [] ∧ q' outcome entries) (handler e)) :
    Traces q' (tryCatch m handler) := by
  intro log
  obtain ⟨entries, appended, holds⟩ := first log
  rw [exec_tryCatch]
  rcases done : exec m log with ⟨e | a, later⟩
  · rw [done] at appended holds
    obtain ⟨more, appendedMore, nothing, holdsMore⟩ := handled e entries holds later
    refine ⟨entries, ?_, holdsMore⟩
    rw [appendedMore, nothing, List.append_nil]
    exact appended
  · rw [done] at appended holds
    exact ⟨entries, appended, returned a entries holds⟩

end Traces

/-! ### What is raised -/

/-- Every exception that leaves the computation satisfies `p`. -/
def Raises (p : ε → Prop) (m : Logged κ ε α) : Prop :=
  ∀ log e, (exec m log).1 = .error e → p e

section Raises

variable {p : ε → Prop}

theorem raises_pure (a : α) : Raises p (pure a : Logged κ ε α) :=
  fun _ _ raised => nomatch raised

theorem raises_perform {answer : List κ → Except ε α} {entry : Except ε α → κ}
    (allowed : ∀ log e, answer log = .error e → p e) : Raises p (perform answer entry) :=
  fun log e raised => allowed log e raised

theorem Raises.bind {m : Logged κ ε α} {next : α → Logged κ ε β} (first : Raises p m)
    (rest : ∀ a, Raises p (next a)) : Raises p (m >>= next) := by
  intro log e raised
  rw [exec_bind] at raised
  rcases done : exec m log with ⟨outcome | a, later⟩
  · rw [done] at raised
    obtain rfl := Except.error.inj raised
    exact first log outcome (by rw [done])
  · rw [done] at raised
    exact rest a later e raised

theorem raises_mapM {visit : α → Logged κ ε β} (each : ∀ a, Raises p (visit a)) (xs : List α) :
    Raises p (xs.mapM visit) := by
  induction xs with
  | nil => exact raises_pure []
  | cons x xs ih =>
    rw [List.mapM_cons]
    exact (each x).bind fun _ => ih.bind fun _ => raises_pure _

/-- A handler that lets nothing out closes the computation. -/
theorem Raises.tryCatch {q : ε → Prop} {m : Logged κ ε α} {handler : ε → Logged κ ε α}
    (first : Raises q m) (rest : ∀ e, q e → Raises p (handler e)) :
    Raises p (tryCatch m handler) := by
  intro log e raised
  rw [exec_tryCatch] at raised
  rcases done : exec m log with ⟨e' | a, later⟩
  · rw [done] at raised
    exact rest e' (first log e' (by rw [done])) later e raised
  · rw [done] at raised
    exact absurd raised (by simp)

/-- A computation that raises nothing returns. -/
theorem Raises.returns {m : Logged κ ε α} (nothing : Raises (fun _ => False) m) (log : List κ) :
    ∃ a, (exec m log).1 = .ok a := by
  rcases outcome : (exec m log).1 with e | a
  · exact (nothing log e outcome).elim
  · exact ⟨a, rfl⟩

end Raises

/-! ### Which entries matter -/

/-- On logs with the same `keep` entries the computation ends alike, and its own
`keep` entries are the same. -/
def Local (keep : κ → Bool) (m : Logged κ ε α) : Prop :=
  ∀ first second : List κ, first.filter keep = second.filter keep →
    (exec m first).1 = (exec m second).1 ∧
      (exec m first).2.filter keep = (exec m second).2.filter keep

section Local

variable {keep : κ → Bool}

/-- Where no entry matters yet, the computation ends as it does from an empty log. -/
theorem Local.alone {m : Logged κ ε α} (own : Local keep m) {log : List κ}
    (fresh : log.filter keep = []) : (exec m log).1 = (exec m []).1 :=
  (own log [] (by rw [fresh, List.filter_nil])).1

theorem local_pure (a : α) : Local keep (pure a : Logged κ ε α) :=
  fun _ _ same => ⟨rfl, same⟩

theorem local_throw (e : ε) : Local keep (throw e : Logged κ ε α) :=
  fun _ _ same => ⟨rfl, same⟩

/-- An environment that looks at `keep` entries only makes a local call. -/
theorem local_perform {answer : List κ → Except ε α} {entry : Except ε α → κ}
    (reads : ∀ log, answer log = answer (log.filter keep)) :
    Local keep (perform answer entry) := by
  intro first second same
  have answers : answer first = answer second := by rw [reads, same, ← reads]
  refine ⟨answers, ?_⟩
  simp only [exec_perform, List.filter_append, same, answers]

theorem Local.bind {m : Logged κ ε α} {next : α → Logged κ ε β} (first : Local keep m)
    (rest : ∀ a, Local keep (next a)) : Local keep (m >>= next) := by
  intro left right same
  obtain ⟨outcomes, logs⟩ := first left right same
  rw [exec_bind, exec_bind]
  rcases doneLeft : exec m left with ⟨e | a, laterLeft⟩ <;>
    rcases doneRight : exec m right with ⟨e' | a', laterRight⟩ <;>
    simp only [doneLeft, doneRight, reduceCtorEq, Except.error.injEq, Except.ok.injEq]
      at outcomes logs ⊢
  · exact ⟨outcomes, logs⟩
  · subst outcomes
    exact rest a laterLeft laterRight logs

theorem Local.tryCatch {m : Logged κ ε α} {handler : ε → Logged κ ε α} (first : Local keep m)
    (rest : ∀ e, Local keep (handler e)) : Local keep (tryCatch m handler) := by
  intro left right same
  obtain ⟨outcomes, logs⟩ := first left right same
  rw [exec_tryCatch, exec_tryCatch]
  rcases doneLeft : exec m left with ⟨e | a, laterLeft⟩ <;>
    rcases doneRight : exec m right with ⟨e' | a', laterRight⟩ <;>
    simp only [doneLeft, doneRight, reduceCtorEq, Except.error.injEq, Except.ok.injEq]
      at outcomes logs ⊢
  · subst outcomes
    exact rest e laterLeft laterRight logs
  · exact ⟨outcomes, logs⟩

theorem local_mapM {visit : α → Logged κ ε β} (each : ∀ a, Local keep (visit a))
    (xs : List α) : Local keep (xs.mapM visit) := by
  induction xs with
  | nil => exact local_pure []
  | cons x xs ih =>
    rw [List.mapM_cons]
    exact (each x).bind fun _ => ih.bind fun _ => local_pure _

end Local

/-! ### Loops of single calls -/

/-- `visit` makes exactly one call. The call bears the visited element's label, and
a call that `stops` makes the visit raise. -/
def OneCall (label : α → γ) (name : κ → γ) (stops : κ → Prop) (visit : α → Logged κ ε β) :
    Prop :=
  ∀ a log, ∃ entry, (exec (visit a) log).2 = log ++ [entry] ∧ name entry = label a ∧
    (stops entry → ∃ e, (exec (visit a) log).1 = .error e)

/-- A loop of single calls runs along a prefix of its list, in order, and makes no
call after one that stops it. -/
theorem OneCall.mapM {label : α → γ} {name : κ → γ} {stops : κ → Prop}
    {visit : α → Logged κ ε β} (one : OneCall label name stops visit) (xs : List α)
    (log : List κ) :
    ∃ entries, (exec (xs.mapM visit) log).2 = log ++ entries ∧
      entries.map name <+: xs.map label ∧
      entries.Pairwise fun earlier _ => ¬ stops earlier := by
  induction xs generalizing log with
  | nil => exact ⟨[], by simp, by simp, .nil⟩
  | cons x xs ih =>
    obtain ⟨entry, appended, named, raises⟩ := one x log
    rw [exec_mapM_cons]
    rcases done : exec (visit x) log with ⟨e | b, later⟩ <;> rw [done] at appended raises
    · exact ⟨[entry], appended, by simp [named], List.pairwise_singleton _ _⟩
    · obtain ⟨entries, rest, names, alone⟩ := ih later
      refine ⟨entry :: entries, ?_, by simpa [named] using names,
        List.pairwise_cons.mpr ⟨fun _ _ stopped => ?_, alone⟩⟩
      · have extended : later = log ++ [entry] := appended
        rw [rest, extended, List.append_assoc, List.singleton_append]
      · obtain ⟨e, raised⟩ := raises stopped
        exact absurd raised (by simp)

/-- Against an environment without memory a loop of calls is `List.mapM`. -/
theorem mapM_outcome {visit : α → Logged κ ε β} {f : α → Except ε β}
    (memoryless : ∀ a log, (exec (visit a) log).1 = f a) (xs : List α) (log : List κ) :
    (exec (xs.mapM visit) log).1 = xs.mapM f := by
  induction xs generalizing log with
  | nil => rfl
  | cons x xs ih =>
    rw [exec_mapM_cons, List.mapM_cons, ← memoryless x log]
    rcases exec (visit x) log with ⟨e | b, later⟩
    · rfl
    · change ((exec (xs.mapM visit) later).1.map _) = xs.mapM f >>= _
      rw [ih later]
      rcases xs.mapM f with e | values <;> rfl

/-- A loop whose every visit brings home what belongs to the item visited. -/
theorem map_of_exec_mapM {visit : α → Logged κ ε β} {shown : β → γ} {own : α → γ}
    (belongs : ∀ a log b, (exec (visit a) log).1 = .ok b → shown b = own a) (xs : List α)
    (log : List κ) {bs : List β} (done : (exec (xs.mapM visit) log).1 = .ok bs) :
    bs.map shown = xs.map own := by
  induction xs generalizing log bs with
  | nil =>
    obtain rfl := Except.ok.inj done
    rfl
  | cons x xs ih =>
    rw [exec_mapM_cons] at done
    rcases visited : exec (visit x) log with ⟨e | b, later⟩
    · rw [visited] at done
      cases done
    · rw [visited] at done
      change ((exec (xs.mapM visit) later).1.map _) = _ at done
      rcases rest : (exec (xs.mapM visit) later).1 with e | values
      · rw [rest] at done
        cases done
      · rw [rest] at done
        obtain rfl := Except.ok.inj done
        rw [List.map_cons, List.map_cons, ih later rest, belongs x log b (by rw [visited])]

/-- What a loop brings home was brought home by its visits, each after those before it. -/
theorem exists_of_mem_exec_mapM {visit : α → Logged κ ε β} {xs : List α} {log : List κ}
    {bs : List β} (done : (exec (xs.mapM visit) log).1 = .ok bs) {b : β} (member : b ∈ bs) :
    ∃ front x back, xs = front ++ x :: back ∧
      (exec (visit x) (exec (front.mapM visit) log).2).1 = .ok b := by
  induction xs generalizing log bs with
  | nil =>
    obtain rfl := Except.ok.inj done
    exact absurd member List.not_mem_nil
  | cons x xs ih =>
    rw [exec_mapM_cons] at done
    rcases visited : exec (visit x) log with ⟨e | first, later⟩
    · rw [visited] at done
      cases done
    · rw [visited] at done
      change ((exec (xs.mapM visit) later).1.map _) = _ at done
      rcases rest : (exec (xs.mapM visit) later).1 with e | values
      · rw [rest] at done
        cases done
      · rw [rest] at done
        obtain rfl := Except.ok.inj done
        rcases List.mem_cons.mp member with rfl | further
        · refine ⟨[], x, xs, rfl, ?_⟩
          rw [List.mapM_nil, exec_pure, visited]
        · obtain ⟨front, other, back, rfl, found⟩ := ih rest further
          refine ⟨x :: front, other, back, rfl, ?_⟩
          rw [exec_mapM_cons, visited]
          exact found

/-- What a loop that ends well brings home was brought home by its visits, each with entries of
its own. -/
theorem traces_mapM {q : α → Except ε β → List κ → Prop} {visit : α → Logged κ ε β}
    (each : ∀ a, Traces (q a) (visit a)) (xs : List α) :
    Traces (fun outcome entries => ∀ bs, outcome = .ok bs → ∀ b ∈ bs,
        ∃ a ∈ xs, ∃ own, own <:+: entries ∧ q a (.ok b) own)
      (xs.mapM visit) := by
  intro log
  induction xs generalizing log with
  | nil =>
    refine ⟨[], by simp, fun bs done => ?_⟩
    obtain rfl := Except.ok.inj done
    exact List.forall_mem_nil _
  | cons x xs ih =>
    obtain ⟨own, appended, holds⟩ := each x log
    rw [exec_mapM_cons]
    rcases visited : exec (visit x) log with ⟨e | b, later⟩
    · rw [visited] at appended
      exact ⟨own, appended, fun _ done => nomatch done⟩
    · rw [visited] at appended holds
      obtain ⟨entries, appendedRest, rest⟩ := ih later
      have extended : later = log ++ own := appended
      refine ⟨own ++ entries, ?_, fun bs done => ?_⟩
      · rw [appendedRest, extended, List.append_assoc]
      rcases outcome : (exec (xs.mapM visit) later).1 with e | values
      · simp only [outcome] at done
        cases done
      · simp only [outcome] at done
        obtain rfl := Except.ok.inj done
        rintro b' (_ | ⟨_, member⟩)
        · exact ⟨x, List.mem_cons_self, own, (List.prefix_append own entries).isInfix, holds⟩
        · obtain ⟨a, further, within, among, traced⟩ := rest values outcome b' member
          exact ⟨a, List.mem_cons_of_mem x further, within,
            among.trans (List.suffix_append own entries).isInfix, traced⟩

/-- What a loop raises was raised by one of its visits. -/
theorem exists_of_exec_mapM_error {visit : α → Logged κ ε β} {xs : List α} {log : List κ} {e : ε}
    (raised : (exec (xs.mapM visit) log).1 = .error e) :
    ∃ x ∈ xs, ∃ before, (exec (visit x) before).1 = .error e := by
  induction xs generalizing log with
  | nil => cases raised
  | cons x xs ih =>
    rw [exec_mapM_cons] at raised
    rcases visited : exec (visit x) log with ⟨own | first, later⟩
    · rw [visited] at raised
      obtain rfl := Except.error.inj raised
      exact ⟨x, by simp, log, by rw [visited]⟩
    · rw [visited] at raised
      change ((exec (xs.mapM visit) later).1.map _) = _ at raised
      rcases rest : (exec (xs.mapM visit) later).1 with further | values
      · rw [rest] at raised
        obtain rfl := Except.error.inj raised
        obtain ⟨other, among, found⟩ := ih rest
        exact ⟨other, List.mem_cons_of_mem x among, found⟩
      · rw [rest] at raised
        cases raised

end Logged

end Semantics
