import Lapcare.Platform.Scheduler

/-!
# Callbacks on the GLib main loop

What the life of one submission looks like to `GLibEventLoopScheduler`, and that every event
takes at most one submission one step further and leaves the others where they are.

## Main results

* `exactlyOnce` — every submission has at most one call, and the one it is owed exactly if
  its task was not cancelled
* `drains`, `exists_call` — the loop works off what it has ready, and so makes the call
-/

namespace Lapcare.Platform

open Lapcare.Core Semantics

variable {V : Type}

/-- How far a submission has come. -/
inductive NativePhase (V : Type)
  | absent
  | running
  | queued (ending : Ending V)
  | settled (ending : Ending V)

/-- What of the scheduler's state belongs to one submission. -/
@[ext] structure NativeView (V : Type) where
  submitted : Bool
  task : Option (Future (Outcome V) ℕ)
  ended : Option (Ending V)
  ready : List (ℕ × ℕ)
  calls : List (Call V)

/-- A submission in a phase. -/
def NativePhase.view (submission : ℕ) : NativePhase V → NativeView V
  | absent => ⟨false, none, none, [], []⟩
  | running => ⟨true, some { callbacks := [submission] }, none, [], []⟩
  | queued ending =>
      ⟨true, some { outcome := some ending.outcome }, some ending, [(submission, submission)], []⟩
  | settled ending =>
      ⟨true, some { outcome := some ending.outcome }, some ending, [],
        ending.outcome.calls submission⟩

namespace GLibEventLoopScheduler

def view (scheduler : GLibEventLoopScheduler V) (submission : ℕ) : NativeView V where
  submitted := decide (submission < scheduler.submissions)
  task := scheduler.tasks submission
  ended := scheduler.ended submission
  ready := scheduler.ready.filter (·.2 = submission)
  calls := callsOf scheduler.calls submission

/-- Every submission is in one of its phases. -/
def Phased (scheduler : GLibEventLoopScheduler V) : Prop :=
  ∀ submission, ∃ phase : NativePhase V, scheduler.view submission = phase.view submission

def observed (scheduler : GLibEventLoopScheduler V) : Observed V where
  ended := scheduler.ended
  calls := scheduler.calls
  due submission := ∃ handle ∈ scheduler.ready, handle.2 = submission

/-- What the loop does by itself. -/
def IsHop : NativeEvent V → Prop
  | .dispatch _ => True
  | _ => False

def backlog (scheduler : GLibEventLoopScheduler V) : ℕ := scheduler.ready.length

def started : GLibEventLoopScheduler V := { loop := true }

variable {scheduler next : GLibEventLoopScheduler V}

theorem phased_started : (started : GLibEventLoopScheduler V).Phased :=
  fun _ => ⟨.absent, rfl⟩

/-- A step that moves one submission to a phase, and of the others shows nothing. -/
theorem Phased.moved (phased : scheduler.Phased) (submission : ℕ) (phase : NativePhase V)
    (here : next.view submission = phase.view submission)
    (elsewhere : ∀ other, other ≠ submission → next.view other = scheduler.view other) :
    next.Phased := by
  intro other
  by_cases same : other = submission
  · subst same
    exact ⟨phase, here⟩
  · rw [elsewhere other same]
    exact phased other

/-! ### What a step does -/

theorem submit_eq (submitted : scheduler.submit = .ok next) : next = { scheduler with
    submissions := scheduler.submissions + 1
    tasks := Function.update scheduler.tasks scheduler.submissions
      (some { callbacks := [scheduler.submissions] }) } := by
  rw [submit] at submitted
  split_ifs at submitted
  cases submitted
  simp

theorem ends_eq {submission : ℕ} {ending : Ending V}
    (ended : scheduler.ends submission ending = some next) :
    ∃ task, scheduler.tasks submission = some task ∧ task.outcome = none ∧ next = { scheduler with
      tasks := Function.update scheduler.tasks submission
        (some { outcome := some ending.outcome })
      ended := Function.update scheduler.ended submission (some ending)
      ready := scheduler.ready ++ task.callbacks.map (submission, ·) } := by
  obtain ⟨task, found, ended⟩ := Option.bind_eq_some_iff.1 ended
  obtain ⟨⟨later, due⟩, finished, ended⟩ := Option.bind_eq_some_iff.1 ended
  obtain ⟨pending, rfl, rfl⟩ := Future.finish_eq_some_iff.1 finished
  exact ⟨task, found, pending, (Option.some.inj ended).symm⟩

theorem dispatch_eq {position : ℕ} (ran : scheduler.dispatch position = some next) :
    ∃ task submission outcome, scheduler.ready[position]? = some (task, submission) ∧
      (scheduler.tasks task).bind (·.outcome) = some outcome ∧ next = { scheduler with
        ready := scheduler.ready.eraseIdx position
        calls := scheduler.calls ++ outcome.calls submission } := by
  obtain ⟨⟨task, submission⟩, found, ran⟩ := Option.bind_eq_some_iff.1 ran
  obtain ⟨outcome, done, ran⟩ := Option.bind_eq_some_iff.1 ran
  exact ⟨task, submission, outcome, found, done, (Option.some.inj ran).symm⟩

/-! ### One submission moves on -/

theorem phased_submit (phased : scheduler.Phased) (submitted : scheduler.submit = .ok next) :
    next.Phased := by
  obtain rfl := submit_eq submitted
  obtain ⟨phase, seen⟩ := phased scheduler.submissions
  -- a number that was not given out yet
  have absent : phase = .absent := by
    have fresh := congrArg NativeView.submitted seen
    cases phase <;> simp [view, NativePhase.view] at fresh ⊢
  subst absent
  simp only [view, NativePhase.view, NativeView.mk.injEq] at seen
  obtain ⟨-, -, ended, ready, calls⟩ := seen
  apply phased.moved scheduler.submissions .running
  · ext1
    · simp [view, NativePhase.view]
    · simp [view, NativePhase.view]
    · exact ended
    · exact ready
    · exact calls
  · intro other different
    ext1
    · simp only [view, decide_eq_decide]
      omega
    · simp [view, Function.update_of_ne different]
    · rfl
    · rfl
    · rfl

/-- A task that is not done belongs to a submission under way. -/
theorem Phased.running (phased : scheduler.Phased) {submission : ℕ}
    {task : Future (Outcome V) ℕ} (found : scheduler.tasks submission = some task)
    (pending : task.outcome = none) :
    scheduler.view submission = NativePhase.running.view submission := by
  obtain ⟨phase, seen⟩ := phased submission
  have same : some task = (phase.view submission).task := by
    rw [← found]
    exact congrArg NativeView.task seen
  cases phase with
  | running => exact seen
  | absent => cases same
  | queued ending | settled ending =>
    cases Option.some.inj same
    cases pending

theorem phased_ends (phased : scheduler.Phased) {submission : ℕ} {ending : Ending V}
    (ended : scheduler.ends submission ending = some next) : next.Phased := by
  obtain ⟨task, found, pending, rfl⟩ := ends_eq ended
  have seen := phased.running found pending
  -- its task has the callback of its own submission, which is due now
  simp only [view, NativePhase.view, NativeView.mk.injEq] at seen
  obtain ⟨submitted, own, -, ready, calls⟩ := seen
  obtain rfl : task = { callbacks := [submission] } := Option.some.inj (found.symm.trans own)
  apply phased.moved submission (.queued ending)
  · ext1
    · exact submitted
    · simp [view, NativePhase.view]
    · simp [view, NativePhase.view]
    · dsimp only [view, NativePhase.view]
      rw [List.filter_append, ready]
      simp
    · exact calls
  · intro other different
    ext1
    · rfl
    · simp [view, Function.update_of_ne different]
    · simp [view, Function.update_of_ne different]
    · simp [view, List.filter_append, Ne.symm different]
    · rfl

/-- What the loop has ready is the `_done` of a submission with its own task. -/
theorem Phased.queued (phased : scheduler.Phased) {position task submission : ℕ}
    (found : scheduler.ready[position]? = some (task, submission)) :
    ∃ ending : Ending V,
      scheduler.view submission = (NativePhase.queued ending).view submission := by
  obtain ⟨phase, seen⟩ := phased submission
  have member : (task, submission) ∈ (phase.view submission).ready := by
    rw [← seen]
    exact List.mem_filter.2 ⟨List.mem_of_getElem? found, decide_eq_true rfl⟩
  cases phase with
  | queued ending => exact ⟨ending, seen⟩
  | absent | running | settled ending => cases member

theorem phased_dispatch (phased : scheduler.Phased) {position : ℕ}
    (ran : scheduler.dispatch position = some next) : next.Phased := by
  obtain ⟨task, submission, outcome, found, done, rfl⟩ := dispatch_eq ran
  obtain ⟨ending, seen⟩ := phased.queued found
  simp only [view, NativePhase.view, NativeView.mk.injEq] at seen
  obtain ⟨submitted, own, ended, ready, calls⟩ := seen
  -- the handle that runs is the only one of the submission
  obtain ⟨same, erased⟩ := filter_eraseIdx_of_singleton found (decide_eq_true rfl) ready
  obtain rfl : task = submission := congrArg Prod.fst same
  rw [own] at done
  obtain rfl : ending.outcome = outcome := Option.some.inj done
  apply phased.moved task (.settled ending)
  · ext1
    · exact submitted
    · exact own
    · exact ended
    · exact erased
    · simp [view, NativePhase.view, Outcome.callsOf_append, calls]
  · intro other different
    ext1
    · rfl
    · rfl
    · rfl
    · exact filter_eraseIdx_of_neg found (decide_eq_false (Ne.symm different))
    · simp [view, Outcome.callsOf_append, Ne.symm different]

/-- One event. -/
theorem phased_step (phased : scheduler.Phased) (event : NativeEvent V)
    (taken : scheduler.step event = some next) : next.Phased := by
  cases event with
  | submit =>
    cases submitted : scheduler.submit with
    | error e =>
      rw [step, submitted] at taken
      cases taken
    | ok later =>
      rw [step, submitted] at taken
      cases taken
      exact phased_submit phased submitted
  | ends submission ending => exact phased_ends phased taken
  | dispatch position => exact phased_dispatch phased taken

theorem accounted_of_phased (phased : scheduler.Phased) (submission : ℕ) :
    Accounted Ending.outcome scheduler.observed submission := by
  obtain ⟨phase, seen⟩ := phased submission
  have ended := congrArg NativeView.ended seen
  have calls := congrArg NativeView.calls seen
  cases phase with
  | absent => exact .inl ⟨calls, .inl ended⟩
  | running => exact .inl ⟨calls, .inl ended⟩
  | queued ending =>
    have ready := congrArg NativeView.ready seen
    have member : (submission, submission) ∈ (scheduler.view submission).ready := by
      rw [ready]
      exact List.mem_singleton_self _
    exact .inl ⟨calls, .inr ⟨_, (List.mem_filter.1 member).1, rfl⟩⟩
  | settled ending => exact .inr ⟨ending, ended, calls⟩

theorem phased_runFrom {events : List (NativeEvent V)}
    (ran : runFrom step started events = some scheduler) : scheduler.Phased :=
  invariant_runFrom (fun _ event _ phased => phased_step phased event) phased_started ran

/-- Each submission has at most one call, and in the end the one it is owed exactly if its
task was not cancelled. -/
theorem exactlyOnce (phased : scheduler.Phased) :
    ExactlyOnce scheduler.observed fun ending => ending.isCancelled = false :=
  exactlyOnce_of_accounted outcome_calls_eq_iff (accounted_of_phased phased)

/-- The loop works off what it has ready. -/
theorem drains (phased : scheduler.Phased) :
    Drains step IsHop backlog scheduler where
  enabled busy := by
    obtain ⟨⟨task, submission⟩, rest, ready⟩ :=
      List.exists_cons_of_length_pos (Nat.pos_of_ne_zero busy)
    have first : scheduler.ready[0]? = some (task, submission) := by
      rw [ready]
      rfl
    -- the task of what is ready is done
    obtain ⟨ending, seen⟩ := phased.queued first
    simp only [view, NativePhase.view, NativeView.mk.injEq] at seen
    obtain ⟨-, own, -, ready, -⟩ := seen
    obtain ⟨same, -⟩ := filter_eraseIdx_of_singleton first (decide_eq_true rfl) ready
    obtain rfl : task = submission := congrArg Prod.fst same
    have taken : scheduler.step (.dispatch 0) = some { scheduler with
        ready := scheduler.ready.eraseIdx 0
        calls := scheduler.calls ++ ending.outcome.calls task } := by
      rw [step, dispatch, first]
      simp only [Option.bind_eq_bind, Option.bind_some, own]
      rfl
    exact ⟨.dispatch 0, _, trivial, taken⟩
  falls event next hop taken := by
    cases event with
    | dispatch position =>
      obtain ⟨task, submission, outcome, found, -, rfl⟩ := dispatch_eq taken
      have bound := (List.getElem?_eq_some_iff.1 found).1
      rw [backlog, backlog, List.length_eraseIdx_of_lt bound]
      omega
    | _ => cases hop

theorem delivers (phased : scheduler.Phased) :
    Delivers step IsHop backlog observed (fun ending => ending.isCancelled = false)
      scheduler where
  exactlyOnce := exactlyOnce phased
  drains := drains phased
  due submission due := by
    obtain ⟨handle, member, -⟩ := due
    exact (List.length_pos_of_mem member).ne'

theorem ended_of_hop {event : NativeEvent V} (hop : IsHop event)
    (taken : scheduler.step event = some next) : next.ended = scheduler.ended := by
  cases event with
  | dispatch position =>
    obtain ⟨task, submission, outcome, -, -, rfl⟩ := dispatch_eq taken
    rfl
  | submit | ends submission ending => cases hop

/-- Wherever a run has come to, the loop by itself makes the call that is owed. -/
theorem exists_call {events : List (NativeEvent V)}
    (ran : runFrom step started events = some scheduler) {submission : ℕ} {ending : Ending V}
    (ended : scheduler.ended submission = some ending) (landed : ending.isCancelled = false) :
    ∃ hops later, (∀ event ∈ hops, IsHop event) ∧ runFrom step scheduler hops = some later ∧
      callsOf later.calls submission =
        [{ thread := .main, submission := submission, callback := ending.owed }] :=
  exists_answered (fun _ event _ phased => phased_step phased event)
    (fun _ phased => delivers phased) (fun _ _ _ _ hop taken => ended_of_hop hop taken)
    (phased_runFrom ran) ended landed

end GLibEventLoopScheduler

end Lapcare.Platform
