import Lapcare.Platform.NativeCallbacks

/-!
# Callbacks from a loop thread

The life of one submission to `ThreadLoopScheduler`. The loop thread takes it from a handle
to a task and from the task to its future, while the main thread adds the callback to the
future before or after that is done; then an idle source brings it back to the main thread.

## Main results

* `exactlyOnce` — every submission has at most one call, and the one it is owed exactly if
  its task was not cancelled and its exception survives the way between the threads
* `drains`, `exists_call` — the loops work off what they have ready, and so make the call
* `callbacks_exactlyOnce` — both schedulers
-/

namespace Lapcare.Platform

open Lapcare.Core Semantics

variable {V : Type}

/-- How far a submission has come. Until its future is done the callback may or may not be
attached to it. -/
inductive ThreadPhase (V : Type)
  | absent
  | submitted (attached : Bool)
  | running (attached : Bool)
  | copying (ending : Ending V) (attached : Bool)
  | copied (ending : Ending V)
  | queued (ending : Ending V)
  | settled (ending : Ending V)

/-- What of the scheduler's state belongs to one submission. -/
@[ext] structure ThreadView (V : Type) where
  submitted : Bool
  attaching : Bool
  future : Option (Future (Outcome V) ℕ)
  task : Option (Future (Outcome V) ℕ)
  ended : Option (Ending V)
  ready : List LoopHandle
  idle : List (ℕ × ℕ)
  calls : List (Call V)

/-- The submission that a handle of the loop is about. -/
def LoopHandle.submission : LoopHandle → ℕ
  | start submission => submission
  | setState _ future => future

/-- The future of a submission before it is done. -/
def waiting (submission : ℕ) (attached : Bool) : Future (Outcome V) ℕ where
  callbacks := if attached then [submission] else []

/-- A submission in a phase. -/
def ThreadPhase.view (submission : ℕ) : ThreadPhase V → ThreadView V
  | absent => ⟨false, false, none, none, none, [], [], []⟩
  | submitted attached =>
      ⟨true, !attached, some (waiting submission attached), none, none, [.start submission], [], []⟩
  | running attached =>
      ⟨true, !attached, some (waiting submission attached), some { callbacks := [submission] },
        none, [], [], []⟩
  | copying ending attached =>
      ⟨true, !attached, some (waiting submission attached),
        some { outcome := some ending.outcome }, some ending,
        [.setState submission submission], [], []⟩
  | copied ending =>
      ⟨true, true, some { outcome := some ending.outcome.copied },
        some { outcome := some ending.outcome }, some ending, [], [], []⟩
  | queued ending =>
      ⟨true, false, some { outcome := some ending.outcome.copied },
        some { outcome := some ending.outcome }, some ending, [], [(submission, submission)], []⟩
  | settled ending =>
      ⟨true, false, some { outcome := some ending.outcome.copied },
        some { outcome := some ending.outcome }, some ending, [], [],
        ending.outcome.copied.calls submission⟩

namespace ThreadLoopScheduler

def view (scheduler : ThreadLoopScheduler V) (submission : ℕ) : ThreadView V where
  submitted := decide (submission < scheduler.submissions)
  attaching := decide (scheduler.attaching = some submission)
  future := scheduler.futures submission
  task := scheduler.tasks submission
  ended := scheduler.ended submission
  ready := scheduler.ready.filter (·.submission = submission)
  idle := scheduler.idle.filter (·.2 = submission)
  calls := callsOf scheduler.calls submission

/-- Every submission is in one of its phases. -/
def Phased (scheduler : ThreadLoopScheduler V) : Prop :=
  ∀ submission, ∃ phase : ThreadPhase V, scheduler.view submission = phase.view submission

def observed (scheduler : ThreadLoopScheduler V) : Observed V where
  ended := scheduler.ended
  calls := scheduler.calls
  due submission := scheduler.attaching = some submission ∨
    (∃ handle ∈ scheduler.ready, handle.submission = submission) ∨
    ∃ source ∈ scheduler.idle, source.2 = submission

/-- What the loops do by themselves, and the main thread inside `submit`. -/
def IsHop : ThreadEvent V → Prop
  | .attach | .loop _ | .idle _ => True
  | _ => False

def started : ThreadLoopScheduler V := { loop := true }

variable {scheduler next : ThreadLoopScheduler V}

theorem phased_started : (started : ThreadLoopScheduler V).Phased :=
  fun _ => ⟨.absent, rfl⟩

/-- A step that moves one submission to a phase, and of the others shows nothing. -/
theorem Phased.moved (phased : scheduler.Phased) (submission : ℕ) (phase : ThreadPhase V)
    (here : next.view submission = phase.view submission)
    (elsewhere : ∀ other, other ≠ submission → next.view other = scheduler.view other) :
    next.Phased := by
  intro other
  by_cases same : other = submission
  · subst same
    exact ⟨phase, here⟩
  · rw [elsewhere other same]
    exact phased other

/-! ### What a step does -/

theorem submit_eq (submitted : scheduler.submit = .ok next) : next = { scheduler with
    submissions := scheduler.submissions + 1
    attaching := some scheduler.submissions
    futures := Function.update scheduler.futures scheduler.submissions (some {})
    ready := scheduler.ready ++ [.start scheduler.submissions] } := by
  rw [submit] at submitted
  split_ifs at submitted
  cases submitted
  rfl

theorem attach_eq (attached : scheduler.attach = some next) :
    ∃ submission future, scheduler.attaching = some submission ∧
      scheduler.futures submission = some future ∧ next = { scheduler with
        attaching := none
        futures := Function.update scheduler.futures submission
          (some (future.addDoneCallback submission).1)
        idle := scheduler.idle ++
          dispatch submission (future.addDoneCallback submission).2 } := by
  obtain ⟨submission, attaching, attached⟩ := Option.bind_eq_some_iff.1 attached
  obtain ⟨future, found, attached⟩ := Option.bind_eq_some_iff.1 attached
  exact ⟨submission, future, attaching, found, (Option.some.inj attached).symm⟩

theorem start_eq {position submission : ℕ}
    (found : scheduler.ready[position]? = some (.start submission))
    (ran : scheduler.runHandle position = some next) : next = { scheduler with
      ready := scheduler.ready.eraseIdx position
      tasks := Function.update scheduler.tasks submission
        (some { callbacks := [submission] }) } := by
  rw [runHandle, found] at ran
  exact (Option.some.inj ran).symm

theorem setState_eq {position task future : ℕ}
    (found : scheduler.ready[position]? = some (.setState task future))
    {outcome : Outcome V} (done : (scheduler.tasks task).bind (·.outcome) = some outcome)
    {destination : Future (Outcome V) ℕ} (here : scheduler.futures future = some destination)
    (pending : destination.outcome = none)
    (ran : scheduler.runHandle position = some next) : next = { scheduler with
      ready := scheduler.ready.eraseIdx position
      futures := Function.update scheduler.futures future
        (some { outcome := some outcome.copied })
      idle := scheduler.idle ++ dispatch future destination.callbacks } := by
  have finished : destination.finish outcome.copied =
      some ({ outcome := some outcome.copied }, destination.callbacks) :=
    Future.finish_eq_some_iff.2 ⟨pending, rfl, rfl⟩
  rw [runHandle, found] at ran
  simp only [Option.bind_eq_bind, Option.bind_some, done, here, finished] at ran
  exact (Option.some.inj ran).symm

theorem ends_eq {submission : ℕ} {ending : Ending V}
    (ended : scheduler.ends submission ending = some next) :
    ∃ task, scheduler.tasks submission = some task ∧ task.outcome = none ∧ next = { scheduler with
      tasks := Function.update scheduler.tasks submission
        (some { outcome := some ending.outcome })
      ended := Function.update scheduler.ended submission (some ending)
      ready := scheduler.ready ++ task.callbacks.map (.setState submission ·) } := by
  obtain ⟨task, found, ended⟩ := Option.bind_eq_some_iff.1 ended
  obtain ⟨⟨later, due⟩, finished, ended⟩ := Option.bind_eq_some_iff.1 ended
  obtain ⟨pending, rfl, rfl⟩ := Future.finish_eq_some_iff.1 finished
  exact ⟨task, found, pending, (Option.some.inj ended).symm⟩

theorem runIdle_eq {position : ℕ} (ran : scheduler.runIdle position = some next) :
    ∃ future submission outcome, scheduler.idle[position]? = some (future, submission) ∧
      (scheduler.futures future).bind (·.outcome) = some outcome ∧ next = { scheduler with
        idle := scheduler.idle.eraseIdx position
        calls := scheduler.calls ++ outcome.calls submission } := by
  obtain ⟨⟨future, submission⟩, found, ran⟩ := Option.bind_eq_some_iff.1 ran
  obtain ⟨outcome, done, ran⟩ := Option.bind_eq_some_iff.1 ran
  exact ⟨future, submission, outcome, found, done, (Option.some.inj ran).symm⟩

/-! ### One submission moves on -/

theorem phased_submit (phased : scheduler.Phased) (free : scheduler.attaching = none)
    (submitted : scheduler.submit = .ok next) : next.Phased := by
  obtain rfl := submit_eq submitted
  obtain ⟨phase, seen⟩ := phased scheduler.submissions
  -- a number that was not given out yet
  have absent : phase = .absent := by
    have fresh := congrArg ThreadView.submitted seen
    cases phase <;> simp [view, ThreadPhase.view] at fresh ⊢
  subst absent
  simp only [view, ThreadPhase.view, ThreadView.mk.injEq] at seen
  obtain ⟨-, -, -, task, ended, ready, idle, calls⟩ := seen
  apply phased.moved scheduler.submissions (.submitted false)
  · ext1
    · simp [view, ThreadPhase.view]
    · simp [view, ThreadPhase.view]
    · simp [view, ThreadPhase.view, waiting]
    · exact task
    · exact ended
    · dsimp only [view, ThreadPhase.view]
      rw [List.filter_append, ready]
      simp [LoopHandle.submission]
    · exact idle
    · exact calls
  · intro other different
    ext1
    · simp only [view, decide_eq_decide]
      omega
    · simp [view, free, Ne.symm different]
    · simp [view, Function.update_of_ne different]
    · rfl
    · rfl
    · simp [view, List.filter_append, LoopHandle.submission, Ne.symm different]
    · rfl
    · rfl

/-- Adding the callback shows nothing of other submissions. -/
theorem view_attach_of_ne {submission other : ℕ} (attaching : scheduler.attaching = some submission)
    (future : Future (Outcome V) ℕ) (different : other ≠ submission) :
    view { scheduler with
      attaching := none
      futures := Function.update scheduler.futures submission
        (some (future.addDoneCallback submission).1)
      idle := scheduler.idle ++ dispatch submission (future.addDoneCallback submission).2 }
        other = scheduler.view other := by
  -- whatever becomes due is due for the submission itself
  have idle : ((future.addDoneCallback submission).2.map (submission, ·)).filter
      (·.2 = other) = [] := by
    unfold Future.addDoneCallback
    cases future.outcome <;> simp [Ne.symm different]
  ext1
  · rfl
  · simp [view, attaching, Ne.symm different]
  · simp [view, Function.update_of_ne different]
  · rfl
  · rfl
  · rfl
  · dsimp only [view, dispatch]
    rw [List.filter_append, idle, List.append_nil]
  · rfl

/-- The callback stays with a future that is not done, and runs at once where the loop thread
was faster. -/
theorem phased_attach (phased : scheduler.Phased) (attached : scheduler.attach = some next) :
    next.Phased := by
  obtain ⟨submission, future, attaching, found, taken⟩ := attach_eq attached
  obtain ⟨phase, seen⟩ := phased submission
  have inside : (phase.view submission).attaching = true := by
    rw [← seen]
    exact decide_eq_true attaching
  have own : some future = (phase.view submission).future := by
    rw [← found]
    exact congrArg ThreadView.future seen
  have elsewhere (other : ℕ) (different : other ≠ submission) :
      next.view other = scheduler.view other := by
    rw [taken]
    exact view_attach_of_ne attaching future different
  -- while the future is not done
  have kept (later : ThreadPhase V) (pending : future = waiting submission false)
      (same : { phase.view submission with
        attaching := false
        future := some (waiting submission true) } = later.view submission) :
      next.Phased := by
    apply phased.moved submission later _ elsewhere
    rw [← same, ← seen, taken, pending]
    ext1
    · rfl
    · simp [view]
    · simp [view, Future.addDoneCallback, waiting]
    · rfl
    · rfl
    · rfl
    · simp [view, Future.addDoneCallback, waiting, dispatch]
    · rfl
  cases phase with
  | absent | queued ending | settled ending => cases inside
  | submitted early =>
    obtain rfl : early = false := by simpa [ThreadPhase.view] using inside
    exact kept (.submitted true) (Option.some.inj own) rfl
  | running early =>
    obtain rfl : early = false := by simpa [ThreadPhase.view] using inside
    exact kept (.running true) (Option.some.inj own) rfl
  | copying ending early =>
    obtain rfl : early = false := by simpa [ThreadPhase.view] using inside
    exact kept (.copying ending true) (Option.some.inj own) rfl
  | copied ending =>
    have done := Option.some.inj own
    apply phased.moved submission (.queued ending) _ elsewhere
    simp only [view, ThreadPhase.view, ThreadView.mk.injEq] at seen
    obtain ⟨submitted, -, -, task, ended, ready, idle, calls⟩ := seen
    rw [taken, done]
    ext1
    · exact submitted
    · simp [view, ThreadPhase.view]
    · simp [view, ThreadPhase.view, Future.addDoneCallback]
    · exact task
    · exact ended
    · exact ready
    · dsimp only [view, ThreadPhase.view, Future.addDoneCallback, dispatch]
      rw [List.filter_append, idle]
      simp
    · exact calls

/-- A task that is not done belongs to a submission under way. -/
theorem Phased.running (phased : scheduler.Phased) {submission : ℕ}
    {task : Future (Outcome V) ℕ} (found : scheduler.tasks submission = some task)
    (pending : task.outcome = none) :
    ∃ attached, scheduler.view submission = (ThreadPhase.running attached).view submission := by
  obtain ⟨phase, seen⟩ := phased submission
  have same : some task = (phase.view submission).task := by
    rw [← found]
    exact congrArg ThreadView.task seen
  cases phase with
  | running attached => exact ⟨attached, seen⟩
  | absent | submitted attached => cases same
  | copying ending attached | copied ending | queued ending | settled ending =>
    cases Option.some.inj same
    cases pending

theorem phased_ends (phased : scheduler.Phased) {submission : ℕ} {ending : Ending V}
    (ended : scheduler.ends submission ending = some next) : next.Phased := by
  obtain ⟨task, found, pending, rfl⟩ := ends_eq ended
  obtain ⟨attached, seen⟩ := phased.running found pending
  -- its task is chained to its own future, which is copied to next
  simp only [view, ThreadPhase.view, ThreadView.mk.injEq] at seen
  obtain ⟨submitted, attaching, future, own, -, ready, idle, calls⟩ := seen
  obtain rfl : task = { callbacks := [submission] } := Option.some.inj (found.symm.trans own)
  apply phased.moved submission (.copying ending attached)
  · ext1
    · exact submitted
    · exact attaching
    · exact future
    · simp [view, ThreadPhase.view]
    · simp [view, ThreadPhase.view]
    · dsimp only [view, ThreadPhase.view]
      rw [List.filter_append, ready]
      simp [LoopHandle.submission]
    · exact idle
    · exact calls
  · intro other different
    ext1
    · rfl
    · rfl
    · rfl
    · simp [view, Function.update_of_ne different]
    · simp [view, Function.update_of_ne different]
    · simp [view, List.filter_append, LoopHandle.submission, Ne.symm different]
    · rfl
    · rfl

/-- An idle source delivers to a submission from its own future. -/
theorem Phased.queued (phased : scheduler.Phased) {position future submission : ℕ}
    (found : scheduler.idle[position]? = some (future, submission)) :
    ∃ ending : Ending V,
      scheduler.view submission = (ThreadPhase.queued ending).view submission := by
  obtain ⟨phase, seen⟩ := phased submission
  have member : (future, submission) ∈ (phase.view submission).idle := by
    rw [← seen]
    exact List.mem_filter.2 ⟨List.mem_of_getElem? found, decide_eq_true rfl⟩
  cases phase with
  | queued ending => exact ⟨ending, seen⟩
  | absent | submitted attached | running attached | copying ending attached | copied ending
  | settled ending => cases member

/-- What the loop thread has ready of a submission that is not under way yet. -/
theorem Phased.starting (phased : scheduler.Phased) {position submission : ℕ}
    (found : scheduler.ready[position]? = some (.start submission)) :
    ∃ attached, scheduler.view submission = (ThreadPhase.submitted attached).view submission := by
  obtain ⟨phase, seen⟩ := phased submission
  have member : LoopHandle.start submission ∈ (phase.view submission).ready := by
    rw [← seen]
    exact List.mem_filter.2 ⟨List.mem_of_getElem? found, decide_eq_true rfl⟩
  cases phase with
  | submitted attached => exact ⟨attached, seen⟩
  | absent | running attached | copied ending | queued ending | settled ending => cases member
  | copying ending attached => cases List.mem_singleton.1 member

/-- What it has ready of one whose coroutine has ended copies from its own task. -/
theorem Phased.copying (phased : scheduler.Phased) {position task future : ℕ}
    (found : scheduler.ready[position]? = some (.setState task future)) :
    ∃ (ending : Ending V) (attached : Bool),
      scheduler.view future = (ThreadPhase.copying ending attached).view future := by
  obtain ⟨phase, seen⟩ := phased future
  have member : LoopHandle.setState task future ∈ (phase.view future).ready := by
    rw [← seen]
    exact List.mem_filter.2 ⟨List.mem_of_getElem? found, decide_eq_true rfl⟩
  cases phase with
  | copying ending attached => exact ⟨ending, attached, seen⟩
  | absent | running attached | copied ending | queued ending | settled ending => cases member
  | submitted attached => cases List.mem_singleton.1 member

/-- That task is done, and the future is not. -/
theorem Phased.copies (phased : scheduler.Phased) {position task future : ℕ}
    (found : scheduler.ready[position]? = some (.setState task future)) :
    ∃ (ending : Ending V) (attached : Bool), task = future ∧
      (scheduler.tasks task).bind (·.outcome) = some ending.outcome ∧
      scheduler.futures future = some (waiting future attached) := by
  obtain ⟨ending, attached, seen⟩ := phased.copying found
  simp only [view, ThreadPhase.view, ThreadView.mk.injEq] at seen
  obtain ⟨-, -, here, own, -, ready, -, -⟩ := seen
  obtain ⟨same, -⟩ := filter_eraseIdx_of_singleton found (decide_eq_true rfl) ready
  obtain ⟨rfl, -⟩ := LoopHandle.setState.inj same
  refine ⟨ending, attached, rfl, ?_, here⟩
  rw [own]
  rfl

theorem phased_start (phased : scheduler.Phased) {position submission : ℕ}
    (found : scheduler.ready[position]? = some (.start submission))
    (ran : scheduler.runHandle position = some next) : next.Phased := by
  obtain rfl := start_eq found ran
  obtain ⟨attached, seen⟩ := phased.starting found
  simp only [view, ThreadPhase.view, ThreadView.mk.injEq] at seen
  obtain ⟨submitted, attaching, future, -, ended, ready, idle, calls⟩ := seen
  -- the handle that runs is the only one of the submission
  obtain ⟨-, erased⟩ := filter_eraseIdx_of_singleton found (decide_eq_true rfl) ready
  apply phased.moved submission (.running attached)
  · ext1
    · exact submitted
    · exact attaching
    · exact future
    · simp [view, ThreadPhase.view]
    · exact ended
    · exact erased
    · exact idle
    · exact calls
  · intro other different
    ext1
    · rfl
    · rfl
    · rfl
    · simp [view, Function.update_of_ne different]
    · rfl
    · exact filter_eraseIdx_of_neg found (decide_eq_false (Ne.symm different))
    · rfl
    · rfl

theorem phased_setState (phased : scheduler.Phased) {position task future : ℕ}
    (found : scheduler.ready[position]? = some (.setState task future))
    (ran : scheduler.runHandle position = some next) : next.Phased := by
  obtain ⟨ending, attached, seen⟩ := phased.copying found
  simp only [view, ThreadPhase.view, ThreadView.mk.injEq] at seen
  obtain ⟨submitted, attaching, here, own, ended, ready, idle, calls⟩ := seen
  obtain ⟨same, erased⟩ := filter_eraseIdx_of_singleton found (decide_eq_true rfl) ready
  obtain ⟨rfl, -⟩ := LoopHandle.setState.inj same
  have done : (scheduler.tasks task).bind (·.outcome) = some ending.outcome := by
    rw [own]
    rfl
  obtain rfl := setState_eq found done here rfl ran
  have elsewhere (other : ℕ) (different : other ≠ task) :
      view { scheduler with
        ready := scheduler.ready.eraseIdx position
        futures := Function.update scheduler.futures task
          (some { outcome := some ending.outcome.copied })
        idle := scheduler.idle ++ dispatch task (waiting (V := V) task attached).callbacks }
          other = scheduler.view other := by
    ext1
    · rfl
    · rfl
    · simp [view, Function.update_of_ne different]
    · rfl
    · rfl
    · exact filter_eraseIdx_of_neg found (decide_eq_false (Ne.symm different))
    · cases attached <;> simp [view, dispatch, waiting, Ne.symm different]
    · rfl
  -- the callback that is attached runs at once
  cases attached with
  | true =>
    apply phased.moved task (.queued ending) _ elsewhere
    ext1
    · exact submitted
    · exact attaching
    · simp [view, ThreadPhase.view]
    · exact own
    · exact ended
    · exact erased
    · dsimp only [view, ThreadPhase.view, waiting, dispatch]
      rw [List.filter_append, idle]
      simp
    · exact calls
  | false =>
    apply phased.moved task (.copied ending) _ elsewhere
    ext1
    · exact submitted
    · exact attaching
    · simp [view, ThreadPhase.view]
    · exact own
    · exact ended
    · exact erased
    · dsimp only [view, ThreadPhase.view, waiting, dispatch]
      rw [List.filter_append, idle]
      simp
    · exact calls

theorem phased_runIdle (phased : scheduler.Phased) {position : ℕ}
    (ran : scheduler.runIdle position = some next) : next.Phased := by
  obtain ⟨future, submission, outcome, found, done, rfl⟩ := runIdle_eq ran
  obtain ⟨ending, seen⟩ := phased.queued found
  simp only [view, ThreadPhase.view, ThreadView.mk.injEq] at seen
  obtain ⟨submitted, attaching, own, task, ended, ready, idle, calls⟩ := seen
  -- the source that runs is the only one of the submission
  obtain ⟨same, erased⟩ := filter_eraseIdx_of_singleton found (decide_eq_true rfl) idle
  obtain rfl : future = submission := congrArg Prod.fst same
  rw [own] at done
  obtain rfl : ending.outcome.copied = outcome := Option.some.inj done
  apply phased.moved future (.settled ending)
  · ext1
    · exact submitted
    · exact attaching
    · exact own
    · exact task
    · exact ended
    · exact ready
    · exact erased
    · simp [view, ThreadPhase.view, Outcome.callsOf_append, calls]
  · intro other different
    ext1
    · rfl
    · rfl
    · rfl
    · rfl
    · rfl
    · rfl
    · exact filter_eraseIdx_of_neg found (decide_eq_false (Ne.symm different))
    · simp [view, Outcome.callsOf_append, Ne.symm different]

theorem runHandle_found {position : ℕ} (ran : scheduler.runHandle position = some next) :
    ∃ handle, scheduler.ready[position]? = some handle := by
  obtain ⟨handle, found, -⟩ := Option.bind_eq_some_iff.1 ran
  exact ⟨handle, found⟩

/-- One event. -/
theorem phased_step (phased : scheduler.Phased) (event : ThreadEvent V)
    (taken : scheduler.step event = some next) : next.Phased := by
  cases event with
  | submit =>
    rw [step] at taken
    -- the main thread is not inside another `submit`
    split_ifs at taken with inside
    have free : scheduler.attaching = none := by simpa using inside
    cases submitted : scheduler.submit with
    | error e =>
      rw [submitted] at taken
      cases taken
    | ok later =>
      rw [submitted] at taken
      cases taken
      exact phased_submit phased free submitted
  | attach => exact phased_attach phased taken
  | loop position =>
    obtain ⟨handle, found⟩ := runHandle_found taken
    cases handle with
    | start submission => exact phased_start phased found taken
    | setState task future => exact phased_setState phased found taken
  | ends submission ending => exact phased_ends phased taken
  | idle position =>
    rw [step] at taken
    split_ifs at taken
    exact phased_runIdle phased taken

theorem accounted_of_phased (phased : scheduler.Phased) (submission : ℕ) :
    Accounted (fun ending => ending.outcome.copied) scheduler.observed submission := by
  obtain ⟨phase, seen⟩ := phased submission
  have ended := congrArg ThreadView.ended seen
  have calls := congrArg ThreadView.calls seen
  cases phase with
  | absent | submitted attached | running attached => exact .inl ⟨calls, .inl ended⟩
  | copying ending attached =>
    have member : LoopHandle.setState submission submission ∈
        (scheduler.view submission).ready := by
      rw [seen]
      exact List.mem_singleton_self _
    exact .inl ⟨calls, .inr (.inr (.inl ⟨_, (List.mem_filter.1 member).1, rfl⟩))⟩
  | copied ending =>
    -- the future is done, but the main thread is still to hear of it
    have attaching := congrArg ThreadView.attaching seen
    exact .inl ⟨calls, .inr (.inl (of_decide_eq_true attaching))⟩
  | queued ending =>
    have member : (submission, submission) ∈ (scheduler.view submission).idle := by
      rw [seen]
      exact List.mem_singleton_self _
    exact .inl ⟨calls, .inr (.inr (.inr ⟨_, (List.mem_filter.1 member).1, rfl⟩))⟩
  | settled ending => exact .inr ⟨ending, ended, calls⟩

theorem phased_runFrom {events : List (ThreadEvent V)}
    (ran : runFrom step started events = some scheduler) : scheduler.Phased :=
  invariant_runFrom (fun _ event _ phased => phased_step phased event) phased_started ran

/-- Each submission has at most one call, and in the end the one it is owed exactly if its
task was not cancelled and its exception is not replaced. -/
theorem exactlyOnce (phased : scheduler.Phased) :
    ExactlyOnce scheduler.observed
      fun ending => ending.isCancelled = false ∧ ending.KeepsException :=
  exactlyOnce_of_accounted copied_calls_eq_iff (accounted_of_phased phased)

/-! ### The loops drain -/

/-- How many hops a handle is from its callback, at most. -/
def hops : LoopHandle → ℕ
  | .start _ => 1
  | .setState _ _ => 2

def totalHops : List LoopHandle → ℕ
  | [] => 0
  | handle :: rest => hops handle + totalHops rest

theorem totalHops_append (handles handles' : List LoopHandle) :
    totalHops (handles ++ handles') = totalHops handles + totalHops handles' := by
  induction handles with
  | nil => simp [totalHops]
  | cons handle rest ih =>
    rw [List.cons_append, totalHops, totalHops, ih, Nat.add_assoc]

def backlog (scheduler : ThreadLoopScheduler V) : ℕ :=
  (if scheduler.attaching.isSome then 2 else 0) + totalHops scheduler.ready +
    scheduler.idle.length

/-- A handle that was run is off the backlog. -/
theorem totalHops_eraseIdx {position : ℕ} {handle : LoopHandle}
    (found : scheduler.ready[position]? = some handle) :
    totalHops scheduler.ready =
      totalHops (scheduler.ready.eraseIdx position) + hops handle := by
  obtain ⟨before, after, same, erased⟩ := eraseIdx_of_getElem? found
  rw [erased, same, totalHops_append, totalHops_append, totalHops]
  omega

theorem backlog_attach (attached : scheduler.attach = some next) :
    next.backlog < scheduler.backlog := by
  obtain ⟨submission, future, attaching, -, rfl⟩ := attach_eq attached
  have one : (future.addDoneCallback submission).2.length ≤ 1 := by
    unfold Future.addDoneCallback
    cases future.outcome <;> simp
  simp only [backlog, dispatch, attaching, Option.isSome_some, Option.isSome_none, if_true,
    List.length_append, List.length_map, Bool.false_eq_true, if_false]
  omega

theorem backlog_runHandle (phased : scheduler.Phased) {position : ℕ}
    (ran : scheduler.runHandle position = some next) : next.backlog < scheduler.backlog := by
  obtain ⟨handle, found⟩ := runHandle_found ran
  have less := totalHops_eraseIdx found
  cases handle with
  | start submission =>
    obtain rfl := start_eq found ran
    simp only [backlog, hops] at less ⊢
    omega
  | setState task future =>
    obtain ⟨ending, attached, rfl, done, here⟩ := phased.copies found
    obtain rfl := setState_eq found done here rfl ran
    have one : (waiting (V := V) task attached).callbacks.length ≤ 1 := by
      cases attached <;> simp [waiting]
    simp only [backlog, hops, dispatch, List.length_append, List.length_map] at less ⊢
    omega

theorem backlog_runIdle {position : ℕ} (ran : scheduler.runIdle position = some next) :
    next.backlog < scheduler.backlog := by
  obtain ⟨future, submission, outcome, found, -, rfl⟩ := runIdle_eq ran
  have bound := (List.getElem?_eq_some_iff.1 found).1
  simp only [backlog, List.length_eraseIdx_of_lt bound]
  omega

/-- Something can be worked off while there is a backlog: the main thread first leaves
`submit`, then the loop thread has a handle or the main loop an idle source. -/
theorem enabled_of_backlog (phased : scheduler.Phased) (busy : scheduler.backlog ≠ 0) :
    ∃ event later, IsHop event ∧ scheduler.step event = some later := by
  cases attaching : scheduler.attaching with
  | some submission =>
    obtain ⟨phase, seen⟩ := phased submission
    have inside : (phase.view submission).attaching = true := by
      rw [← seen]
      exact decide_eq_true attaching
    have future := congrArg ThreadView.future seen
    obtain ⟨own, found⟩ : ∃ own, scheduler.futures submission = some own := by
      cases phase with
      | absent => cases inside
      | _ => exact ⟨_, future⟩
    have taken : (scheduler.step .attach).isSome := by
      rw [step, attach, attaching]
      simp only [Option.bind_eq_bind, Option.bind_some, found]
      rfl
    obtain ⟨later, taken⟩ := Option.isSome_iff_exists.1 taken
    exact ⟨.attach, later, trivial, taken⟩
  | none =>
    cases ready : scheduler.ready with
    | cons handle rest =>
      -- any handle will do, so the first of the queue
      have first : scheduler.ready[0]? = some handle := by
        rw [ready]
        rfl
      have taken : (scheduler.step (.loop 0)).isSome := by
        rw [step, runHandle, first]
        cases handle with
        | start submission => rfl
        | setState task future =>
          obtain ⟨ending, attached, rfl, done, here⟩ := phased.copies first
          simp only [Option.bind_eq_bind, Option.bind_some, done, here]
          rfl
      obtain ⟨later, taken⟩ := Option.isSome_iff_exists.1 taken
      exact ⟨.loop 0, later, trivial, taken⟩
    | nil =>
      have sources : scheduler.idle.length ≠ 0 := by
        simpa [backlog, totalHops, attaching, ready] using busy
      obtain ⟨⟨future, submission⟩, rest, idle⟩ :=
        List.exists_cons_of_length_pos (Nat.pos_of_ne_zero sources)
      have first : scheduler.idle[0]? = some (future, submission) := by
        rw [idle]
        rfl
      obtain ⟨ending, seen⟩ := phased.queued first
      simp only [view, ThreadPhase.view, ThreadView.mk.injEq] at seen
      obtain ⟨-, -, own, -, -, -, mine, -⟩ := seen
      obtain ⟨same, -⟩ := filter_eraseIdx_of_singleton first (decide_eq_true rfl) mine
      obtain rfl : future = submission := congrArg Prod.fst same
      have taken : (scheduler.step (.idle 0)).isSome := by
        rw [step, attaching, if_neg (by simp), runIdle, first]
        simp only [Option.bind_eq_bind, Option.bind_some, own]
        rfl
      obtain ⟨later, taken⟩ := Option.isSome_iff_exists.1 taken
      exact ⟨.idle 0, later, trivial, taken⟩

theorem drains (phased : scheduler.Phased) : Drains step IsHop backlog scheduler where
  enabled := enabled_of_backlog phased
  falls event later hop taken := by
    cases event with
    | attach => exact backlog_attach taken
    | loop position => exact backlog_runHandle phased taken
    | idle position =>
      rw [step] at taken
      split_ifs at taken
      exact backlog_runIdle taken
    | submit | ends submission ending => cases hop

theorem hops_pos (handle : LoopHandle) : 0 < hops handle := by
  cases handle <;> simp [hops]

theorem delivers (phased : scheduler.Phased) :
    Delivers step IsHop backlog observed
      (fun ending => ending.isCancelled = false ∧ ending.KeepsException) scheduler where
  exactlyOnce := exactlyOnce phased
  drains := drains phased
  due submission due := by
    rcases due with attaching | ⟨handle, member, -⟩ | ⟨source, member, -⟩
    · simp [backlog, attaching]
    · obtain ⟨before, after, same⟩ := List.append_of_mem member
      have pos := hops_pos handle
      rw [backlog, same, totalHops_append, totalHops]
      omega
    · have pos := List.length_pos_of_mem member
      rw [backlog]
      omega

theorem ended_of_hop (phased : scheduler.Phased) {event : ThreadEvent V} (hop : IsHop event)
    (taken : scheduler.step event = some next) : next.ended = scheduler.ended := by
  cases event with
  | attach =>
    obtain ⟨submission, future, -, -, rfl⟩ := attach_eq taken
    rfl
  | loop position =>
    obtain ⟨handle, found⟩ := runHandle_found taken
    cases handle with
    | start submission => rw [start_eq found taken]
    | setState task future =>
      obtain ⟨ending, attached, rfl, done, here⟩ := phased.copies found
      rw [setState_eq found done here rfl taken]
  | idle position =>
    rw [step] at taken
    split_ifs at taken
    obtain ⟨future, submission, outcome, -, -, rfl⟩ := runIdle_eq taken
    rfl
  | submit | ends submission ending => cases hop

/-- Wherever a run has come to, the loops by themselves make the call that is owed. -/
theorem exists_call {events : List (ThreadEvent V)}
    (ran : runFrom step started events = some scheduler) {submission : ℕ} {ending : Ending V}
    (ended : scheduler.ended submission = some ending)
    (landed : ending.isCancelled = false ∧ ending.KeepsException) :
    ∃ hops later, (∀ event ∈ hops, IsHop event) ∧ runFrom step scheduler hops = some later ∧
      callsOf later.calls submission =
        [{ thread := .main, submission := submission, callback := ending.owed }] :=
  exists_answered (fun _ event _ phased => phased_step phased event)
    (fun _ phased => delivers phased)
    (fun _ _ _ phased hop taken => ended_of_hop phased hop taken)
    (phased_runFrom ran) ended landed

end ThreadLoopScheduler

end Lapcare.Platform
