import Lapcare.Core.Errors
import Lapcare.Semantics.Future
import Lapcare.Semantics.Transition
import Mathlib.Logic.Function.Basic

/-!
# The scheduler

`platform/scheduler.py`: a coroutine is submitted with two callbacks, and the event loop,
or the loop thread and the GTK main loop, do the rest. A coroutine is opaque; it ends some
time, in one of the ways in which it can, and what asyncio then does with its task is
translated here. A submission is named by its number, and so are its task, its future and
the closure that calls it back.

What is ready to run is run in any order, and between any two runs anything else can
happen. There is no `stop`, and no coroutine raises what stops the loop itself.
-/

namespace Lapcare.Platform

open Lapcare.Core Semantics

variable {V : Type}

/-- How a coroutine ends. `cancelling` says that the cancellation of its task was asked for
in the very step in which it returned. -/
inductive Ending (V : Type)
  | returned (value : V) (cancelling : Bool)
  | raised (e : PyException)
  | cancelled

/-- What a future that is done has come to. -/
inductive Outcome (V : Type)
  | result (value : V)
  | exception (e : PyException)
  | cancelled

/-- What the task of a coroutine comes to. -/
def Ending.outcome : Ending V → Outcome V
  | .returned value false => .result value
  | .returned _ true => .cancelled
  | .raised e => .exception e
  | .cancelled => .cancelled

/-- A call of one of the two callbacks of a submission. -/
inductive Callback (V : Type)
  | onSuccess (value : V)
  | onError (e : PyException)

inductive Thread
  | main
  | loop
  deriving DecidableEq

structure Call (V : Type) where
  thread : Thread
  submission : ℕ
  callback : Callback V

def cancelledError : PyException := .foreign "CancelledError" ""

namespace Outcome

/-- `exception()`, which raises where the future was cancelled. -/
def exception? : Outcome V → Except PyException (Option PyException)
  | result _ => .ok none
  | exception e => .ok (some e)
  | cancelled => .error cancelledError

/-- `result()`. -/
def result? : Outcome V → Except PyException V
  | result value => .ok value
  | exception e => .error e
  | cancelled => .error cancelledError

/-- What `_done` and `_deliver` call, if they do not raise before. -/
def inform (outcome : Outcome V) : Except PyException (Callback V) := do
  match ← outcome.exception? with
  | some e => return .onError e
  | none => return .onSuccess (← outcome.result?)

/-- An exception of `_done` and `_deliver` goes to the loop, which reports it. -/
def calls (outcome : Outcome V) (submission : ℕ) : List (Call V) :=
  match outcome.inform with
  | .ok callback => [{ thread := .main, submission := submission, callback := callback }]
  | .error _ => []

end Outcome

/-- `asyncio.futures._convert_future_exc`: two classes of `concurrent.futures` become those
of asyncio of the same name. -/
def convertFutureExc : PyException → PyException
  | .foreign className detail =>
      if className = "concurrent.futures.CancelledError" then
        .foreign "CancelledError" detail
      else if className = "concurrent.futures.InvalidStateError" then
        .foreign "InvalidStateError" detail
      else .foreign className detail
  | e => e

/-- What `_set_concurrent_future_state` copies from a task to a future. -/
def Outcome.copied : Outcome V → Outcome V
  | .exception e => .exception (convertFutureExc e)
  | outcome => outcome

/-! ### asyncio on the GLib main loop -/

/-- `GLibEventLoopScheduler`, with the tasks of its loop, the callbacks that the loop has
ready, each with its task, how the coroutines ended, and the calls that were made. -/
structure GLibEventLoopScheduler (V : Type) where
  loop : Bool
  submissions : ℕ := 0
  tasks : ℕ → Option (Future (Outcome V) ℕ) := fun _ => none
  ended : ℕ → Option (Ending V) := fun _ => none
  ready : List (ℕ × ℕ) := []
  calls : List (Call V) := []

inductive NativeEvent (V : Type)
  | submit
  | ends (submission : ℕ) (ending : Ending V)
  | dispatch (position : ℕ)

namespace GLibEventLoopScheduler

variable (scheduler : GLibEventLoopScheduler V)

def submit : Except PyException (GLibEventLoopScheduler V) :=
  if scheduler.loop then
    let submission := scheduler.submissions
    let (task, due) := ({} : Future (Outcome V) ℕ).addDoneCallback submission
    .ok { scheduler with
      submissions := submission + 1
      tasks := Function.update scheduler.tasks submission (some task)
      ready := scheduler.ready ++ due.map (submission, ·) }
  else .error (.foreign "RuntimeError" "scheduler not started")

/-- A coroutine ends. Its task is done, and the loop is to call what was added to it. -/
def ends (submission : ℕ) (ending : Ending V) : Option (GLibEventLoopScheduler V) := do
  let task ← scheduler.tasks submission
  let (task, due) ← task.finish ending.outcome
  return { scheduler with
    tasks := Function.update scheduler.tasks submission (some task)
    ended := Function.update scheduler.ended submission (some ending)
    ready := scheduler.ready ++ due.map (submission, ·) }

/-- The loop, on the GTK main thread, runs the `_done` of a submission with a task. -/
def dispatch (position : ℕ) : Option (GLibEventLoopScheduler V) := do
  let (task, submission) ← scheduler.ready[position]?
  let outcome ← (scheduler.tasks task).bind (·.outcome)
  return { scheduler with
    ready := scheduler.ready.eraseIdx position
    calls := scheduler.calls ++ outcome.calls submission }

def step (scheduler : GLibEventLoopScheduler V) :
    NativeEvent V → Option (GLibEventLoopScheduler V)
  | .submit => scheduler.submit.toOption
  | .ends submission ending => scheduler.ends submission ending
  | .dispatch position => scheduler.dispatch position

end GLibEventLoopScheduler

/-! ### A loop thread -/

/-- What the loop thread has ready: to make a task of a coroutine and chain a future to it,
or to copy what a task came to into a future. -/
inductive LoopHandle
  | start (submission : ℕ)
  | setState (task future : ℕ)

/-- `ThreadLoopScheduler`, with the tasks and the ready handles of its loop, the futures
that `run_coroutine_threadsafe` returned, the idle sources of the GTK main loop, each a
future with the submission whose callbacks it knows, and the submission to whose future the
main thread is about to add a callback. -/
structure ThreadLoopScheduler (V : Type) where
  loop : Bool
  submissions : ℕ := 0
  attaching : Option ℕ := none
  futures : ℕ → Option (Future (Outcome V) ℕ) := fun _ => none
  tasks : ℕ → Option (Future (Outcome V) ℕ) := fun _ => none
  ended : ℕ → Option (Ending V) := fun _ => none
  ready : List LoopHandle := []
  idle : List (ℕ × ℕ) := []
  calls : List (Call V) := []

inductive ThreadEvent (V : Type)
  | submit
  | attach
  | loop (position : ℕ)
  | ends (submission : ℕ) (ending : Ending V)
  | idle (position : ℕ)

namespace ThreadLoopScheduler

variable (scheduler : ThreadLoopScheduler V)

/-- The first half of `submit`, `run_coroutine_threadsafe`. -/
def submit : Except PyException (ThreadLoopScheduler V) :=
  if scheduler.loop then
    let submission := scheduler.submissions
    .ok { scheduler with
      submissions := submission + 1
      attaching := some submission
      futures := Function.update scheduler.futures submission (some {})
      ready := scheduler.ready ++ [.start submission] }
  else .error (.foreign "RuntimeError" "scheduler not started")

/-- `_dispatch` of some submissions, called with a future: `GLib.idle_add(_deliver)`. -/
def dispatch (future : ℕ) (due : List ℕ) : List (ℕ × ℕ) :=
  due.map (future, ·)

/-- The second half of `submit`, `future.add_done_callback(_dispatch)`. The loop thread may
have been faster, and then the callback runs at once. -/
def attach : Option (ThreadLoopScheduler V) := do
  let submission ← scheduler.attaching
  let future ← scheduler.futures submission
  let (future, due) := future.addDoneCallback submission
  return { scheduler with
    attaching := none
    futures := Function.update scheduler.futures submission (some future)
    idle := scheduler.idle ++ dispatch submission due }

/-- The loop thread runs a handle. A future that is done takes no second state. -/
def runHandle (position : ℕ) : Option (ThreadLoopScheduler V) := do
  let rest := { scheduler with ready := scheduler.ready.eraseIdx position }
  match ← scheduler.ready[position]? with
  | .start submission =>
      let (task, _) := ({} : Future (Outcome V) ℕ).addDoneCallback submission
      return { rest with tasks := Function.update scheduler.tasks submission (some task) }
  | .setState task future =>
      let outcome ← (scheduler.tasks task).bind (·.outcome)
      let destination ← scheduler.futures future
      match destination.finish outcome.copied with
      | none => return rest
      | some (destination, due) =>
          return { rest with
            futures := Function.update scheduler.futures future (some destination)
            idle := scheduler.idle ++ dispatch future due }

/-- A coroutine ends, on the loop thread. -/
def ends (submission : ℕ) (ending : Ending V) : Option (ThreadLoopScheduler V) := do
  let task ← scheduler.tasks submission
  let (task, due) ← task.finish ending.outcome
  return { scheduler with
    tasks := Function.update scheduler.tasks submission (some task)
    ended := Function.update scheduler.ended submission (some ending)
    ready := scheduler.ready ++ due.map (.setState submission ·) }

/-- The GTK main loop runs an idle source: `_deliver`. -/
def runIdle (position : ℕ) : Option (ThreadLoopScheduler V) := do
  let (future, submission) ← scheduler.idle[position]?
  let outcome ← (scheduler.futures future).bind (·.outcome)
  return { scheduler with
    idle := scheduler.idle.eraseIdx position
    calls := scheduler.calls ++ outcome.calls submission }

/-- While the main thread is inside `submit` it does nothing else. -/
def step (scheduler : ThreadLoopScheduler V) : ThreadEvent V → Option (ThreadLoopScheduler V)
  | .submit => if scheduler.attaching.isSome then none else scheduler.submit.toOption
  | .attach => scheduler.attach
  | .loop position => scheduler.runHandle position
  | .ends submission ending => scheduler.ends submission ending
  | .idle position => if scheduler.attaching.isSome then none else scheduler.runIdle position

end ThreadLoopScheduler

/-! ### What a submission is owed -/

namespace Ending

/-- The one call that a coroutine which ended is owed. -/
def owed : Ending V → Callback V
  | returned value _ => .onSuccess value
  | raised e => .onError e
  | cancelled => .onError cancelledError

/-- The task was cancelled, even where the coroutine returned. -/
def isCancelled : Ending V → Bool
  | returned _ cancelling => cancelling
  | raised _ => false
  | cancelled => true

/-- The exception is not one that asyncio replaces on its way to another thread. -/
def KeepsException : Ending V → Prop
  | raised e => convertFutureExc e = e
  | _ => True

end Ending

/-- What there is to see of a scheduler: how the coroutines ended, the calls that were made,
and for which submissions something is still to run. -/
structure Observed (V : Type) where
  ended : ℕ → Option (Ending V)
  calls : List (Call V)
  due : ℕ → Prop

def callsOf (calls : List (Call V)) (submission : ℕ) : List (Call V) :=
  calls.filter (·.submission = submission)

/-- Every submission has at most one call, its own one and on the main thread, and once
nothing of it is left to run it has the one it is owed exactly if its coroutine ended so that
the call lands. -/
structure ExactlyOnce (observed : Observed V) (lands : Ending V → Prop) : Prop where
  main : ∀ call ∈ observed.calls, call.thread = .main
  once : ∀ submission, (callsOf observed.calls submission).length ≤ 1
  own : ∀ call ∈ observed.calls, ∃ ending, observed.ended call.submission = some ending ∧
    (lands ending → call.callback = ending.owed)
  answered_iff : ∀ submission ending, observed.ended submission = some ending →
    ¬ observed.due submission →
      (callsOf observed.calls submission =
          [{ thread := .main, submission := submission, callback := ending.owed }] ↔
        lands ending)

/-- A scheduler in a state: its calls so far, and that the loops bring what is still to run
to an end, in whatever order they run it. -/
structure Delivers {σ ε : Type} (step : σ → ε → Option σ) (hop : ε → Prop) (backlog : σ → ℕ)
    (observed : σ → Observed V) (lands : Ending V → Prop) (scheduler : σ) : Prop where
  exactlyOnce : ExactlyOnce (observed scheduler) lands
  drains : Drains step hop backlog scheduler
  due : ∀ submission, (observed scheduler).due submission → backlog scheduler ≠ 0

/-- A submission whose coroutine has ended, so that the call lands, gets its call from what
the loops do by themselves. -/
theorem exists_answered {σ ε : Type} {step : σ → ε → Option σ} {hop : ε → Prop}
    {backlog : σ → ℕ} {observed : σ → Observed V} {lands : Ending V → Prop}
    {invariant : σ → Prop} {scheduler : σ}
    (keeps : ∀ s event s', invariant s → step s event = some s' → invariant s')
    (delivers : ∀ s, invariant s → Delivers step hop backlog observed lands s)
    (endings : ∀ s event s', invariant s → hop event → step s event = some s' →
      (observed s').ended = (observed s).ended)
    (initial : invariant scheduler) {submission : ℕ} {ending : Ending V}
    (ended : (observed scheduler).ended submission = some ending) (landed : lands ending) :
    ∃ hops later, (∀ event ∈ hops, hop event) ∧ runFrom step scheduler hops = some later ∧
      callsOf (observed later).calls submission =
        [{ thread := .main, submission := submission, callback := ending.owed }] := by
  obtain ⟨hops, later, all, ran, drained, kept, same⟩ := exists_drained
    (fun s event s' both hopped taken =>
      And.intro (keeps s event s' both.1 taken)
        ((endings s event s' both.1 hopped taken).trans both.2))
    (fun s both => (delivers s both.1).drains) (And.intro initial rfl)
  refine ⟨hops, later, all, ran, ?_⟩
  -- nothing is left to run, and no coroutine ended meanwhile
  have delivered := delivers later kept
  refine (delivered.exactlyOnce.answered_iff submission ending ?_ ?_).2 landed
  · rw [same]
    exact ended
  · intro due
    exact delivered.due submission due drained

/-- The calls of a submission are those of the state in which its coroutine left it. -/
def Accounted (state : Ending V → Outcome V) (observed : Observed V) (submission : ℕ) : Prop :=
  (callsOf observed.calls submission = [] ∧
    (observed.ended submission = none ∨ observed.due submission)) ∨
  ∃ ending, observed.ended submission = some ending ∧
    callsOf observed.calls submission = (state ending).calls submission

namespace Outcome

variable {outcome : Outcome V} {submission : ℕ} {call : Call V}

@[simp] theorem calls_result (value : V) : (result value).calls submission =
    [{ thread := .main, submission := submission, callback := .onSuccess value }] := rfl

@[simp] theorem calls_exception (e : PyException) :
    (exception e : Outcome V).calls submission =
      [{ thread := .main, submission := submission, callback := .onError e }] := rfl

@[simp] theorem calls_cancelled : (cancelled : Outcome V).calls submission = [] := rfl

theorem thread_of_mem_calls (member : call ∈ outcome.calls submission) :
    call.thread = .main ∧ call.submission = submission := by
  cases outcome <;> simp at member <;> subst member <;> exact ⟨rfl, rfl⟩

theorem length_calls_le : (outcome.calls submission).length ≤ 1 := by
  cases outcome <;> simp

/-- The calls that one submission adds, seen from any. -/
theorem callsOf_append (calls : List (Call V)) (other : ℕ) :
    callsOf (calls ++ outcome.calls submission) other =
      callsOf calls other ++ if submission = other then outcome.calls submission else [] := by
  rw [callsOf, List.filter_append]
  congr 1
  cases outcome <;> split_ifs with same <;> simp [same]

end Outcome

/-- The call that lands is the one that is owed. -/
theorem outcome_calls_eq_iff (ending : Ending V) (submission : ℕ) :
    ending.outcome.calls submission =
        [{ thread := .main, submission := submission, callback := ending.owed }] ↔
      ending.isCancelled = false := by
  cases ending with
  | returned value cancelling => cases cancelling <;> simp [Ending.outcome, Ending.owed,
      Ending.isCancelled]
  | raised e => simp [Ending.outcome, Ending.owed, Ending.isCancelled]
  | cancelled => simp [Ending.outcome, Ending.isCancelled]

theorem copied_calls_eq_iff (ending : Ending V) (submission : ℕ) :
    ending.outcome.copied.calls submission =
        [{ thread := .main, submission := submission, callback := ending.owed }] ↔
      ending.isCancelled = false ∧ ending.KeepsException := by
  cases ending with
  | returned value cancelling => cases cancelling <;> simp [Ending.outcome, Ending.owed,
      Ending.isCancelled, Ending.KeepsException, Outcome.copied]
  | raised e => simp [Ending.outcome, Ending.owed, Ending.isCancelled, Ending.KeepsException,
      Outcome.copied]
  | cancelled => simp [Ending.outcome, Ending.isCancelled, Outcome.copied]

/-- Submissions that are accounted for have exactly the calls they are owed. -/
theorem exactlyOnce_of_accounted {state : Ending V → Outcome V} {lands : Ending V → Prop}
    (sharp : ∀ ending submission, (state ending).calls submission =
      [{ thread := .main, submission := submission, callback := ending.owed }] ↔ lands ending)
    {observed : Observed V} (accounted : ∀ submission, Accounted state observed submission) :
    ExactlyOnce observed lands := by
  -- a call is one of the calls that an ending makes
  have made (call : Call V) (member : call ∈ observed.calls) : ∃ ending,
      observed.ended call.submission = some ending ∧
        call ∈ (state ending).calls call.submission := by
    have own : call ∈ callsOf observed.calls call.submission :=
      List.mem_filter.2 ⟨member, decide_eq_true rfl⟩
    rcases accounted call.submission with ⟨none, -⟩ | ⟨ending, ended, calls⟩
    · rw [none] at own
      cases own
    · exact ⟨ending, ended, calls ▸ own⟩
  refine ⟨?_, ?_, ?_, ?_⟩
  · intro call member
    obtain ⟨ending, -, called⟩ := made call member
    exact (Outcome.thread_of_mem_calls called).1
  · intro submission
    rcases accounted submission with ⟨none, -⟩ | ⟨ending, -, calls⟩
    · simp [none]
    · rw [calls]
      exact Outcome.length_calls_le
  · intro call member
    obtain ⟨ending, ended, called⟩ := made call member
    refine ⟨ending, ended, fun landed => ?_⟩
    rw [(sharp ending call.submission).2 landed] at called
    rw [List.mem_singleton.1 called]
  · intro submission ending ended finished
    rcases accounted submission with ⟨-, unended | due⟩ | ⟨other, ended', calls⟩
    · rw [unended] at ended
      cases ended
    · exact absurd due finished
    · obtain rfl : other = ending := Option.some.inj (ended'.symm.trans ended)
      rw [calls]
      exact sharp other submission

end Lapcare.Platform
