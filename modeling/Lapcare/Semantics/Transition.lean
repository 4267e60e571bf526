import Mathlib.Data.List.Induction

/-!
# Runs of a deterministic transition system

A system takes a step for an event, or cannot take it. A run is a list of events. The
properties of interest hold in every state a run passes through, or at every step it
takes.

## Main results

* `invariant_runFrom` — what every step keeps holds wherever a run ends
* `invariant_along` — the same for what speaks of the run so far as well
* `runFrom_alike` — an observer whom no single step shows a difference sees none in runs
* `Strand.runFrom_filter` — a strand of a system runs as if there were no other
* `refines_runFrom` — what refines a system step by step has only runs of that system
* `allStates_iff_allSteps` — a property that a step keeps under exactly one condition
  holds along a run exactly when every step of the run meets the condition
* `exists_drained` — a system that drains works its backlog off
* `answered_append_answer` — an answer on a log answers every request before it
* `allWarranted_concat` — one more entry on a log, of which every entry is warranted
-/

namespace Semantics

variable {σ ε : Type} {step : σ → ε → Option σ}

/-- The state after `events`, when each of them can happen in its turn. -/
def runFrom (step : σ → ε → Option σ) (start : σ) (events : List ε) : Option σ :=
  events.foldlM step start

@[simp] theorem runFrom_nil (start : σ) : runFrom step start [] = some start := rfl

theorem runFrom_append (start : σ) (events more : List ε) :
    runFrom step start (events ++ more) =
      (runFrom step start events).bind (runFrom step · more) :=
  List.foldlM_append

theorem runFrom_concat (start : σ) (events : List ε) (event : ε) :
    runFrom step start (events ++ [event]) = (runFrom step start events).bind (step · event) := by
  rw [runFrom_append]
  refine Option.bind_congr fun s _ => ?_
  exact bind_pure (step s event)

theorem runFrom_concat_eq_some {start later : σ} {events : List ε} {event : ε}
    (ran : runFrom step start (events ++ [event]) = some later) :
    ∃ s, runFrom step start events = some s ∧ step s event = some later := by
  rw [runFrom_concat] at ran
  exact Option.bind_eq_some_iff.mp ran

/-- What every step keeps holds wherever a run ends. -/
theorem invariant_runFrom {invariant : σ → Prop}
    (keeps : ∀ s event s', invariant s → step s event = some s' → invariant s')
    {start s : σ} (initial : invariant start) {events : List ε}
    (ran : runFrom step start events = some s) : invariant s := by
  induction events using List.reverseRecOn generalizing s with
  | nil =>
    obtain rfl := Option.some.inj ran
    exact initial
  | append_singleton events event ih =>
    obtain ⟨before, reached, taken⟩ := runFrom_concat_eq_some ran
    exact keeps before event s (ih reached) taken

/-- What the steps of admitted events keep. -/
theorem invariant_runFrom_of {invariant : σ → Prop} {admitted : ε → Prop}
    (keeps : ∀ s event s', admitted event → invariant s → step s event = some s' → invariant s')
    {start s : σ} (initial : invariant start) {events : List ε}
    (all : ∀ event ∈ events, admitted event) (ran : runFrom step start events = some s) :
    invariant s := by
  induction events using List.reverseRecOn generalizing s with
  | nil =>
    obtain rfl := Option.some.inj ran
    exact initial
  | append_singleton events event ih =>
    obtain ⟨before, reached, taken⟩ := runFrom_concat_eq_some ran
    have earlier : invariant before :=
      ih (fun other member => all other (List.mem_append_left _ member)) reached
    exact keeps before event s (all event (by simp)) earlier taken

/-- What the steps of admitted events keep, when it speaks of the run up to here as well. -/
theorem invariant_along {start : σ} {invariant : List ε → σ → Prop} {admitted : ε → Prop}
    (keeps : ∀ events s event s', runFrom step start events = some s → admitted event →
      invariant events s → step s event = some s' → invariant (events ++ [event]) s')
    (initial : invariant [] start) {s : σ} {events : List ε}
    (all : ∀ event ∈ events, admitted event) (ran : runFrom step start events = some s) :
    invariant events s := by
  induction events using List.reverseRecOn generalizing s with
  | nil =>
    obtain rfl := Option.some.inj ran
    exact initial
  | append_singleton events event ih =>
    obtain ⟨before, reached, taken⟩ := runFrom_concat_eq_some ran
    have earlier : invariant events before :=
      ih (fun other member => all other (List.mem_append_left _ member)) reached
    exact keeps events before event s reached (all event (by simp)) earlier taken

/-! ### Runs that look alike -/

/-- An observer sees `view` of the states and `look` of the events. If what a step leaves to
see of reachable states depends on nothing but what could be seen before it, the same is true
of runs. -/
theorem runFrom_alike {ω κ : Type} {view : σ → ω} {look : ε → κ} {invariant : σ → Prop}
    (keeps : ∀ s event s', invariant s → step s event = some s' → invariant s')
    (unwinds : ∀ s s' event event', invariant s → invariant s' → view s = view s' →
      look event = look event' → (step s event).map view = (step s' event').map view)
    {start start' : σ} (initial : invariant start) (initial' : invariant start')
    (same : view start = view start') {events events' : List ε}
    (along : events.map look = events'.map look) :
    (runFrom step start events).map view = (runFrom step start' events').map view := by
  induction events using List.reverseRecOn generalizing events' with
  | nil =>
    obtain rfl : events' = [] := List.map_eq_nil_iff.mp along.symm
    exact congrArg some same
  | append_singleton events event ih =>
    rw [List.map_append, List.map_singleton] at along
    obtain ⟨before, last, rfl, looks, own⟩ := List.map_eq_append_iff.mp along.symm
    obtain ⟨event', rest, rfl, looksLast, nothing⟩ := List.map_eq_cons_iff.mp own
    obtain rfl : rest = [] := List.map_eq_nil_iff.mp nothing
    have earlier := ih looks.symm
    rw [runFrom_concat, runFrom_concat]
    -- both runs came this far, or neither did
    cases reached : runFrom step start events with
    | none =>
      rw [reached] at earlier
      rw [Option.map_eq_none_iff.mp earlier.symm]
      rfl
    | some s =>
      rw [reached] at earlier
      obtain ⟨s', reached', alike⟩ := Option.map_eq_some_iff.mp earlier.symm
      rw [reached']
      exact unwinds s s' event event' (invariant_runFrom keeps initial reached)
        (invariant_runFrom keeps initial' reached') alike.symm looksLast.symm

/-! ### Strands -/

/-- `view` shows one strand of a system, `own` its events: no other event changes what is there to
see, and what its own events make of it depends on nothing else. -/
structure Strand {ω : Type} (step : σ → ε → Option σ) (view : σ → ω) (own : ε → Bool) : Prop where
  rest : ∀ s event s', own event = false → step s event = some s' → view s' = view s
  mine : ∀ s s' event, own event = true → view s = view s' →
    (step s event).map view = (step s' event).map view

/-- A strand runs as if there were no other. -/
theorem Strand.runFrom_filter {ω : Type} {view : σ → ω} {own : ε → Bool}
    (strand : Strand step view own) {start s : σ} {events : List ε}
    (ran : runFrom step start events = some s) :
    ∃ alone, runFrom step start (events.filter own) = some alone ∧ view alone = view s := by
  induction events using List.reverseRecOn generalizing s with
  | nil =>
    obtain rfl := Option.some.inj ran
    exact ⟨start, rfl, rfl⟩
  | append_singleton events event ih =>
    obtain ⟨before, reached, taken⟩ := runFrom_concat_eq_some ran
    obtain ⟨alone, along, same⟩ := ih reached
    rw [List.filter_append]
    by_cases belongs : own event = true
    · have next := strand.mine alone before event belongs same
      rw [taken] at next
      obtain ⟨after, moved, seen⟩ := Option.map_eq_some_iff.mp next
      refine ⟨after, ?_, seen⟩
      rw [List.filter_cons_of_pos belongs, List.filter_nil, runFrom_concat, along, Option.bind_some,
        moved]
    · have other : own event = false := by simpa using belongs
      refine ⟨alone, ?_, ?_⟩
      · rw [List.filter_cons_of_neg belongs, List.filter_nil, List.append_nil, along]
      · rw [same, strand.rest before event s other taken]

/-! ### Refinement -/

/-- A system whose every step is, as `abs` shows it, a step of a more abstract system or
nothing at all, has only runs that the abstract one has. -/
theorem refines_runFrom {τ δ : Type} {abstract : τ → δ → Option τ} {abs : σ → τ}
    {invariant : σ → Prop}
    (keeps : ∀ s event s', invariant s → step s event = some s' → invariant s')
    (simulates : ∀ s event s', invariant s → step s event = some s' →
      abs s' = abs s ∨ ∃ own, abstract (abs s) own = some (abs s'))
    {start s : σ} (initial : invariant start) {events : List ε}
    (ran : runFrom step start events = some s) :
    ∃ own, runFrom abstract (abs start) own = some (abs s) := by
  induction events using List.reverseRecOn generalizing s with
  | nil =>
    obtain rfl := Option.some.inj ran
    exact ⟨[], rfl⟩
  | append_singleton events event ih =>
    obtain ⟨before, reached, taken⟩ := runFrom_concat_eq_some ran
    obtain ⟨past, along⟩ := ih reached
    rcases simulates before event s (invariant_runFrom keeps initial reached) taken with
      still | ⟨own, moves⟩
    · exact ⟨past, by rw [along, still]⟩
    · exact ⟨past ++ [own], by rw [runFrom_concat, along, Option.bind_some, moves]⟩

/-- `holds` in every state that a run along `events` passes through. -/
def AllStates (step : σ → ε → Option σ) (holds : σ → Prop) (start : σ) (events : List ε) :
    Prop :=
  ∀ past, past <+: events → ∀ s, runFrom step start past = some s → holds s

/-- `meets` at every step that a run along `events` takes, in the state before it. -/
def AllSteps (step : σ → ε → Option σ) (meets : σ → ε → Prop) (start : σ) (events : List ε) :
    Prop :=
  ∀ past event, past ++ [event] <+: events → ∀ s s', runFrom step start past = some s →
    step s event = some s' → meets s event

/-- A property that a step keeps under exactly one condition holds along a run exactly
when every step of the run meets that condition. -/
theorem allStates_iff_allSteps {invariant holds : σ → Prop} {meets : σ → ε → Prop} {start : σ}
    (initial : invariant start) (holdsInitially : holds start)
    (keeps : ∀ s event s', invariant s → step s event = some s' → invariant s')
    (sharp : ∀ s event s', invariant s → holds s → step s event = some s' →
      (holds s' ↔ meets s event)) (events : List ε) :
    AllStates step holds start events ↔ AllSteps step meets start events := by
  have reachable {past : List ε} {s : σ} (ran : runFrom step start past = some s) :
      invariant s := invariant_runFrom keeps initial ran
  constructor
  · intro states past event along s s' ran taken
    have now : holds s := states past ((List.prefix_append _ _).trans along) s ran
    have next : holds s' := by
      refine states _ along s' ?_
      rw [runFrom_concat, ran]
      exact taken
    exact (sharp s event s' (reachable ran) now taken).mp next
  · intro steps past along
    -- along the run, from its first state
    induction past using List.reverseRecOn with
    | nil =>
      intro s ran
      obtain rfl := Option.some.inj ran
      exact holdsInitially
    | append_singleton past event ih =>
      intro s' ran
      obtain ⟨s, reached, taken⟩ := runFrom_concat_eq_some ran
      have now : holds s := ih ((List.prefix_append _ _).trans along) s reached
      exact (sharp s event s' (reachable reached) now taken).mpr
        (steps past event along s s' reached taken)

/-! ### Work that comes to an end -/

section Drains

variable {hop : ε → Prop} {backlog : σ → ℕ} {s : σ}

/-- While there is a backlog the system can take one of the steps that work it off, and
every such step makes it smaller. -/
structure Drains (step : σ → ε → Option σ) (hop : ε → Prop) (backlog : σ → ℕ) (s : σ) :
    Prop where
  enabled : backlog s ≠ 0 → ∃ event s', hop event ∧ step s event = some s'
  falls : ∀ event s', hop event → step s event = some s' → backlog s' < backlog s

/-- A system that drains can work its backlog off, and keeps what those steps keep. -/
theorem exists_drained {invariant : σ → Prop}
    (keeps : ∀ s event s', invariant s → hop event → step s event = some s' → invariant s')
    (drains : ∀ s, invariant s → Drains step hop backlog s) (initial : invariant s) :
    ∃ events s', (∀ event ∈ events, hop event) ∧ runFrom step s events = some s' ∧
      backlog s' = 0 ∧ invariant s' := by
  induction size : backlog s using Nat.strongRecOn generalizing s with
  | _ size' ih =>
    by_cases done : backlog s = 0
    · exact ⟨[], s, by simp, rfl, done, initial⟩
    obtain ⟨event, next, hops, taken⟩ := (drains s initial).enabled done
    have less := (drains s initial).falls event next hops taken
    obtain ⟨events, last, all, ran, drained⟩ :=
      ih (backlog next) (size ▸ less) (keeps s event next initial hops taken) rfl
    refine ⟨event :: events, last, ?_, ?_, drained⟩
    · intro other member
      rcases List.mem_cons.1 member with rfl | later
      · exact hops
      · exact all other later
    · rw [runFrom, List.foldlM_cons, taken]
      exact ran

end Drains

/-! ### Requests and answers on a log -/

section Answered

variable {κ : Type} {request answer : κ}

/-- Every request on the log has an answer after it. -/
def Answered (request answer : κ) (log : List κ) : Prop :=
  ∀ earlier later, log = earlier ++ request :: later → answer ∈ later

theorem answered_nil : Answered request answer [] := by
  intro earlier later same
  exact absurd same.symm (by simp)

/-- An answer answers every request before it. -/
theorem answered_append_answer (different : request ≠ answer) (log : List κ) :
    Answered request answer (log ++ [answer]) := by
  intro earlier later same
  rcases List.eq_nil_or_concat later with rfl | ⟨front, last, rfl⟩
  · obtain ⟨-, last⟩ := List.append_inj' same rfl
    exact absurd (List.singleton_inj.mp last).symm different
  · rw [List.concat_eq_append] at same ⊢
    rw [← List.cons_append, ← List.append_assoc] at same
    obtain ⟨-, last⟩ := List.append_inj' same rfl
    simp [List.singleton_inj.mp last]

end Answered

/-! ### Entries that what came before warrants -/

section Warranted

variable {κ : Type} {warranted : List κ → κ → Prop}

/-- Every entry of a log is warranted by those before it. -/
def AllWarranted (warranted : List κ → κ → Prop) (log : List κ) : Prop :=
  ∀ past entry, past ++ [entry] <+: log → warranted past entry

theorem allWarranted_nil : AllWarranted warranted [] := by
  intro past entry along
  exact absurd (List.prefix_nil.mp along) (by simp)

theorem allWarranted_concat {log : List κ} {entry : κ} :
    AllWarranted warranted (log ++ [entry]) ↔
      AllWarranted warranted log ∧ warranted log entry := by
  constructor
  · intro all
    exact ⟨fun past other along => all past other (along.trans (List.prefix_append _ _)),
      all log entry List.prefix_rfl⟩
  · rintro ⟨before, last⟩ past other along
    rcases List.prefix_concat_iff.mp along with same | along
    · obtain ⟨rfl, own⟩ := List.append_inj' same rfl
      rw [List.singleton_inj.mp own]
      exact last
    · exact before past other along

end Warranted

end Semantics
