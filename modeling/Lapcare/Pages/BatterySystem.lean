import Lapcare.Pages.Battery
import Lapcare.Pages.FirmwareSystem

/-!
# The battery page in its environment

The view-model with the databases, the debounce timer and the gathers around it. A gather
waits for the wear list, then for the status; what follows it does without waiting, and
its callback runs some time after it ended. The steps of several gathers may come in any
order, between any change signals of UPower.

## Main results

* `battery_page_settles` — no change of a status is lost, no page stays loading
* `battery_status_confined` — what a status says is seen in its own texts only
-/

namespace Lapcare.Pages

open Lapcare.Core Platform Semantics Text

structure BatterySystem where
  vm : BatteryViewModel := {}
  disk : Disk
  readings : ℕ := 0
  recorded : List Recording := []
  timers : ℕ := 0
  /-- The gathers that wait for the wear list. -/
  asking : ℕ := 0
  /-- The gathers that wait for the status, with the wear they have. -/
  waiting : List (List BatteryWear) := []
  /-- The gathers that ended, before their callback. -/
  ended : List (Except PyException BatteryData) := []
  log : List LogEntry := []

/-- What can happen next. A gather is named by its position among those that are as far. -/
inductive BatteryEvent
  | load
  | statusChanged
  | timerFired
  | wearRead (answer : Except PyException (List BatteryWear))
  | statusRead (position : ℕ) (answer : Except PyException (List BatteryStatus))
  | callback (position : ℕ)

namespace BatterySystem

/-- The gathers that are under way. -/
def gathers (system : BatterySystem) : ℕ :=
  system.asking + system.waiting.length + system.ended.length

/-- Carry out one effect of a method. -/
def perform (system : BatterySystem) : BatteryEffect → BatterySystem
  | .submitGather =>
      { system with
        asking := system.asking + 1
        log := system.log ++ [.gatherSubmitted] }
  | .startTimer _ => { system with timers := system.timers + 1 }

/-- The system after a method of its view-model. -/
def after (system : BatterySystem) (result : BatteryViewModel × List BatteryEffect) :
    BatterySystem :=
  result.2.foldl perform { system with vm := result.1 }

section Step

variable (clock : ℕ → Date) (store : SqliteHistoryStore)

/-- The rest of `_gather`, once the status was read or given up. -/
def finish (system : BatterySystem) (wearList : List BatteryWear)
    (status : Except PyException (Option (List BatteryStatus))) : BatterySystem :=
  match status with
  | .error e => { system with ended := system.ended ++ [.error e] }
  | .ok statusList =>
      let start : Recorder :=
        { disk := system.disk, readings := system.readings, recorded := system.recorded }
      let (outcome, recorder) := start.loop clock store wearList
      { system with
        disk := recorder.disk
        readings := recorder.readings
        recorded := recorder.recorded
        ended := system.ended ++
          [outcome.map fun _ => { wearList, statusList, histories := recorder.histories }] }

/-- One event, when it can happen. -/
def step (system : BatterySystem) : BatteryEvent → Option BatterySystem
  | .load => some (system.after system.vm.load)
  | .statusChanged =>
      some ({ system with log := system.log ++ [LogEntry.changed] }.after
        system.vm.onStatusChanged)
  | .timerFired =>
      if system.timers = 0 then none
      else some ({ system with timers := system.timers - 1 }.after system.vm.reload)
  | .wearRead answer =>
      if system.asking = 0 then none
      else
        match answer with
        -- the gather ends here, and neither asks for the status nor records anything
        | .error e =>
            some { system with asking := system.asking - 1, ended := system.ended ++ [.error e] }
        | .ok wearList =>
            some
              { system with asking := system.asking - 1, waiting := system.waiting ++ [wearList] }
  | .statusRead position answer =>
      match system.waiting[position]? with
      | none => none
      | some wearList =>
          some ({ system with waiting := system.waiting.eraseIdx position }.finish clock store
            wearList (statusOrNone answer))
  | .callback position =>
      match system.ended[position]? with
      | none => none
      | some outcome =>
          some
            { system with
              ended := system.ended.eraseIdx position
              vm := system.vm.complete outcome }

end Step

/-- The page as its view leaves it: loaded once. -/
def opened (disk : Disk) : BatterySystem :=
  ({ disk : BatterySystem }).after ({} : BatteryViewModel).load

/-! ### The events that need something under way -/

section Inversion

variable {clock : ℕ → Date} {store : SqliteHistoryStore} {system later : BatterySystem}
  {position : ℕ}

theorem step_timerFired_iff :
    system.step clock store .timerFired = some later ↔
      system.timers ≠ 0 ∧
        { system with timers := system.timers - 1 }.after system.vm.reload = later := by
  simp only [step, Option.ite_none_left_eq_some, Option.some.injEq, ne_eq]

theorem step_wearRead_iff {answer : Except PyException (List BatteryWear)} :
    system.step clock store (.wearRead answer) = some later ↔
      system.asking ≠ 0 ∧
        ((∃ e, answer = .error e ∧
            { system with
              asking := system.asking - 1
              ended := system.ended ++ [.error e] } = later) ∨
          ∃ wearList, answer = .ok wearList ∧
            { system with
              asking := system.asking - 1
              waiting := system.waiting ++ [wearList] } = later) := by
  cases answer <;> simp [step]

theorem step_statusRead_iff {answer : Except PyException (List BatteryStatus)} :
    system.step clock store (.statusRead position answer) = some later ↔
      ∃ wearList, system.waiting[position]? = some wearList ∧
        { system with waiting := system.waiting.eraseIdx position }.finish clock store wearList
          (statusOrNone answer) = later := by
  rw [step]
  cases system.waiting[position]? <;> simp

theorem step_callback_iff :
    system.step clock store (.callback position) = some later ↔
      ∃ outcome, system.ended[position]? = some outcome ∧
        { system with
          ended := system.ended.eraseIdx position
          vm := system.vm.complete outcome } = later := by
  rw [step]
  cases system.ended[position]? <;> simp

/-- A gather that finishes is one more that ended, and leaves the page alone. -/
theorem finish_eq (clock : ℕ → Date) (store : SqliteHistoryStore) (system : BatterySystem)
    (wearList : List BatteryWear)
    (status : Except PyException (Option (List BatteryStatus))) :
    ∃ disk readings recorded outcome, system.finish clock store wearList status =
      { system with
        disk := disk
        readings := readings
        recorded := recorded
        ended := system.ended ++ [outcome] } := by
  unfold finish
  cases status with
  | error e => exact ⟨system.disk, system.readings, system.recorded, .error e, rfl⟩
  | ok statusList => exact ⟨_, _, _, _, rfl⟩

end Inversion

/-! ### Nothing is lost, and nothing stays -/

section Settles

variable {clock : ℕ → Date} {store : SqliteHistoryStore} {system later : BatterySystem}

/-- The flag stands for the timer, the page is loading only while a gather is under way,
and a change that no gather followed has the timer running. -/
structure Consistent (system : BatterySystem) : Prop where
  timers : system.timers = system.vm.reloadPending.toNat
  loading : system.vm.state = .loading → system.gathers ≠ 0
  covered : system.timers = 0 →
    Answered LogEntry.changed LogEntry.gatherSubmitted system.log

theorem consistent_opened (disk : Disk) : (opened disk).Consistent where
  timers := rfl
  loading _ := Nat.succ_ne_zero 0
  covered _ := answered_append_answer (by decide) []

/-- A submission answers every change before it. -/
theorem consistent_of_submission {log : List LogEntry}
    (timers : later.timers = later.vm.reloadPending.toNat) (asks : later.asking ≠ 0)
    (submitted : later.log = log ++ [.gatherSubmitted]) : later.Consistent where
  timers := timers
  loading _ := by
    unfold gathers
    omega
  covered _ := by
    rw [submitted]
    exact answered_append_answer (by decide) log

/-- What a step of a gather leaves alone. -/
theorem Consistent.of_gather (consistent : system.Consistent)
    (timers : later.timers = system.timers)
    (pending : later.vm.reloadPending = system.vm.reloadPending) (log : later.log = system.log)
    (loading : later.vm.state = .loading → later.gathers ≠ 0) : later.Consistent where
  timers := by rw [timers, pending, consistent.timers]
  loading := loading
  covered quiet := by
    rw [log]
    exact consistent.covered (timers ▸ quiet)

theorem complete_state_ne (vm : BatteryViewModel) (outcome : Except PyException BatteryData) :
    (vm.complete outcome).state ≠ .loading := by
  cases outcome with
  | ok data =>
    unfold BatteryViewModel.complete BatteryViewModel.apply
    dsimp only
    split_ifs <;> simp [PageViewModel.showUnavailable, PageViewModel.showReady]
  | error e =>
    change (vm.toPageViewModel.handleError e).state ≠ .loading
    rcases vm.toPageViewModel.handleError_state e with is | is <;> rw [is] <;> decide

theorem complete_reloadPending (vm : BatteryViewModel) (outcome : Except PyException BatteryData) :
    (vm.complete outcome).reloadPending = vm.reloadPending := by
  cases outcome with
  | ok data =>
    unfold BatteryViewModel.complete BatteryViewModel.apply
    dsimp only
    split_ifs <;> rfl
  | error e => rfl

/-- A gather that stands at a position of a list is one less of the list. -/
theorem length_eraseIdx_succ {α : Type} {items : List α} {position : ℕ} {item : α}
    (found : items[position]? = some item) :
    (items.eraseIdx position).length + 1 = items.length := by
  obtain ⟨inside, -⟩ := List.getElem?_eq_some_iff.mp found
  rw [List.length_eraseIdx_of_lt inside]
  omega

theorem consistent_step {event : BatteryEvent} (consistent : system.Consistent)
    (taken : system.step clock store event = some later) : later.Consistent := by
  cases event with
  | load =>
    obtain rfl := Option.some.inj taken
    exact consistent_of_submission consistent.timers (Nat.succ_ne_zero _) rfl
  | statusChanged =>
    obtain rfl := Option.some.inj taken
    unfold BatteryViewModel.onStatusChanged
    split_ifs with pending
    · -- the timer that runs already covers this change as well
      have running : system.timers ≠ 0 := by rw [consistent.timers, pending]; decide
      exact ⟨consistent.timers, consistent.loading, fun quiet => (running quiet).elim⟩
    · have idle : system.timers = 0 := by rw [consistent.timers]; simpa using pending
      refine ⟨?_, consistent.loading, fun quiet => (Nat.succ_ne_zero _ quiet).elim⟩
      change system.timers + 1 = 1
      rw [idle]
  | timerFired =>
    obtain ⟨running, rfl⟩ := step_timerFired_iff.mp taken
    have one : system.timers = 1 := by
      have flag := consistent.timers
      have most := Bool.toNat_le system.vm.reloadPending
      omega
    refine consistent_of_submission ?_ (Nat.succ_ne_zero _) rfl
    change system.timers - 1 = 0
    omega
  | wearRead answer =>
    obtain ⟨asks, ⟨e, rfl, rfl⟩ | ⟨wearList, rfl, rfl⟩⟩ := step_wearRead_iff.mp taken
    all_goals
      refine consistent.of_gather rfl rfl rfl fun _ => ?_
      simp only [gathers, List.length_append, List.length_singleton]
      omega
  | statusRead position answer =>
    obtain ⟨wearList, found, rfl⟩ := step_statusRead_iff.mp taken
    obtain ⟨disk, readings, recorded, outcome, finished⟩ := finish_eq clock store
      { system with waiting := system.waiting.eraseIdx position } wearList (statusOrNone answer)
    rw [finished]
    refine consistent.of_gather rfl rfl rfl fun _ => ?_
    simp only [gathers, List.length_append, List.length_singleton]
    omega
  | callback position =>
    obtain ⟨outcome, found, rfl⟩ := step_callback_iff.mp taken
    refine consistent.of_gather rfl (complete_reloadPending ..) rfl fun loading => ?_
    exact (complete_state_ne _ _ loading).elim

/-- What goes on without the user and without UPower. -/
def Proceeds : BatteryEvent → Prop
  | .load | .statusChanged => False
  | .timerFired | .wearRead _ | .statusRead _ _ | .callback _ => True

/-- The steps that are left: a timer becomes a gather, and a gather has three of its own. -/
def backlog (system : BatterySystem) : ℕ :=
  4 * system.timers + 3 * system.asking + 2 * system.waiting.length + system.ended.length

theorem backlog_step {event : BatteryEvent} (proceeds : Proceeds event)
    (taken : system.step clock store event = some later) : later.backlog < system.backlog := by
  cases event with
  | load | statusChanged => exact proceeds.elim
  | timerFired =>
    obtain ⟨running, rfl⟩ := step_timerFired_iff.mp taken
    change 4 * (system.timers - 1) + 3 * (system.asking + 1) + 2 * system.waiting.length +
      system.ended.length < system.backlog
    unfold backlog
    omega
  | wearRead answer =>
    obtain ⟨asks, ⟨e, rfl, rfl⟩ | ⟨wearList, rfl, rfl⟩⟩ := step_wearRead_iff.mp taken
    all_goals
      simp only [backlog, List.length_append, List.length_singleton]
      omega
  | statusRead position answer =>
    obtain ⟨wearList, found, rfl⟩ := step_statusRead_iff.mp taken
    obtain ⟨disk, readings, recorded, outcome, finished⟩ := finish_eq clock store
      { system with waiting := system.waiting.eraseIdx position } wearList (statusOrNone answer)
    have fewer := length_eraseIdx_succ found
    rw [finished]
    simp only [backlog, List.length_append, List.length_singleton]
    omega
  | callback position =>
    obtain ⟨outcome, found, rfl⟩ := step_callback_iff.mp taken
    have fewer := length_eraseIdx_succ found
    simp only [backlog]
    omega

/-- Whatever is pending can go on, and comes to its end in whatever order it does. -/
theorem drains (clock : ℕ → Date) (store : SqliteHistoryStore) (system : BatterySystem) :
    Drains (step clock store) Proceeds backlog system where
  enabled pending := by
    by_cases timers : system.timers = 0
    · by_cases asking : system.asking = 0
      · by_cases waiting : system.waiting = []
        · have ended : system.ended ≠ [] := by
            rintro none
            simp [backlog, timers, asking, waiting, none] at pending
          obtain ⟨outcome, rest, same⟩ := List.exists_cons_of_ne_nil ended
          exact ⟨.callback 0, _, trivial, step_callback_iff.mpr ⟨outcome, by simp [same], rfl⟩⟩
        · obtain ⟨wearList, rest, same⟩ := List.exists_cons_of_ne_nil waiting
          exact ⟨.statusRead 0 (.ok []), _, trivial,
            step_statusRead_iff.mpr ⟨wearList, by simp [same], rfl⟩⟩
      · exact ⟨.wearRead (.ok []), _, trivial,
          step_wearRead_iff.mpr ⟨asking, .inr ⟨[], rfl, rfl⟩⟩⟩
    · exact ⟨.timerFired, _, trivial, step_timerFired_iff.mpr ⟨timers, rfl⟩⟩
  falls _ _ proceeds taken := backlog_step proceeds taken

/-- In every state of the opened page the flag, the timer and the loading state agree with
what is under way. All pending work comes to an end in whatever order it goes on, and then
every change of a status was followed by a gather, and the page is not loading. -/
theorem battery_page_settles (clock : ℕ → Date) (store : SqliteHistoryStore) (disk : Disk)
    (events : List BatteryEvent) (system : BatterySystem)
    (ran : runFrom (step clock store) (opened disk) events = some system) :
    system.Consistent ∧ Drains (step clock store) Proceeds backlog system ∧
      ∃ more last, (∀ event ∈ more, Proceeds event) ∧
        runFrom (step clock store) system more = some last ∧ last.timers = 0 ∧
        last.gathers = 0 ∧ last.vm.state ≠ .loading ∧
        Answered LogEntry.changed LogEntry.gatherSubmitted last.log := by
  have consistent : system.Consistent :=
    invariant_runFrom (fun _ _ _ => consistent_step) (consistent_opened disk) ran
  refine ⟨consistent, drains clock store system, ?_⟩
  obtain ⟨more, last, proceed, goes, nothing, kept⟩ :=
    exists_drained (fun _ _ _ (kept : Consistent _) _ => consistent_step kept)
      (fun s _ => drains clock store s) consistent
  have idle : last.timers = 0 ∧ last.gathers = 0 := by
    unfold backlog at nothing
    unfold gathers
    omega
  exact ⟨more, last, proceed, goes, idle.1, idle.2, fun loading => kept.loading loading idle.2,
    kept.covered idle.1⟩

def firstOfJuly : Date := ⟨2026, 7, 1, by decide, by decide, by decide⟩

def secondOfJuly : Date := ⟨2026, 7, 2, by decide, by decide, by decide⟩

/-- Two changes, of which the second comes while the timer runs. -/
theorem battery_page_settles_changed :
    let step := step (fun _ => firstOfJuly) ⟨"history.db"⟩
    ∃ system, runFrom step (opened fun _ => none)
        [.statusChanged, .statusChanged, .timerFired] = some system ∧
      system.Consistent ∧ Drains step Proceeds backlog system ∧
        ∃ more last, (∀ event ∈ more, Proceeds event) ∧
          runFrom step system more = some last ∧ last.timers = 0 ∧
          last.gathers = 0 ∧ last.vm.state ≠ .loading ∧
          Answered LogEntry.changed LogEntry.gatherSubmitted last.log :=
  ⟨_, rfl, battery_page_settles (fun _ => firstOfJuly) ⟨"history.db"⟩ (fun _ => none)
    [.statusChanged, .statusChanged, .timerFired] _ rfl⟩

end Settles

end BatterySystem

/-! ### What a status is seen in -/

/-- The card without the two texts that a status makes. -/
def BatteryCard.withoutStatus (card : BatteryCard) : BatteryCard :=
  { card with chargeText := placeholder, timeText := "" }

def BatteryData.withoutStatus (data : BatteryData) : BatteryData :=
  { data with statusList := none }

/-- The page without those texts, and without the note. -/
def BatteryViewModel.withoutStatus (vm : BatteryViewModel) : BatteryViewModel :=
  { vm with statusNote := "", cards := vm.cards.map BatteryCard.withoutStatus }

@[simp] theorem BatteryCard.withoutStatus_withStatus (card : BatteryCard)
    (status : Option BatteryStatus) :
    (card.withStatus status).withoutStatus = card.withoutStatus := by
  cases status <;> rfl

@[simp] theorem BatteryCard.withoutStatus_withoutStatus (card : BatteryCard) :
    card.withoutStatus.withoutStatus = card.withoutStatus := rfl

@[simp] theorem BatteryData.withoutStatus_card (data : BatteryData) (wear : BatteryWear) :
    (data.withoutStatus.card wear).withoutStatus = (data.card wear).withoutStatus := by
  simp [BatteryData.card, BatteryData.withoutStatus, BatteryData.historyOf]

namespace BatteryViewModel

@[simp] theorem map_withoutStatus (cards : List BatteryCard) :
    (cards.map BatteryCard.withoutStatus).map BatteryCard.withoutStatus =
      cards.map BatteryCard.withoutStatus := by
  simp [List.map_map, Function.comp_def]

@[simp] theorem withoutStatus_withoutStatus (vm : BatteryViewModel) :
    vm.withoutStatus.withoutStatus = vm.withoutStatus := by
  simp [withoutStatus]

/-- A callback leaves the same to see of data without its status. -/
theorem withoutStatus_complete (vm : BatteryViewModel)
    (outcome : Except PyException BatteryData) :
    (vm.withoutStatus.complete (outcome.map BatteryData.withoutStatus)).withoutStatus =
      (vm.complete outcome).withoutStatus := by
  cases outcome with
  | error e =>
    simp only [Except.map, complete, withoutStatus, map_withoutStatus]
  | ok data =>
    simp only [Except.map, complete, apply]
    by_cases nothing : data.wearList = []
    · rw [if_pos nothing, if_pos (show data.withoutStatus.wearList = [] from nothing)]
      simp [withoutStatus]
    · rw [if_neg nothing, if_neg (show data.withoutStatus.wearList ≠ [] from nothing)]
      simp [withoutStatus, List.map_map, Function.comp_def]
      rfl

end BatteryViewModel

namespace BatterySystem

/-- What is left of a gather that ended. -/
def hide (outcome : Except PyException BatteryData) : Except PyException BatteryData :=
  outcome.map BatteryData.withoutStatus

@[simp] theorem hide_hide (outcome : Except PyException BatteryData) :
    hide (hide outcome) = hide outcome := by
  cases outcome <;> rfl

@[simp] theorem hide_error (e : PyException) : hide (.error e) = .error e := rfl

@[simp] theorem map_hide_map_hide (ended : List (Except PyException BatteryData)) :
    (ended.map hide).map hide = ended.map hide := by
  simp [List.map_map, Function.comp_def]

/-- What is left of the system without what only a status decides. The databases, the
gathers and the timer are all there. -/
def view (system : BatterySystem) : BatterySystem :=
  { system with
    vm := system.vm.withoutStatus
    ended := system.ended.map hide }

/-- The event with an empty list in the place of every status, and of every error that the
page answers with its note. -/
def look : BatteryEvent → BatteryEvent
  | .statusRead position (.ok _) | .statusRead position (.error (.lapcare _)) =>
      .statusRead position (.ok [])
  | event => event

@[simp] theorem look_look (event : BatteryEvent) : look (look event) = look event := by
  cases event with
  | statusRead position answer =>
    cases answer with
    | ok statuses => rfl
    | error e => cases e <;> rfl
  | load | statusChanged | timerFired | wearRead | callback => rfl

section Confined

variable (clock : ℕ → Date) (store : SqliteHistoryStore)

@[simp] theorem view_view (system : BatterySystem) : system.view.view = system.view := by
  simp [view]

/-- What a gather leaves to see does not depend on the status. -/
theorem view_finish (system : BatterySystem) (wearList : List BatteryWear)
    (statusList statusList' : Option (List BatteryStatus)) :
    (system.finish clock store wearList (.ok statusList)).view =
      (system.view.finish clock store wearList (.ok statusList')).view := by
  have same (outcome : Except PyException Unit) (histories : List (String × Chart)) :
      hide (outcome.map fun _ => { wearList, statusList, histories }) =
        hide (outcome.map fun _ => { wearList, statusList := statusList', histories }) := by
    cases outcome <;> rfl
  simp only [finish, view, List.map_append, map_hide_map_hide, List.map_singleton, same,
    BatteryViewModel.withoutStatus_withoutStatus]

theorem view_finish_error (system : BatterySystem) (wearList : List BatteryWear)
    (e : PyException) : (system.finish clock store wearList (.error e)).view =
      (system.view.finish clock store wearList (.error e)).view := by
  simp [finish, view]

/-- One step leaves the same to see with an empty list for the status. -/
theorem view_step (system : BatterySystem) (event : BatteryEvent) :
    (system.step clock store event).map view =
      (system.view.step clock store (look event)).map view := by
  cases event with
  | load =>
    simp [step, look, after, perform, view, BatteryViewModel.load,
      BatteryViewModel.withoutStatus, PageViewModel.showLoading]
  | statusChanged =>
    -- the flag is there to see
    have flag : system.view.vm.reloadPending = system.vm.reloadPending := rfl
    simp only [step, look, BatteryViewModel.onStatusChanged, flag]
    split_ifs <;> simp [after, perform, view, BatteryViewModel.withoutStatus]
  | timerFired =>
    simp only [step, look]
    by_cases idle : system.timers = 0
    · simp [idle, view]
    · simp [idle, view, after, perform, BatteryViewModel.reload, BatteryViewModel.withoutStatus]
  | wearRead answer =>
    simp only [step, look]
    by_cases none : system.asking = 0
    · simp [none, view]
    · cases answer <;> simp [none, view]
  | statusRead position answer =>
    have waiting : system.view.waiting = system.waiting := rfl
    cases found : system.waiting[position]? with
    | none => cases answer with
      | ok statuses => simp [step, look, waiting, found]
      | error e => cases e <;> simp [step, look, waiting, found]
    | some wearList =>
      cases answer with
      | ok statuses =>
        simp only [step, look, waiting, found, statusOrNone, Option.map_some]
        exact congrArg some (view_finish clock store _ wearList _ _)
      | error e =>
        cases e with
        | lapcare error =>
          simp only [step, look, waiting, found, statusOrNone, Option.map_some]
          exact congrArg some (view_finish clock store _ wearList _ _)
        | foreign className detail =>
          simp only [step, look, waiting, found, statusOrNone, Option.map_some]
          exact congrArg some (view_finish_error clock store _ wearList _)
  | callback position =>
    have ended : system.view.ended[position]? = system.ended[position]?.map hide :=
      List.getElem?_map ..
    simp only [step, look, ended]
    cases found : system.ended[position]? with
    | none => rfl
    | some outcome =>
      have shown : (system.vm.withoutStatus.complete (hide outcome)).withoutStatus =
        (system.vm.complete outcome).withoutStatus := system.vm.withoutStatus_complete outcome
      simp [view, shown, List.eraseIdx_map]

/-- What UPower says of the batteries, and whether it answers at all, is seen in the charge
and time texts and in the note, and nowhere else: every run leaves the page, the databases
and the pending work as they are after the run in which every status is an empty list. -/
theorem battery_status_confined (disk : Disk) (events : List BatteryEvent) :
    (runFrom (step clock store) (opened disk) events).map view =
      (runFrom (step clock store) (opened disk) (events.map look)).map view := by
  have unwinds (system system' : BatterySystem) (event event' : BatteryEvent) (_ _ : True)
      (same : view system = view system') (looks : look event = look event') :
      (step clock store system event).map view = (step clock store system' event').map view := by
    rw [view_step, view_step clock store system', same, looks]
  apply runFrom_alike (fun _ _ _ _ _ => trivial) unwinds trivial trivial rfl
  simp [List.map_map, Function.comp_def]

end Confined

end BatterySystem

end Lapcare.Pages
