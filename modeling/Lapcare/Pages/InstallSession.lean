import Mathlib.Algebra.Ring.Nat
import Mathlib.Data.List.InsertIdx
import Lapcare.Pages.FirmwareInstall
import Lapcare.Providers.FwupdLibrary

/-!
# Installs between the page and fwupd

The firmware page together with the coroutines of `FwupdGir.install` that it submitted, and
with the callback to which the provider forwards progress. An install is looked up, then
flashed in a thread, then it has ended, and some time later its callback runs on the page.
Change and progress signals come at any time.

## Main results

* `install_session_orderly` — the installs of every run, one after another, each flashed at
  most once and only with enough charge
* `install_session_settles` — no install is left hanging
-/

namespace Lapcare.Pages

open Lapcare.Core Semantics Providers

/-- How far the coroutine of an install is. -/
inductive InstallStage
  | submitted
  | flashing
  | ended (outcome : Except PyException Unit)

structure InstallTask where
  deviceId : String
  release : FirmwareRelease
  stage : InstallStage := .submitted

/-- What is remembered of installs: that one was accepted, what was handed to fwupd for it,
and that its end was reported to the page. -/
inductive InstallEntry
  | accepted (deviceId : String) (release : FirmwareRelease) (level threshold : Option Int)
  | flashed (device : LiveDevice) (release : LiveRelease) (offered : List LiveRelease)
  | reported (outcome : Except PyException Unit)

/-- The page, the installs under way, whether the provider has a callback for progress
(`_on_progress`), and what happened so far. -/
structure InstallSession where
  page : FirmwareSystem
  tasks : List InstallTask := []
  listening : Bool := false
  history : List InstallEntry := []

/-- What can happen next. An install is named by its position among those under way. -/
inductive SessionEvent
  | elsewhere (event : FirmwareEvent)
  | requestInstall (deviceId : String) (release : FirmwareRelease)
      (reply : Except GLibError BatteryProps)
  | begins (position : ℕ) (client : FwupdClient)
  | flashEnds (position : ℕ) (result : Except ClientError Unit)
  | propertiesChanged (changed : ChangedProps)
  | callback (position : ℕ)

/-- The events of the page that an install session brings about itself. -/
def FirmwareEvent.ofInstall : FirmwareEvent → Bool
  | .requestInstall .. | .progress .. | .installDone _ | .installFailed .. => true
  | .load | .changed | .timerFired | .refreshMetadata | .gatherDone _ | .gatherFailed _
  | .refreshDone | .refreshFailed _ => false

/-- What the first `try` block of `install` leads to, as far as the provider knows the library. -/
inductive Begun
  | flashes (device : LiveDevice) (release : LiveRelease) (offered : List LiveRelease)
  | ends (e : PyException)

/-- `install` up to its thread. -/
def InstallTask.begun (task : InstallTask) (client : FwupdClient) : Begun :=
  match client.resolve task.deviceId task.release.version with
  | .error e => .ends (e.translate fun _ => fwupdUnavailable)
  | .ok (_, none) =>
      let version := task.release.version
      .ends (.lapcare (.firmwareInstallFailed task.deviceId
        s!"release {version} no longer offered"))
  | .ok (device, some release) =>
      .flashes device release ((client.getUpgrades task.deviceId).toOption.getD [])

/-- The end of the thread of `install`. -/
def InstallTask.outcome (task : InstallTask) (result : Except ClientError Unit) :
    Except PyException Unit :=
  result.mapError (ClientError.translate (translateInstallError task.deviceId))

/-- The page's event for an install that ended. -/
def endEvent (position : ℕ) : Except PyException Unit → FirmwareEvent
  | .ok () => .installDone position
  | .error e => .installFailed position e

namespace InstallSession

/-- The installs that a method of the page submits. -/
def submissions (effects : List Effect) : List InstallTask :=
  effects.filterMap fun
    | .submitInstall deviceId release => some { deviceId, release }
    | .submitGather | .submitRefresh | .startTimer _ => none

/-- `request_install`, with the answer of `battery_precondition`. -/
def request (session : InstallSession) (deviceId : String) (release : FirmwareRelease)
    (charge : Option Int × Option Int) : InstallSession :=
  let result := session.page.vm.requestInstall deviceId release charge.1 charge.2
  { session with
    page := session.page.after result
    tasks := session.tasks ++ submissions result.2
    history := session.history ++ (submissions result.2).map fun task =>
      .accepted task.deviceId task.release charge.1 charge.2 }

/-- One event, when it can happen. -/
def step (casing : Casing) (nick : ℕ → String) (session : InstallSession) :
    SessionEvent → Option InstallSession
  | .elsewhere event =>
      if event.ofInstall then none
      else (session.page.step casing event).map fun page => { session with page }
  | .requestInstall deviceId release reply =>
      some (session.request deviceId release (FwupdGir.batteryPrecondition reply))
  | .begins position client =>
      match session.tasks[position]? with
      | some ⟨deviceId, release, .submitted⟩ =>
          let task : InstallTask := ⟨deviceId, release, .submitted⟩
          match task.begun client with
          | .flashes device live offered =>
              some { session with
                tasks := session.tasks.set position { task with stage := .flashing }
                -- the callback is set before the thread starts
                listening := true
                history := session.history ++ [.flashed device live offered] }
          | .ends e =>
              some { session with
                tasks := session.tasks.set position { task with stage := .ended (.error e) } }
      | _ => none
  | .flashEnds position result =>
      match session.tasks[position]? with
      | some ⟨deviceId, release, .flashing⟩ =>
          let task : InstallTask := ⟨deviceId, release, .flashing⟩
          some { session with
            tasks := session.tasks.set position { task with stage := .ended (task.outcome result) }
            listening := false }
      | _ => none
  | .propertiesChanged changed =>
      match session.listening, forwarded nick changed with
      | true, some (percentage, status) =>
          (session.page.step casing (.progress percentage status)).map fun page =>
            { session with page }
      | _, _ => some session
  | .callback position =>
      match session.tasks[position]? with
      | some ⟨_, _, .ended outcome⟩ =>
          (session.page.step casing (endEvent position outcome)).map fun page =>
            { session with
              page
              tasks := session.tasks.eraseIdx position
              history := session.history ++ [.reported outcome] }
      | _ => none

/-- A page that was loaded, before anything was installed. -/
def opened (data : List Gathered) : InstallSession where
  page := .loaded data

end InstallSession

/-- The two halves of `install`, against a library that does not change in between. -/
theorem install_eq_begun (client : FwupdClient) (task : InstallTask) :
    client.install task.deviceId task.release.version =
      match task.begun client with
      | .ends e => .error e
      | .flashes device live _ => task.outcome (client.installRelease device live) := by
  unfold FwupdClient.install InstallTask.begun InstallTask.outcome
  rcases client.resolve task.deviceId task.release.version with e | ⟨device, _ | release⟩ <;> rfl

/-! ### The order of things -/

deriving instance DecidableEq for LiveRelease

/-- Where one install after another stands. -/
inductive InstallPhase
  | idle
  | accepted (deviceId : String) (release : FirmwareRelease)
  | flashing (deviceId : String) (release : FirmwareRelease)

namespace InstallPhase

/-- An install is accepted when there is none and the battery allows it. It may be flashed
once, with a release of the version that was asked for and that fwupd still offers. Without
a flash it can only fail. -/
def advance : InstallPhase → InstallEntry → Option InstallPhase
  | .idle, .accepted deviceId release level threshold =>
      if batteryOkForUpdate level threshold then some (.accepted deviceId release) else none
  | .accepted deviceId release, .flashed _ live offered =>
      if live ∈ offered ∧ live.version = some release.version then
        some (.flashing deviceId release)
      else none
  | .accepted _ _, .reported (.error _) => some .idle
  | .flashing _ _, .reported _ => some .idle
  | _, _ => none

/-- The installs under way, in each phase. -/
def Stands : InstallPhase → List InstallTask → Prop
  | .idle, tasks => tasks = []
  | .accepted deviceId release, tasks => ∃ stage, tasks = [⟨deviceId, release, stage⟩] ∧
      (stage = .submitted ∨ ∃ e, stage = .ended (.error e))
  | .flashing deviceId release, tasks => ∃ stage, tasks = [⟨deviceId, release, stage⟩] ∧
      (stage = .flashing ∨ ∃ outcome, stage = .ended outcome)

variable {phase : InstallPhase} {task : InstallTask}

theorem Stands.of_nil (stands : phase.Stands []) : phase = .idle := by
  cases phase with
  | idle => rfl
  | accepted | flashing =>
    obtain ⟨stage, same, -⟩ := stands
    cases same

theorem Stands.of_submitted (stands : phase.Stands [task]) (submitted : task.stage = .submitted) :
    phase = .accepted task.deviceId task.release := by
  cases phase with
  | idle => cases stands
  | accepted deviceId release =>
    obtain ⟨stage, same, -⟩ := stands
    rw [(List.cons.inj same).1]
  | flashing deviceId release =>
    obtain ⟨stage, same, flashing | ⟨outcome, ended⟩⟩ := stands
    · rw [(List.cons.inj same).1, flashing] at submitted
      cases submitted
    · rw [(List.cons.inj same).1, ended] at submitted
      cases submitted

theorem Stands.of_flashing (stands : phase.Stands [task]) (flashing : task.stage = .flashing) :
    phase = .flashing task.deviceId task.release := by
  cases phase with
  | idle => cases stands
  | accepted deviceId release =>
    obtain ⟨stage, same, submitted | ⟨e, ended⟩⟩ := stands
    · rw [(List.cons.inj same).1, submitted] at flashing
      cases flashing
    · rw [(List.cons.inj same).1, ended] at flashing
      cases flashing
  | flashing deviceId release =>
    obtain ⟨stage, same, -⟩ := stands
    rw [(List.cons.inj same).1]

/-- An install that ended may be reported: without a flash it has failed. -/
theorem Stands.reports (stands : phase.Stands [task]) {outcome : Except PyException Unit}
    (ended : task.stage = .ended outcome) : phase.advance (.reported outcome) = some .idle := by
  cases phase with
  | idle => cases stands
  | accepted deviceId release =>
    obtain ⟨stage, same, submitted | ⟨e, failed⟩⟩ := stands
    · rw [(List.cons.inj same).1, submitted] at ended
      cases ended
    · rw [(List.cons.inj same).1, failed] at ended
      obtain rfl := InstallStage.ended.inj ended
      rfl
  | flashing deviceId release => rfl

end InstallPhase

/-! ### What the library offers -/

/-- A release is flashed only if it is offered, in the version that was asked for. -/
theorem begun_flashes {client : FwupdClient} {task : InstallTask} {device : LiveDevice}
    {live : LiveRelease} {offered : List LiveRelease}
    (flashes : task.begun client = .flashes device live offered) :
    live ∈ offered ∧ live.version = some task.release.version := by
  unfold InstallTask.begun FwupdClient.resolve at flashes
  cases found : client.getDeviceById task.deviceId with
  | error e => simp [found, bind, Except.bind] at flashes
  | ok known =>
    cases answer : client.getUpgrades task.deviceId with
    | error e => simp [found, answer, bind, Except.bind] at flashes
    | ok upgrades =>
      simp only [found, answer, bind, Except.bind, pure, Except.pure] at flashes
      cases match_ : upgrades.find? (·.version == some task.release.version) with
      | none => simp [match_] at flashes
      | some release =>
        simp only [match_, Begun.flashes.injEq] at flashes
        obtain ⟨-, rfl, rfl⟩ := flashes
        refine ⟨List.mem_of_find?_eq_some match_, ?_⟩
        simpa using List.find?_some match_

namespace InstallSession

section Inversion

variable {casing : Casing} {nick : ℕ → String} {session later : InstallSession} {position : ℕ}

theorem step_elsewhere_iff {event : FirmwareEvent} :
    session.step casing nick (.elsewhere event) = some later ↔
      event.ofInstall = false ∧ ∃ page, session.page.step casing event = some page ∧
        { session with page } = later := by
  simp only [step, Option.ite_none_left_eq_some, Option.map_eq_some_iff, Bool.not_eq_true]

theorem step_begins_iff {client : FwupdClient} :
    session.step casing nick (.begins position client) = some later ↔
      ∃ task, session.tasks[position]? = some task ∧ task.stage = .submitted ∧
        ((∃ device live offered, task.begun client = .flashes device live offered ∧
          { session with
            tasks := session.tasks.set position { task with stage := .flashing }
            listening := true
            history := session.history ++ [.flashed device live offered] } = later) ∨
        ∃ e, task.begun client = .ends e ∧
          { session with
            tasks := session.tasks.set position { task with stage := .ended (.error e) } } =
            later) := by
  rw [step]
  rcases session.tasks[position]? with _ | ⟨deviceId, release, _ | _ | outcome⟩
  · simp
  · rcases begun : InstallTask.begun ⟨deviceId, release, .submitted⟩ client with
      ⟨device, live, offered⟩ | e <;> simp [begun]
  · simp
  · simp

theorem step_flashEnds_iff {result : Except ClientError Unit} :
    session.step casing nick (.flashEnds position result) = some later ↔
      ∃ task, session.tasks[position]? = some task ∧ task.stage = .flashing ∧
        { session with
          tasks := session.tasks.set position { task with stage := .ended (task.outcome result) }
          listening := false } = later := by
  rw [step]
  rcases session.tasks[position]? with _ | ⟨deviceId, release, _ | _ | outcome⟩ <;> simp

theorem step_callback_iff :
    session.step casing nick (.callback position) = some later ↔
      ∃ task outcome page, session.tasks[position]? = some task ∧
        task.stage = .ended outcome ∧
        session.page.step casing (endEvent position outcome) = some page ∧
        { session with
          page
          tasks := session.tasks.eraseIdx position
          history := session.history ++ [.reported outcome] } = later := by
  rw [step]
  rcases session.tasks[position]? with _ | ⟨deviceId, release, _ | _ | outcome⟩ <;> simp

/-- A progress signal is passed on to the page, or nothing comes of it. -/
theorem step_propertiesChanged {changed : ChangedProps}
    (taken : session.step casing nick (.propertiesChanged changed) = some later) :
    later = session ∨ session.listening = true ∧ ∃ percentage status,
      forwarded nick changed = some (percentage, status) ∧
        { session with
          page := { session.page with
            vm := session.page.vm.onProgress casing percentage status } } = later := by
  rw [step] at taken
  rcases listens : session.listening with _ | _
  · rw [listens] at taken
    exact .inl (Option.some.inj taken).symm
  · rcases told : forwarded nick changed with _ | ⟨percentage, status⟩
    · rw [listens, told] at taken
      exact .inl (Option.some.inj taken).symm
    · rw [listens, told] at taken
      exact .inr ⟨rfl, percentage, status, rfl, Option.some.inj taken⟩

end Inversion

/-! ### What the page adds to the installs -/

/-- A request has one effect or none, and it has one only on a quiet page with enough charge. -/
theorem requestInstall_effects (vm : FirmwareViewModel) (deviceId : String)
    (release : FirmwareRelease) (level threshold : Option Int) :
    (vm.requestInstall deviceId release level threshold).2 = [] ∨
      vm.busyText = "" ∧ batteryOkForUpdate level threshold = true ∧
        (vm.requestInstall deviceId release level threshold).2 =
          [.submitInstall deviceId release] := by
  unfold FirmwareViewModel.requestInstall
  split_ifs with busy charged
  · exact .inl rfl
  · exact .inr ⟨not_not.mp busy, charged, rfl⟩
  · exact .inl rfl

theorem installs_elsewhere {casing : Casing} {page later : FirmwareSystem}
    {event : FirmwareEvent} (outside : event.ofInstall = false)
    (taken : page.step casing event = some later) : later.installs = page.installs := by
  cases event with
  | requestInstall | progress | installDone | installFailed => cases outside
  | load =>
    obtain rfl := Option.some.inj taken
    rfl
  | changed =>
    obtain rfl := Option.some.inj taken
    refine FirmwareSystem.after_installs _ fun deviceId release => ?_
    unfold FirmwareViewModel.onChanged
    split_ifs <;> simp
  | timerFired =>
    obtain ⟨-, rfl⟩ := FirmwareSystem.step_timerFired_iff.mp taken
    refine FirmwareSystem.after_installs _ fun deviceId release => ?_
    unfold FirmwareViewModel.reload
    split_ifs <;> simp
  | refreshMetadata =>
    obtain rfl := Option.some.inj taken
    refine FirmwareSystem.after_installs _ fun deviceId release => ?_
    unfold FirmwareViewModel.refreshMetadata
    split_ifs <;> simp
  | gatherDone =>
    obtain ⟨-, rfl⟩ := FirmwareSystem.step_gatherDone_iff.mp taken
    rfl
  | gatherFailed =>
    obtain ⟨-, rfl⟩ := FirmwareSystem.step_gatherFailed_iff.mp taken
    rfl
  | refreshDone =>
    obtain ⟨-, rfl⟩ := FirmwareSystem.step_refreshDone_iff.mp taken
    rfl
  | refreshFailed =>
    obtain ⟨-, rfl⟩ := FirmwareSystem.step_refreshFailed_iff.mp taken
    rfl

/-- The end of an install takes it from the page, whatever the end is. -/
theorem installs_endEvent {casing : Casing} {page later : FirmwareSystem} {position : ℕ}
    {outcome : Except PyException Unit}
    (taken : page.step casing (endEvent position outcome) = some later) :
    later.installs = page.installs.eraseIdx position := by
  cases outcome with
  | ok =>
    obtain ⟨release, -, rfl⟩ := FirmwareSystem.step_installDone_iff.mp taken
    rfl
  | error e =>
    obtain ⟨release, -, rfl⟩ := FirmwareSystem.step_installFailed_iff.mp taken
    refine FirmwareSystem.after_installs _ fun deviceId release => ?_
    rcases FirmwareSystem.installFailed_effects page.vm e with ⟨effects, -⟩ | ⟨effects, -⟩ <;>
      simp [effects]

/-! ### One install after another -/

/-- The page is consistent and knows the installs under way, the provider listens exactly
while one of them is flashed, and they stand where the history left them. -/
structure Sound (session : InstallSession) : Prop where
  consistent : session.page.Consistent
  known : session.page.installs = session.tasks.map (·.release)
  listens : session.listening = true ↔ ∃ task ∈ session.tasks, task.stage = .flashing
  orderly : ∃ phase, runFrom InstallPhase.advance .idle session.history = some phase ∧
    phase.Stands session.tasks

theorem sound_opened (data : List Gathered) : (opened data).Sound where
  consistent := FirmwareSystem.consistent_loaded data
  known := by
    change (FirmwareSystem.loaded data).installs = []
    rfl
  listens := by simp [opened]
  orderly := ⟨.idle, rfl, rfl⟩

section Steps

variable {casing : Casing} {nick : ℕ → String} {session later : InstallSession} {position : ℕ}

/-- There is one install at most. -/
theorem Sound.single (sound : session.Sound) {task : InstallTask}
    (found : session.tasks[position]? = some task) : session.tasks = [task] ∧ position = 0 := by
  have few : session.tasks.length ≤ 1 := by
    have single := sound.consistent.single
    rw [sound.known, List.length_map] at single
    omega
  obtain ⟨inside, own⟩ := List.getElem?_eq_some_iff.mp found
  obtain rfl : position = 0 := by omega
  obtain ⟨only, one⟩ := List.length_eq_one_iff.mp (by omega : session.tasks.length = 1)
  simp only [one, List.getElem_cons_zero] at own
  rw [one, own]
  exact ⟨rfl, rfl⟩

/-- A further entry of the history. -/
theorem runFrom_entry {history : List InstallEntry} {phase next : InstallPhase}
    {entry : InstallEntry} (past : runFrom InstallPhase.advance .idle history = some phase)
    (moves : phase.advance entry = some next) :
    runFrom InstallPhase.advance .idle (history ++ [entry]) = some next := by
  rw [runFrom_concat, past]
  exact moves

/-- A step of the page that leaves the installs alone. -/
theorem Sound.of_page (sound : session.Sound) {page : FirmwareSystem}
    (consistent : page.Consistent) (same : page.installs = session.page.installs) :
    ({ session with page } : InstallSession).Sound where
  consistent := consistent
  known := same.trans sound.known
  listens := sound.listens
  orderly := sound.orderly

theorem sound_request (sound : session.Sound) (deviceId : String) (release : FirmwareRelease)
    (charge : Option Int × Option Int) : (session.request deviceId release charge).Sound := by
  have consistent :=
    FirmwareSystem.consistent_requestInstall sound.consistent deviceId release charge.1 charge.2
  rcases requestInstall_effects session.page.vm deviceId release charge.1 charge.2 with
    none_ | ⟨quiet, charged, one⟩
  · have silent (deviceId' : String) (release' : FirmwareRelease) :
        .submitInstall deviceId' release' ∉
          (session.page.vm.requestInstall deviceId release charge.1 charge.2).2 := by
      simp [none_]
    have same : session.request deviceId release charge =
        { session with page := (session.request deviceId release charge).page } := by
      simp [request, submissions, none_]
    rw [same]
    exact sound.of_page consistent (FirmwareSystem.after_installs _ silent)
  · -- nothing is under way on a quiet page
    have free := sound.consistent.free (by simp [quiet])
    have nothing : session.tasks = [] := by
      rw [sound.known, List.length_map] at free
      exact List.length_eq_zero_iff.mp (by omega)
    obtain ⟨phase, past, stands⟩ := sound.orderly
    rw [nothing] at stands
    obtain rfl := stands.of_nil
    have installs : (session.request deviceId release charge).page.installs =
        session.page.installs ++ [release] := by
      rw [request, FirmwareSystem.after, one]
      rfl
    refine ⟨consistent, ?_, ?_, .accepted deviceId release, ?_, ?_⟩
    · change _ = (session.tasks ++ submissions _).map _
      rw [installs, sound.known, one]
      simp [submissions]
    · change session.listening = true ↔ ∃ task ∈ session.tasks ++ submissions _, _
      rw [sound.listens, one, nothing]
      simp [submissions]
    · change runFrom _ _ (session.history ++ (submissions _).map _) = _
      rw [one]
      exact runFrom_entry past (if_pos charged)
    · change InstallPhase.Stands _ (session.tasks ++ submissions _)
      rw [one, nothing]
      exact ⟨.submitted, rfl, .inl rfl⟩

theorem sound_begins (sound : session.Sound) {client : FwupdClient}
    (taken : session.step casing nick (.begins position client) = some later) : later.Sound := by
  obtain ⟨task, found, submitted, ways⟩ := step_begins_iff.mp taken
  obtain ⟨only, rfl⟩ := sound.single found
  obtain ⟨phase, past, stands⟩ := sound.orderly
  rw [only] at stands
  obtain rfl := stands.of_submitted submitted
  rcases ways with ⟨device, live, offered, flashes, rfl⟩ | ⟨e, ends, rfl⟩
  · refine ⟨sound.consistent, ?_, ?_, .flashing task.deviceId task.release, ?_, ?_⟩
    · rw [sound.known, only]
      rfl
    · simp [only]
    · exact runFrom_entry past (if_pos (begun_flashes flashes))
    · exact ⟨.flashing, by simp [only], .inl rfl⟩
  · have silent : session.listening ≠ true := by
      rw [Ne, sound.listens, only]
      simp [submitted]
    refine ⟨sound.consistent, ?_, ?_, .accepted task.deviceId task.release, past, ?_⟩
    · rw [sound.known, only]
      rfl
    · simp [only, silent]
    · exact ⟨.ended (.error e), by simp [only], .inr ⟨e, rfl⟩⟩

theorem sound_flashEnds (sound : session.Sound) {result : Except ClientError Unit}
    (taken : session.step casing nick (.flashEnds position result) = some later) :
    later.Sound := by
  obtain ⟨task, found, flashing, rfl⟩ := step_flashEnds_iff.mp taken
  obtain ⟨only, rfl⟩ := sound.single found
  obtain ⟨phase, past, stands⟩ := sound.orderly
  rw [only] at stands
  obtain rfl := stands.of_flashing flashing
  refine ⟨sound.consistent, ?_, ?_, .flashing task.deviceId task.release, past, ?_⟩
  · rw [sound.known, only]
    rfl
  · simp [only]
  · exact ⟨.ended (task.outcome result), by simp [only], .inr ⟨_, rfl⟩⟩

theorem sound_callback (sound : session.Sound)
    (taken : session.step casing nick (.callback position) = some later) : later.Sound := by
  obtain ⟨task, outcome, page, found, ended, turned, rfl⟩ := step_callback_iff.mp taken
  obtain ⟨only, rfl⟩ := sound.single found
  obtain ⟨phase, past, stands⟩ := sound.orderly
  rw [only] at stands
  refine ⟨FirmwareSystem.consistent_step sound.consistent turned, ?_, ?_, .idle, ?_, ?_⟩
  · rw [installs_endEvent turned, sound.known, List.eraseIdx_map]
  · rw [sound.listens, only]
    simp [ended]
  · exact runFrom_entry past (stands.reports ended)
  · simp [only, InstallPhase.Stands]

theorem sound_step {event : SessionEvent} (sound : session.Sound)
    (taken : session.step casing nick event = some later) : later.Sound := by
  cases event with
  | elsewhere event =>
    obtain ⟨outside, page, turned, rfl⟩ := step_elsewhere_iff.mp taken
    exact sound.of_page (FirmwareSystem.consistent_step sound.consistent turned)
      (installs_elsewhere outside turned)
  | requestInstall deviceId release reply =>
    obtain rfl := Option.some.inj taken
    exact sound_request sound deviceId release _
  | begins position client => exact sound_begins sound taken
  | flashEnds position result => exact sound_flashEnds sound taken
  | propertiesChanged changed =>
    rcases step_propertiesChanged taken with rfl | ⟨-, percentage, status, -, rfl⟩
    · exact sound
    · exact sound.of_page
        (FirmwareSystem.consistent_progress sound.consistent casing percentage status) rfl
  | callback position => exact sound_callback sound taken

/-- What the page sees of a step is a step of the page, or nothing. -/
theorem page_step {event : SessionEvent}
    (taken : session.step casing nick event = some later) :
    later.page = session.page ∨ ∃ own, session.page.step casing own = some later.page := by
  cases event with
  | elsewhere event =>
    obtain ⟨-, page, turned, rfl⟩ := step_elsewhere_iff.mp taken
    exact .inr ⟨event, turned⟩
  | requestInstall deviceId release reply =>
    obtain rfl := Option.some.inj taken
    exact .inr ⟨.requestInstall deviceId release (FwupdGir.batteryPrecondition reply).1
      (FwupdGir.batteryPrecondition reply).2, rfl⟩
  | begins position client =>
    obtain ⟨task, -, -, ⟨device, live, offered, -, rfl⟩ | ⟨e, -, rfl⟩⟩ :=
      step_begins_iff.mp taken
    · exact .inl rfl
    · exact .inl rfl
  | flashEnds position result =>
    obtain ⟨task, -, -, rfl⟩ := step_flashEnds_iff.mp taken
    exact .inl rfl
  | propertiesChanged changed =>
    rcases step_propertiesChanged taken with rfl | ⟨-, percentage, status, -, rfl⟩
    · exact .inl rfl
    · exact .inr ⟨.progress percentage status, rfl⟩
  | callback position =>
    obtain ⟨task, outcome, page, -, -, turned, rfl⟩ := step_callback_iff.mp taken
    exact .inr ⟨endEvent position outcome, turned⟩

theorem sound_of_run {data : List Gathered} {events : List SessionEvent}
    (ran : runFrom (step casing nick) (opened data) events = some session) : session.Sound :=
  invariant_runFrom (fun _ _ _ => sound_step) (sound_opened data) ran

/-- The flag of the page stands for the installs under way. -/
theorem Sound.installing_iff (sound : session.Sound) :
    session.page.vm.installing = true ↔ session.tasks ≠ [] := by
  have length := sound.consistent.installs
  rw [sound.known, List.length_map] at length
  rw [← List.length_pos_iff_ne_nil, length]
  cases session.page.vm.installing <;> decide

end Steps

/-- In every run the page goes through a run of its own, so what holds of the page alone holds
of it here. Installs come one after another: each is accepted on a charge that allows it, is
flashed at most once, with a release of the version asked for that fwupd still offers, and is
reported to the page before the next; an update that is reported as done was flashed. The
provider listens for progress exactly while an install is flashed, and then the page shows it. -/
theorem install_session_orderly (casing : Casing) (nick : ℕ → String) (data : List Gathered)
    (events : List SessionEvent) (session : InstallSession)
    (ran : runFrom (step casing nick) (opened data) events = some session) :
    (∃ own, runFrom (FirmwareSystem.step casing) (.loaded data) own = some session.page) ∧
    (∃ phase, runFrom InstallPhase.advance .idle session.history = some phase ∧
      phase.Stands session.tasks) ∧
    (session.listening = true ↔ ∃ task ∈ session.tasks, task.stage = .flashing) ∧
    (session.listening = true → session.page.vm.installing = true) := by
  have sound := sound_of_run ran
  refine ⟨?_, sound.orderly, sound.listens, fun listens => ?_⟩
  · exact refines_runFrom (fun _ _ _ => sound_step) (fun _ _ _ _ => page_step)
      (sound_opened data) ran
  · obtain ⟨task, member, -⟩ := sound.listens.mp listens
    exact sound.installing_iff.mpr (List.ne_nil_of_mem member)

/-- A library that offers one release of every device. -/
def offeringClient : FwupdClient where
  getDeviceById id := .ok ⟨some id⟩
  getUpgrades _ := .ok [{ version := some FirmwareSystem.biosUpdate.version }]
  installRelease _ _ := .ok ()

/-- An install on a charged battery, up to the middle of its flash. -/
def halfFlashed : List SessionEvent :=
  [.requestInstall "bios" FirmwareSystem.biosUpdate (.ok ⟨some 80, some 30⟩),
    .begins 0 offeringClient, .propertiesChanged ⟨some 50, none⟩]

def writing : ℕ → String := fun _ => "device-write"

theorem install_session_orderly_flashing :
    let casing := FirmwareSystem.asciiCasing
    ∃ session, runFrom (step casing writing) (opened []) halfFlashed = some session ∧
      (∃ own, runFrom (FirmwareSystem.step casing) (.loaded []) own = some session.page) ∧
      (∃ phase, runFrom InstallPhase.advance .idle session.history = some phase ∧
        phase.Stands session.tasks) ∧
      (session.listening = true ↔ ∃ task ∈ session.tasks, task.stage = .flashing) ∧
      (session.listening = true → session.page.vm.installing = true) :=
  ⟨_, rfl, install_session_orderly FirmwareSystem.asciiCasing writing [] halfFlashed _ rfl⟩

/-! ### Every install comes to its end -/

/-- What goes on without the user and without signals. -/
def Proceeds : SessionEvent → Prop
  | .begins .. | .flashEnds .. | .callback _ => True
  | .elsewhere _ | .requestInstall .. | .propertiesChanged _ => False

/-- The steps that an install has before it. -/
def stepsLeft (task : InstallTask) : ℕ :=
  match task.stage with
  | .submitted => 3
  | .flashing => 2
  | .ended _ => 1

def backlog (session : InstallSession) : ℕ :=
  (session.tasks.map stepsLeft).sum

section Settles

variable {casing : Casing} {nick : ℕ → String} {session later : InstallSession}

theorem backlog_eq_zero_iff : session.backlog = 0 ↔ session.tasks = [] := by
  constructor
  · intro nothing
    rcases tasks : session.tasks with _ | ⟨task, rest⟩
    · rfl
    · rw [backlog, tasks, List.map_cons, List.sum_cons, stepsLeft] at nothing
      cases stage : task.stage <;> simp [stage] at nothing
  · intro none_
    rw [backlog, none_]
    rfl

theorem backlog_step (sound : session.Sound) {event : SessionEvent} (proceeds : Proceeds event)
    (taken : session.step casing nick event = some later) : later.backlog < session.backlog := by
  cases event with
  | elsewhere | requestInstall | propertiesChanged => exact proceeds.elim
  | begins position client =>
    obtain ⟨task, found, stage, ⟨device, live, offered, -, rfl⟩ | ⟨e, -, rfl⟩⟩ :=
      step_begins_iff.mp taken
    all_goals
      obtain ⟨only, rfl⟩ := sound.single found
      simp [backlog, only, stepsLeft, stage]
  | flashEnds position result =>
    obtain ⟨task, found, stage, rfl⟩ := step_flashEnds_iff.mp taken
    obtain ⟨only, rfl⟩ := sound.single found
    simp [backlog, only, stepsLeft, stage]
  | callback position =>
    obtain ⟨task, outcome, page, found, stage, -, rfl⟩ := step_callback_iff.mp taken
    obtain ⟨only, rfl⟩ := sound.single found
    simp [backlog, only, stepsLeft, stage]

/-- The page can take the end of an install that it knows. -/
theorem endEvent_enabled {page : FirmwareSystem} {release : FirmwareRelease}
    (known : page.installs[0]? = some release) (outcome : Except PyException Unit) :
    ∃ ended, page.step casing (endEvent 0 outcome) = some ended := by
  cases outcome with
  | ok => exact ⟨_, FirmwareSystem.step_installDone_iff.mpr ⟨release, known, rfl⟩⟩
  | error e => exact ⟨_, FirmwareSystem.step_installFailed_iff.mpr ⟨release, known, rfl⟩⟩

/-- Whatever the library answers, an install can take its next step. -/
theorem exists_step (sound : session.Sound) (pending : session.tasks ≠ []) :
    ∃ event later, Proceeds event ∧ session.step casing nick event = some later := by
  obtain ⟨task, rest, tasks⟩ := List.exists_cons_of_ne_nil pending
  have found : session.tasks[0]? = some task := by rw [tasks]; rfl
  cases stage : task.stage with
  | submitted =>
    -- any answer of the library will do, and one without an offer as well
    let client : FwupdClient := ⟨fun id => .ok ⟨some id⟩, fun _ => .ok [], fun _ _ => .ok ()⟩
    cases begun : task.begun client with
    | flashes device live offered =>
      exact ⟨.begins 0 client, _, trivial,
        step_begins_iff.mpr ⟨task, found, stage, .inl ⟨device, live, offered, begun, rfl⟩⟩⟩
    | ends e =>
      exact ⟨.begins 0 client, _, trivial,
        step_begins_iff.mpr ⟨task, found, stage, .inr ⟨e, begun, rfl⟩⟩⟩
  | flashing =>
    exact ⟨.flashEnds 0 (.ok ()), _, trivial, step_flashEnds_iff.mpr ⟨task, found, stage, rfl⟩⟩
  | ended outcome =>
    have known : session.page.installs[0]? = some task.release := by
      rw [sound.known, List.getElem?_map, found]
      rfl
    obtain ⟨page, turned⟩ : ∃ ended, session.page.step casing (endEvent 0 outcome) = some ended :=
      endEvent_enabled known outcome
    exact ⟨.callback 0, _, trivial,
      step_callback_iff.mpr ⟨task, outcome, page, found, stage, turned, rfl⟩⟩

end Settles

/-- No install is left hanging: whatever fwupd answers, each proceeds to its end and to its
callback, and then the page is free again. -/
theorem install_session_settles (casing : Casing) (nick : ℕ → String)
    (data : List Gathered) (events : List SessionEvent) (session : InstallSession)
    (ran : runFrom (step casing nick) (opened data) events = some session) :
    Drains (step casing nick) Proceeds backlog session ∧
      ∃ more last, (∀ event ∈ more, Proceeds event) ∧
        runFrom (step casing nick) session more = some last ∧ last.tasks = [] ∧
        last.listening = false ∧ last.page.vm.installing = false ∧
        (last.page.vm.busyText ≠ "" ↔ last.page.refreshes = 1) ∧
        runFrom InstallPhase.advance .idle last.history = some .idle := by
  have drains (session : InstallSession) (sound : session.Sound) :
      Drains (step casing nick) Proceeds backlog session :=
    ⟨fun left => exists_step sound (mt backlog_eq_zero_iff.mpr left),
      fun _ _ => backlog_step sound⟩
  have sound := sound_of_run ran
  refine ⟨drains session sound, ?_⟩
  obtain ⟨more, last, proceed, goes, nothing, kept⟩ :=
    exists_drained (fun _ _ _ (kept : Sound _) _ => sound_step kept) drains sound
  have none_ := backlog_eq_zero_iff.mp nothing
  obtain ⟨phase, past, stands⟩ := kept.orderly
  rw [none_] at stands
  obtain rfl := stands.of_nil
  refine ⟨more, last, proceed, goes, none_, ?_, ?_, ?_, past⟩
  · rw [← Bool.not_eq_true, kept.listens, none_]
    simp
  · rw [← Bool.not_eq_true, kept.installing_iff, none_]
    simp
  · rw [kept.consistent.busy, kept.known, none_]
    rfl

theorem install_session_settles_flashing :
    let step := step FirmwareSystem.asciiCasing writing
    ∃ session, runFrom step (opened []) halfFlashed = some session ∧
      Drains step Proceeds backlog session ∧
      ∃ more last, (∀ event ∈ more, Proceeds event) ∧
        runFrom step session more = some last ∧ last.tasks = [] ∧
        last.listening = false ∧ last.page.vm.installing = false ∧
        (last.page.vm.busyText ≠ "" ↔ last.page.refreshes = 1) ∧
        runFrom InstallPhase.advance .idle last.history = some .idle :=
  ⟨_, rfl, install_session_settles FirmwareSystem.asciiCasing writing [] halfFlashed _ rfl⟩

end InstallSession

end Lapcare.Pages
