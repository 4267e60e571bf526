import Lapcare.Pages.Firmware
import Lapcare.Semantics.Transition

/-!
# The firmware page in its environment

The view-model together with what is under way around it: debounce timers that did not
fire yet and submissions that did not complete yet. Any of them may happen next, in any
order, between any actions of the user and any change signals of fwupd.
-/

namespace Lapcare.Pages

open Lapcare.Core Semantics

/-- What the log of a page records. -/
inductive LogEntry
  | changed
  | gatherSubmitted
  deriving DecidableEq

structure FirmwareSystem where
  vm : FirmwareViewModel
  timers : ℕ := 0
  gathers : ℕ := 0
  refreshes : ℕ := 0
  installs : List FirmwareRelease := []
  log : List LogEntry := []

/-- What can happen next. The completion of an install names it by its position among
the installs under way. -/
inductive FirmwareEvent
  | load
  | changed
  | timerFired
  | refreshMetadata
  | requestInstall (deviceId : String) (release : FirmwareRelease) (level threshold : Option Int)
  | progress (percentage : Option Int) (status : String)
  | gatherDone (data : List Gathered)
  | gatherFailed (e : PyException)
  | refreshDone
  | refreshFailed (e : PyException)
  | installDone (position : ℕ)
  | installFailed (position : ℕ) (e : PyException)

namespace FirmwareSystem

/-- Carry out one effect of a method. -/
def perform (system : FirmwareSystem) : Effect → FirmwareSystem
  | .submitGather =>
      { system with
        gathers := system.gathers + 1
        log := system.log ++ [.gatherSubmitted] }
  | .submitRefresh => { system with refreshes := system.refreshes + 1 }
  | .submitInstall _ release => { system with installs := system.installs ++ [release] }
  | .startTimer _ => { system with timers := system.timers + 1 }

/-- The system after a method of its view-model. -/
def after (system : FirmwareSystem) (result : FirmwareViewModel × List Effect) :
    FirmwareSystem :=
  result.2.foldl perform { system with vm := result.1 }

/-- One event, when it can happen. -/
def step (casing : Casing) (system : FirmwareSystem) : FirmwareEvent → Option FirmwareSystem
  | .load => some (system.after system.vm.load)
  | .changed =>
      some ({ system with log := system.log ++ [LogEntry.changed] }.after system.vm.onChanged)
  | .timerFired =>
      if system.timers = 0 then none
      else some ({ system with timers := system.timers - 1 }.after system.vm.reload)
  | .refreshMetadata => some (system.after system.vm.refreshMetadata)
  | .requestInstall deviceId release level threshold =>
      some (system.after (system.vm.requestInstall deviceId release level threshold))
  | .progress percentage status =>
      some { system with vm := system.vm.onProgress casing percentage status }
  | .gatherDone data =>
      if system.gathers = 0 then none
      else some { system with gathers := system.gathers - 1, vm := system.vm.apply data }
  | .gatherFailed e =>
      if system.gathers = 0 then none
      else some { system with gathers := system.gathers - 1, vm := system.vm.loadFailed e }
  | .refreshDone =>
      if system.refreshes = 0 then none
      else some ({ system with refreshes := system.refreshes - 1 }.after system.vm.refreshDone)
  | .refreshFailed _ =>
      if system.refreshes = 0 then none
      else
        some
          { system with refreshes := system.refreshes - 1, vm := system.vm.refreshFailed }
  | .installDone position =>
      match system.installs[position]? with
      | none => none
      | some release =>
          some ({ system with installs := system.installs.eraseIdx position }.after
            (system.vm.installDone release))
  | .installFailed position e =>
      match system.installs[position]? with
      | none => none
      | some _ =>
          some ({ system with installs := system.installs.eraseIdx position }.after
            (system.vm.installFailed e))

/-- The page as it stands when its first gather brought home `data`. -/
def loaded (data : List Gathered) : FirmwareSystem where
  vm := ({} : FirmwareViewModel).load.1.apply data

/-! ### The events that need something under way -/

section Inversion

variable {casing : Casing} {system later : FirmwareSystem} {position : ℕ}

theorem step_timerFired_iff :
    system.step casing .timerFired = some later ↔
      system.timers ≠ 0 ∧
        { system with timers := system.timers - 1 }.after system.vm.reload = later := by
  simp only [step, Option.ite_none_left_eq_some, Option.some.injEq, ne_eq]

theorem step_gatherDone_iff {data : List Gathered} :
    system.step casing (.gatherDone data) = some later ↔
      system.gathers ≠ 0 ∧
        { system with gathers := system.gathers - 1, vm := system.vm.apply data } = later := by
  simp only [step, Option.ite_none_left_eq_some, Option.some.injEq, ne_eq]

theorem step_gatherFailed_iff {e : PyException} :
    system.step casing (.gatherFailed e) = some later ↔
      system.gathers ≠ 0 ∧
        { system with gathers := system.gathers - 1, vm := system.vm.loadFailed e } = later := by
  simp only [step, Option.ite_none_left_eq_some, Option.some.injEq, ne_eq]

theorem step_refreshDone_iff :
    system.step casing .refreshDone = some later ↔
      system.refreshes ≠ 0 ∧
        { system with refreshes := system.refreshes - 1 }.after system.vm.refreshDone = later := by
  simp only [step, Option.ite_none_left_eq_some, Option.some.injEq, ne_eq]

theorem step_refreshFailed_iff {e : PyException} :
    system.step casing (.refreshFailed e) = some later ↔
      system.refreshes ≠ 0 ∧
        { system with
          refreshes := system.refreshes - 1
          vm := system.vm.refreshFailed } = later := by
  simp only [step, Option.ite_none_left_eq_some, Option.some.injEq, ne_eq]

theorem step_installDone_iff :
    system.step casing (.installDone position) = some later ↔
      ∃ release, system.installs[position]? = some release ∧
        { system with installs := system.installs.eraseIdx position }.after
          (system.vm.installDone release) = later := by
  rw [step]
  cases system.installs[position]? <;> simp

theorem step_installFailed_iff {e : PyException} :
    system.step casing (.installFailed position e) = some later ↔
      ∃ release, system.installs[position]? = some release ∧
        { system with installs := system.installs.eraseIdx position }.after
          (system.vm.installFailed e) = later := by
  rw [step]
  cases system.installs[position]? <;> simp

end Inversion

/-! ### The flags of the view-model say what is under way -/

/-- At most one operation runs, the busy text shows it, and each flag of the view-model
is what it stands for. -/
structure Consistent (system : FirmwareSystem) : Prop where
  timers : system.timers = system.vm.reloadPending.toNat
  installs : system.installs.length = system.vm.installing.toNat
  single : system.refreshes + system.installs.length ≤ 1
  busy : system.vm.busyText ≠ "" ↔ system.refreshes + system.installs.length = 1

theorem consistent_loaded (data : List Gathered) : (loaded data).Consistent := by
  unfold loaded FirmwareViewModel.apply
  split_ifs <;> exact ⟨rfl, rfl, by simp, by simp [FirmwareViewModel.load]⟩

theorem refreshingText_ne_empty : FirmwareViewModel.refreshingText ≠ "" := by decide

theorem installingText_ne_empty : FirmwareViewModel.installingText ≠ "" := by decide

theorem onProgress_busyText (casing : Casing) {vm : FirmwareViewModel}
    (installing : vm.installing = true) (percentage : Option Int) (status : String) :
    (vm.onProgress casing percentage status).busyText ≠ "" := by
  have text : (if status = "" then FirmwareViewModel.installingText
      else casing.capitalize status) ≠ "" := by
    split_ifs with silent
    · exact installingText_ne_empty
    · exact casing.capitalize_ne_empty silent
  rw [FirmwareViewModel.onProgress, if_pos installing]
  cases percentage with
  | none => exact text
  | some done =>
    intro empty
    have suffix := (String.append_eq_empty_iff.mp empty).2
    exact absurd suffix (by decide)

/-- Removing an install that is under way leaves none. -/
theorem Consistent.installs_erased {system : FirmwareSystem} (consistent : system.Consistent)
    {position : ℕ} {release : FirmwareRelease}
    (found : system.installs[position]? = some release) :
    (system.installs.eraseIdx position).length = 0 ∧ system.refreshes = 0 := by
  obtain ⟨inside, -⟩ := List.getElem?_eq_some_iff.mp found
  have single := consistent.single
  rw [List.length_eraseIdx_of_lt inside]
  omega

/-- Nothing is under way, and the page says nothing. -/
theorem consistent_of_idle {system : FirmwareSystem}
    (timers : system.timers = system.vm.reloadPending.toNat)
    (installs : system.installs.length = system.vm.installing.toNat)
    (none : system.refreshes + system.installs.length = 0) (quiet : system.vm.busyText = "") :
    system.Consistent where
  timers := timers
  installs := installs
  single := by omega
  busy := iff_of_false (not_not.mpr quiet) (by omega)

/-- One operation is under way, and the page says so. -/
theorem consistent_of_busy {system : FirmwareSystem}
    (timers : system.timers = system.vm.reloadPending.toNat)
    (installs : system.installs.length = system.vm.installing.toNat)
    (one : system.refreshes + system.installs.length = 1) (shown : system.vm.busyText ≠ "") :
    system.Consistent where
  timers := timers
  installs := installs
  single := one.le
  busy := iff_of_true shown one

theorem Consistent.free {system : FirmwareSystem} (consistent : system.Consistent)
    (quiet : ¬ system.vm.busyText ≠ "") : system.refreshes + system.installs.length = 0 := by
  have single := consistent.single
  have none := mt consistent.busy.mpr quiet
  omega

section Steps

variable {system : FirmwareSystem} (consistent : system.Consistent)

include consistent

theorem consistent_changed :
    ({ system with log := system.log ++ [LogEntry.changed] }.after
      system.vm.onChanged).Consistent := by
  obtain ⟨timers, installs, single, busy⟩ := consistent
  unfold FirmwareViewModel.onChanged
  split_ifs with skipped
  · exact ⟨timers, installs, single, busy⟩
  · have idle : system.vm.reloadPending = false := by simp_all
    refine ⟨?_, installs, single, busy⟩
    rw [idle] at timers
    change system.timers + 1 = 1
    rw [timers]
    rfl

theorem consistent_timerFired (left : system.timers ≠ 0) :
    ({ system with timers := system.timers - 1 }.after system.vm.reload).Consistent := by
  obtain ⟨timers, installs, single, busy⟩ := consistent
  -- the timer that fires is the only one
  have one : system.timers = 1 := by
    cases pending : system.vm.reloadPending <;> simp_all
  have fired : system.timers - 1 = 0 := by omega
  unfold FirmwareViewModel.reload
  cases installing : system.vm.installing <;> rw [installing] at installs <;>
    exact ⟨fired, installs, single, busy⟩

theorem consistent_refreshMetadata : (system.after system.vm.refreshMetadata).Consistent := by
  unfold FirmwareViewModel.refreshMetadata
  split_ifs with blocked
  · exact consistent
  · have free := consistent.free blocked
    refine consistent_of_busy consistent.timers consistent.installs ?_ refreshingText_ne_empty
    change system.refreshes + 1 + system.installs.length = 1
    omega

theorem consistent_requestInstall (deviceId : String) (release : FirmwareRelease)
    (level threshold : Option Int) :
    (system.after (system.vm.requestInstall deviceId release level threshold)).Consistent := by
  unfold FirmwareViewModel.requestInstall
  split_ifs with blocked charged
  · exact consistent
  · have free := consistent.free blocked
    have length : (system.installs ++ [release]).length = 1 := by
      rw [List.length_append, List.length_singleton]
      omega
    refine consistent_of_busy consistent.timers length ?_ installingText_ne_empty
    change system.refreshes + (system.installs ++ [release]).length = 1
    omega
  · -- only the banner changes
    exact ⟨consistent.timers, consistent.installs, consistent.single, consistent.busy⟩

theorem consistent_progress (casing : Casing) (percentage : Option Int) (status : String) :
    ({ system with vm := system.vm.onProgress casing percentage status } :
      FirmwareSystem).Consistent := by
  cases installing : system.vm.installing with
  | false =>
    have ignored : system.vm.onProgress casing percentage status = system.vm := by
      simp [FirmwareViewModel.onProgress, installing]
    rw [ignored]
    exact consistent
  | true =>
    have flags : (system.vm.onProgress casing percentage status).reloadPending =
          system.vm.reloadPending ∧
        (system.vm.onProgress casing percentage status).installing = true := by
      simp [FirmwareViewModel.onProgress, installing]
    have running : system.installs.length = 1 := by rw [consistent.installs, installing]; rfl
    have single := consistent.single
    refine consistent_of_busy ?_ ?_ ?_ (onProgress_busyText casing installing _ _)
    · rw [flags.1]
      exact consistent.timers
    · rw [flags.2]
      exact running
    · change system.refreshes + system.installs.length = 1
      omega

/-- The end of a refresh, once the page says nothing. -/
theorem consistent_refreshEnded (left : system.refreshes ≠ 0) {vm : FirmwareViewModel}
    {log : List LogEntry} {gathers : ℕ} (pending : vm.reloadPending = system.vm.reloadPending)
    (installing : vm.installing = system.vm.installing) (quiet : vm.busyText = "") :
    ({ system with
      refreshes := system.refreshes - 1
      vm := vm
      gathers := gathers
      log := log } : FirmwareSystem).Consistent := by
  have single := consistent.single
  apply consistent_of_idle
  · rw [pending]
    exact consistent.timers
  · rw [installing]
    exact consistent.installs
  · change system.refreshes - 1 + system.installs.length = 0
    omega
  · exact quiet

/-- The end of an install, once the flag is down and the page says nothing. -/
theorem consistent_installEnded {position : ℕ} {release : FirmwareRelease}
    (found : system.installs[position]? = some release) {vm : FirmwareViewModel}
    {log : List LogEntry} {gathers : ℕ} (pending : vm.reloadPending = system.vm.reloadPending)
    (installing : vm.installing = false) (quiet : vm.busyText = "") :
    ({ system with
      installs := system.installs.eraseIdx position
      vm := vm
      gathers := gathers
      log := log } : FirmwareSystem).Consistent := by
  obtain ⟨none_left, resting⟩ := consistent.installs_erased found
  apply consistent_of_idle
  · rw [pending]
    exact consistent.timers
  · rw [installing]
    exact none_left
  · change system.refreshes + (system.installs.eraseIdx position).length = 0
    omega
  · exact quiet

end Steps

theorem consistent_step {casing : Casing} {system : FirmwareSystem} {event : FirmwareEvent}
    {later : FirmwareSystem} (consistent : system.Consistent)
    (taken : system.step casing event = some later) : later.Consistent := by
  cases event with
  | load =>
    obtain rfl := Option.some.inj taken
    exact ⟨consistent.timers, consistent.installs, consistent.single, consistent.busy⟩
  | changed =>
    obtain rfl := Option.some.inj taken
    exact consistent_changed consistent
  | timerFired =>
    obtain ⟨left, rfl⟩ := step_timerFired_iff.mp taken
    exact consistent_timerFired consistent left
  | refreshMetadata =>
    obtain rfl := Option.some.inj taken
    exact consistent_refreshMetadata consistent
  | requestInstall deviceId release level threshold =>
    obtain rfl := Option.some.inj taken
    exact consistent_requestInstall consistent deviceId release level threshold
  | progress percentage status =>
    obtain rfl := Option.some.inj taken
    exact consistent_progress consistent casing percentage status
  | gatherDone data =>
    obtain ⟨-, rfl⟩ := step_gatherDone_iff.mp taken
    unfold FirmwareViewModel.apply
    split_ifs <;>
      exact ⟨consistent.timers, consistent.installs, consistent.single, consistent.busy⟩
  | gatherFailed e =>
    obtain ⟨-, rfl⟩ := step_gatherFailed_iff.mp taken
    exact ⟨consistent.timers, consistent.installs, consistent.single, consistent.busy⟩
  | refreshDone =>
    obtain ⟨left, rfl⟩ := step_refreshDone_iff.mp taken
    exact consistent_refreshEnded consistent left rfl rfl rfl
  | refreshFailed e =>
    obtain ⟨left, rfl⟩ := step_refreshFailed_iff.mp taken
    exact consistent_refreshEnded consistent left rfl rfl rfl
  | installDone position =>
    obtain ⟨release, found, rfl⟩ := step_installDone_iff.mp taken
    exact consistent_installEnded consistent found rfl rfl rfl
  | installFailed position e =>
    obtain ⟨release, found, rfl⟩ := step_installFailed_iff.mp taken
    -- whatever went wrong, the flags are reset first
    rcases e with error | ⟨className, detail⟩
    · cases error <;> exact consistent_installEnded consistent found rfl rfl rfl
    · exact consistent_installEnded consistent found rfl rfl rfl

end FirmwareSystem

end Lapcare.Pages
