import Lapcare.Pages.FirmwareSystem

/-!
# Every firmware change reaches the cards

Change signals are coalesced by one flag and suppressed by another. A suppressed signal
is made good by the reload that ends the timer or the install behind the flag. The one
way out without a reload is an install that ends by anything but its success or its
failure, and there a change is lost exactly when nothing else made it good before.
-/

namespace Lapcare.Pages

open Lapcare.Core Semantics

namespace FirmwareSystem

/-- Every change signal was followed by the submission of a gather. -/
def Covered (system : FirmwareSystem) : Prop :=
  Answered LogEntry.changed LogEntry.gatherSubmitted system.log

/-- With no timer pending and no install under way, no change signal is left behind. -/
def NoLostChange (system : FirmwareSystem) : Prop :=
  system.timers = 0 → system.installs = [] → system.Covered

/-- The ends of an install that `_install_failed` does not answer with a reload: a
declined prompt, and every error but `FirmwareInstallFailed`. -/
def EndsWithoutReload : PyException → Prop
  | .lapcare (.firmwareInstallFailed _ _) => False
  | _ => True

/-- If an install ends without a reload, a timer is pending or no change is open. -/
def InstallEndCovered (system : FirmwareSystem) : FirmwareEvent → Prop
  | .installFailed _ e => EndsWithoutReload e → system.timers ≠ 0 ∨ system.Covered
  | _ => True

theorem noLostChange_of_gather {system : FirmwareSystem} {log : List LogEntry}
    (gathers : system.log = log ++ [.gatherSubmitted]) : system.NoLostChange := by
  intro _ _
  rw [Covered, gathers]
  exact answered_append_answer (by decide) log

theorem noLostChange_of_timer {system : FirmwareSystem} (pending : system.timers ≠ 0) :
    system.NoLostChange :=
  fun quiet => (pending quiet).elim

theorem noLostChange_of_install {system : FirmwareSystem}
    (running : system.installs.length ≠ 0) : system.NoLostChange :=
  fun _ quiet => (running (by rw [quiet]; rfl)).elim

/-- While a flag suppresses signals, something is under way. -/
theorem Consistent.suppressed {system : FirmwareSystem} (consistent : system.Consistent)
    (suppressed : (system.vm.reloadPending || system.vm.installing) = true) :
    system.timers ≠ 0 ∨ system.installs.length ≠ 0 := by
  rw [consistent.timers, consistent.installs]
  rcases Bool.or_eq_true_iff.mp suppressed with pending | installing
  · left
    rw [pending]
    decide
  · right
    rw [installing]
    decide

/-- An end without a reload leaves the log and the timers as they were. -/
theorem installFailed_effects (vm : FirmwareViewModel) (e : PyException) :
    (vm.installFailed e).2 = [.submitGather] ∧ ¬ EndsWithoutReload e ∨
      (vm.installFailed e).2 = [] ∧ EndsWithoutReload e := by
  rcases e with error | ⟨className, detail⟩
  · cases error with
    | firmwareInstallFailed => exact .inl ⟨rfl, id⟩
    | lapcareError | providerUnavailable | providerTimeout | providerParseError
    | privilegedActionDenied => exact .inr ⟨rfl, trivial⟩
  · exact .inr ⟨rfl, trivial⟩

/-- A step keeps changes from getting lost exactly when its install end is covered. -/
theorem noLostChange_step {casing : Casing} {system : FirmwareSystem} {event : FirmwareEvent}
    {later : FirmwareSystem} (consistent : system.Consistent) (kept : system.NoLostChange)
    (taken : system.step casing event = some later) :
    later.NoLostChange ↔ system.InstallEndCovered event := by
  cases event with
  | load =>
    -- every gather that starts here reads all changes before it
    obtain rfl := Option.some.inj taken
    exact iff_of_true (noLostChange_of_gather rfl) trivial
  | changed =>
    obtain rfl := Option.some.inj taken
    refine iff_of_true ?_ trivial
    unfold FirmwareViewModel.onChanged
    split_ifs with suppressed
    · -- a suppressed change is covered by what suppresses it
      rcases consistent.suppressed suppressed with pending | running
      · exact noLostChange_of_timer pending
      · exact noLostChange_of_install running
    · exact noLostChange_of_timer (Nat.succ_ne_zero _)
  | timerFired =>
    obtain ⟨-, rfl⟩ := step_timerFired_iff.mp taken
    refine iff_of_true ?_ trivial
    unfold FirmwareViewModel.reload
    split_ifs with installing
    · -- the install that drops this reload is still under way
      have running : system.installs.length ≠ 0 := by
        rw [consistent.installs, installing]
        decide
      exact noLostChange_of_install running
    · exact noLostChange_of_gather rfl
  | refreshMetadata =>
    obtain rfl := Option.some.inj taken
    refine iff_of_true ?_ trivial
    unfold FirmwareViewModel.refreshMetadata
    split_ifs <;> exact kept
  | requestInstall deviceId release level threshold =>
    obtain rfl := Option.some.inj taken
    refine iff_of_true ?_ trivial
    unfold FirmwareViewModel.requestInstall
    split_ifs with blocked charged
    · exact kept
    · refine noLostChange_of_install ?_
      change (system.installs ++ [release]).length ≠ 0
      simp
    · exact kept
  | progress percentage status =>
    obtain rfl := Option.some.inj taken
    exact iff_of_true kept trivial
  | gatherDone data =>
    obtain ⟨-, rfl⟩ := step_gatherDone_iff.mp taken
    exact iff_of_true kept trivial
  | gatherFailed e =>
    obtain ⟨-, rfl⟩ := step_gatherFailed_iff.mp taken
    exact iff_of_true kept trivial
  | refreshDone =>
    obtain ⟨-, rfl⟩ := step_refreshDone_iff.mp taken
    exact iff_of_true (noLostChange_of_gather rfl) trivial
  | refreshFailed e =>
    obtain ⟨-, rfl⟩ := step_refreshFailed_iff.mp taken
    exact iff_of_true kept trivial
  | installDone position =>
    obtain ⟨release, -, rfl⟩ := step_installDone_iff.mp taken
    exact iff_of_true (noLostChange_of_gather rfl) trivial
  | installFailed position e =>
    obtain ⟨release, found, rfl⟩ := step_installFailed_iff.mp taken
    have ended := List.length_eq_zero_iff.mp (consistent.installs_erased found).1
    rcases installFailed_effects system.vm e with ⟨effects, reloads⟩ |
      ⟨effects, silent⟩
    · refine iff_of_true ?_ fun ends => (reloads ends).elim
      have submitted : ({ system with installs := system.installs.eraseIdx position }.after
          (system.vm.installFailed e)).log = system.log ++ [.gatherSubmitted] := by
        rw [after, effects]
        rfl
      exact noLostChange_of_gather submitted
    · -- nothing is under way any more, and nothing was submitted
      have left : ({ system with installs := system.installs.eraseIdx position }.after
          (system.vm.installFailed e)) =
          { system with
            installs := []
            vm := (system.vm.installFailed e).1 } := by
        rw [after, effects, ended]
        rfl
      rw [left]
      simp only [NoLostChange, InstallEndCovered, silent, forall_const]
      exact imp_iff_not_or

/-- In a run from a loaded page no change is ever lost exactly when every install of the
run that ends without a reload is covered. -/
theorem reload_covers_changes (casing : Casing) (data : List Gathered)
    (events : List FirmwareEvent) :
    AllStates (step casing) NoLostChange (loaded data) events ↔
      AllSteps (step casing) InstallEndCovered (loaded data) events :=
  allStates_iff_allSteps (consistent_loaded data) (fun _ _ => answered_nil)
    (fun _ _ _ => consistent_step) (fun _ _ _ => noLostChange_step) events

/-- Casing of ASCII text. -/
def asciiCasing : Casing where
  title c := String.singleton c.toUpper
  lowerTail text := String.ofList (text.toList.tail.map Char.toLower)
  title_ne_empty c := by
    intro empty
    have chars := congrArg String.toList empty
    simp at chars

def biosUpdate : FirmwareRelease where
  version := "1.2"

/-- A change signal arrives during an install whose prompt the user then declines. -/
def declinedInstall : List FirmwareEvent :=
  [.requestInstall "bios" biosUpdate none none, .changed,
    .installFailed 0 (.lapcare (.privilegedActionDenied "install"))]

theorem declined_install_loses_change :
    ¬ AllStates (step asciiCasing) NoLostChange
      (loaded [({ id := "bios", updatable := true }, [biosUpdate], "")]) declinedInstall := by
  intro states
  have covered := states declinedInstall List.prefix_rfl _ rfl rfl rfl
  exact nomatch covered [] [] rfl

end FirmwareSystem

end Lapcare.Pages
