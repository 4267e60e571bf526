import Lapcare.Core.WorstVerdict
import Lapcare.Semantics.FailFast

/-!
# The levels that a run reaches

A status is told by the levels that it reaches, and a verdict reaches a level because some
item does. Of a source that raises a `LapcareError` the check is handed nothing, and reaches
nothing.

## Main results

* `inputs_of_answers` — what a run hands to its checks, from the answers of its sources
* `le_checkBatteryWear_iff` and its like — why a check reaches a level
-/

namespace Lapcare.Core

open Semantics Semantics.Logged

/-! ### Levels of the checks -/

section Levels

variable {level : CheckStatus} (above : .skipped < level)

include above

theorem le_checkBatteryWear_iff {wears : Option (List BatteryWear)} :
    level ≤ (checkBatteryWear wears).status ↔
      ∃ read, wears = some read ∧ ∃ battery ∈ read,
        level ≤ wearVerdict (wearPercent battery.capacityFull battery.capacityDesign) := by
  cases wears with
  | none => exact iff_of_false (not_le.mpr above) (by simp)
  | some read => simp [checkBatteryWear_status, le_worst_iff _ _ above]

theorem le_checkStorageHealth_iff {reports : Option (List SmartReport)} {skipCode : String} :
    level ≤ (checkStorageHealth reports skipCode).status ↔
      ∃ read, reports = some read ∧ ∃ report ∈ read, level ≤ report.severity := by
  cases reports with
  | none => exact iff_of_false (not_le.mpr above) (by simp)
  | some read => simp [checkStorageHealth_status, le_worst_iff _ _ above]

/-- No pending update is fine already. -/
theorem le_checkFirmwareCurrency_iff {pending : Option (List FirmwareRelease)} :
    level ≤ (checkFirmwareCurrency pending).status ↔
      ∃ read, pending = some read ∧ (level ≤ .ok ∨ ∃ release ∈ read, level ≤ release.severity) := by
  cases pending with
  | none => exact iff_of_false (not_le.mpr above) (by simp)
  | some read => simp [checkFirmwareCurrency_status, le_worst_iff_or]

theorem le_checkDiskSpace_iff {usages : Option (List DiskUsage)} :
    level ≤ (checkDiskSpace usages).status ↔
      ∃ read, usages = some read ∧ ∃ usage ∈ read, level ≤ usage.severity := by
  cases usages with
  | none => exact iff_of_false (not_le.mpr above) (by simp)
  | some read => simp [checkDiskSpace_status, le_worst_iff _ _ above]

end Levels

/-! ### Loops over answers -/

theorem onlyLapcare_bind {α β : Type} {answer : Except PyException α}
    {next : α → Except PyException β} (first : OnlyLapcare answer)
    (rest : ∀ a, OnlyLapcare (next a)) : OnlyLapcare (answer >>= next) := by
  rcases answer with e | a
  · exact fun _ raised => first _ (congrArg Except.error (Except.error.inj raised))
  · exact rest a

theorem onlyLapcare_map {α β : Type} {answer : Except PyException α} (f : α → β)
    (only : OnlyLapcare answer) : OnlyLapcare (answer.map f) := by
  rcases answer with e | a
  · exact fun _ raised => only _ (congrArg Except.error (Except.error.inj raised))
  · exact onlyLapcare_ok (f a)

/-- What ends a loop is the exception of a turn. -/
theorem onlyLapcare_mapM {α β : Type} {answer : α → Except PyException β}
    (each : ∀ a, OnlyLapcare (answer a)) (items : List α) :
    OnlyLapcare (items.mapM answer) := by
  intro e raised
  obtain ⟨item, -, came⟩ := mapM_error raised
  exact each item e came

/-- A source that lists and then asks for each, when its answers do not depend on the calls. -/
theorem alone_loop {α β : Type} {list : Gather (List α)} {visit : α → Gather β}
    {listing : Except PyException (List α)} {answer : α → Except PyException β}
    (listed : alone list = listing) (answers : ∀ a log, (exec (visit a) log).1 = answer a) :
    alone (list >>= fun items => items.mapM visit) =
      listing >>= fun items => items.mapM answer := by
  rw [alone, exec_bind_fst]
  change alone list >>= _ = _
  rw [listed]
  rcases listing with e | items
  · rfl
  · exact mapM_outcome answers items _

/-! ### What the checks are handed -/

theorem toOption_eq_some_iff {α : Type} {answer : Except PyException α} {a : α} :
    answer.toOption = some a ↔ answer = .ok a := by
  cases answer <;> simp [Except.toOption]

/-- `except LapcareError` keeps what was read, and nothing of what was not. -/
theorem alone_orElse {α : Type} {m : Gather α} (only : OnlyLapcare (alone m)) :
    alone (orElse (some <$> m) none) = .ok (alone m).toOption := by
  rcases outcome : alone m with (error | ⟨className, detail⟩) | a
  · exact exec_tryCatch_fst_of_error outcome _ fun _ => rfl
  · rw [outcome] at only
    exact (only _ rfl).elim
  · exact exec_tryCatch_fst_of_ok outcome _ _

theorem alone_gatherReports {provider : StorageProvider}
    (only : OnlyLapcare (alone (readReports provider))) (includeStorageHealth : Bool) :
    ∃ skipCode, alone (gatherReports includeStorageHealth (some provider)) =
      .ok (if includeStorageHealth then (alone (readReports provider)).toOption else none,
        skipCode) := by
  cases includeStorageHealth with
  | false => exact ⟨_, rfl⟩
  | true =>
    rw [gatherReports, if_pos rfl]
    rcases outcome : alone (readReports provider) with (error | ⟨className, detail⟩) | reports
    · cases error <;> exact ⟨_, exec_tryCatch_fst_of_error outcome _ fun _ => rfl⟩
    · rw [outcome] at only
      exact (only _ rfl).elim
    · exact ⟨_, exec_tryCatch_fst_of_ok outcome _ _⟩

/-- The inputs of a run whose sources raise only the `LapcareError` hierarchy. -/
theorem inputs_of_answers {batteryWear : BatteryWearProvider} {storage : StorageProvider}
    {firmware : FirmwareProvider} {thermal : ThermalProvider} {disk : DiskUsageProvider}
    (wears : OnlyLapcare (alone batteryWear.listBatteries))
    (reports : OnlyLapcare (alone (readReports storage)))
    (pending : OnlyLapcare (alone (readPending firmware)))
    (temps : OnlyLapcare (alone thermal.listTemperatures))
    (usages : OnlyLapcare (alone disk.listUsage)) (includeStorageHealth : Bool) :
    ∃ skipCode, inputsAlone
        { batteryWear, storage, firmware, thermal, disk } includeStorageHealth =
      .ok
        { wears := (alone batteryWear.listBatteries).toOption
          reports :=
            if includeStorageHealth then (alone (readReports storage)).toOption else none
          storageSkip := skipCode
          pending := (alone (readPending firmware)).toOption
          temps := (alone thermal.listTemperatures).toOption
          usages := (alone disk.listUsage).toOption } := by
  obtain ⟨skipCode, gathered⟩ := alone_gatherReports reports includeStorageHealth
  exact ⟨skipCode, inputsAlone_eq_ok_iff.mpr ⟨alone_orElse wears, gathered, alone_orElse pending,
    alone_orElse temps, alone_orElse usages⟩⟩

end Lapcare.Core
