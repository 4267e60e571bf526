import Lapcare.Core.Degradation

/-!
# When a verdict is reached

The condition on its input under which a check reaches each verdict, and the result of
a run that a check is responsible for.
-/

namespace Lapcare.Core

open Semantics Semantics.Logged

/-! ### Storage health -/

/-- The drive reports that it is failing. -/
def SmartReport.Failing (report : SmartReport) : Prop :=
  report.passed = some false

instance : DecidablePred SmartReport.Failing := fun report =>
  inferInstanceAs (Decidable (report.passed = some false))

namespace StorageScan

theorem verdict_critical_iff {scan : StorageScan} {report : SmartReport} :
    (scan.verdict report).status = .critical ↔ scan.status = .critical ∨ report.Failing := by
  unfold verdict SmartReport.Failing
  split
  case h_1 failing => simp [failing]
  case h_2 silent => simp [silent]
  case h_3 passed => simp [passed]

/-- A warning never replaces a critical verdict, nor brings one about. -/
theorem pending_critical_iff {scan : StorageScan} {report : SmartReport} :
    (scan.pending report).status = .critical ↔ scan.status = .critical := by
  unfold pending
  split
  · split_ifs with warns
    · simp [warns.2]
    · rfl
  · rfl

theorem endurance_critical_iff {scan : StorageScan} {report : SmartReport} :
    (scan.endurance report).status = .critical ↔ scan.status = .critical := by
  unfold endurance
  split
  · split_ifs with warns
    · simp [warns.2]
    · rfl
  · rfl

theorem turn_critical_iff {scan : StorageScan} {report : SmartReport} :
    (scan.turn report).status = .critical ↔ scan.status = .critical ∨ report.Failing := by
  rw [turn, endurance_critical_iff, pending_critical_iff, verdict_critical_iff]

theorem foldl_critical_iff (reports : List SmartReport) {scan : StorageScan} :
    (reports.foldl turn scan).status = .critical ↔
      scan.status = .critical ∨ ∃ report ∈ reports, report.Failing := by
  induction reports generalizing scan with
  | nil => simp
  | cons report rest ih =>
    rw [List.foldl_cons, ih, turn_critical_iff, or_assoc]
    simp

end StorageScan

/-- Storage is critical exactly when a report that was read says so. -/
theorem checkStorageHealth_critical_iff {reports : Option (List SmartReport)}
    {skipCode : String} :
    (checkStorageHealth reports skipCode).status = .critical ↔
      ∃ read, reports = some read ∧ ∃ report ∈ read, report.Failing := by
  unfold checkStorageHealth
  split
  · simp [skippedResult]
  · simp [skippedResult]
  · simp [StorageScan.foldl_critical_iff]

/-! ### Firmware currency -/

/-- An update that its publisher calls critical. -/
def FirmwareRelease.Critical (release : FirmwareRelease) : Prop :=
  release.urgency = some "critical"

/-- The number of updates that a result counts; an absent count is none. -/
def DiagnosticResult.pendingUpdates (result : DiagnosticResult) : String :=
  (result.metrics.lookup "pending_updates").getD "0"

theorem checkFirmwareCurrency_critical {pending : List FirmwareRelease}
    (critical : ∃ release ∈ pending, release.Critical) :
    (checkFirmwareCurrency (some pending)).status = .critical := by
  obtain ⟨release, member, urgent⟩ := critical
  unfold checkFirmwareCurrency
  split
  case h_1 absent => exact nomatch absent
  case h_2 nothing =>
    obtain rfl := Option.some.inj nothing
    exact nomatch member
  case h_3 updates _ same =>
    obtain rfl := Option.some.inj same
    have urgentMember : pending.any (·.urgency == some "critical") = true := by
      rw [List.any_eq_true]
      exact ⟨release, member, beq_iff_eq.mpr urgent⟩
    simp [urgentMember]

/-- Any pending update is at least a warning. -/
theorem checkFirmwareCurrency_pending {pending : List FirmwareRelease} (some_ : pending ≠ []) :
    (checkFirmwareCurrency (some pending)).status = .warning ∨
      (checkFirmwareCurrency (some pending)).status = .critical := by
  unfold checkFirmwareCurrency
  split
  case h_1 absent => exact nomatch absent
  case h_2 nothing => exact absurd (Option.some.inj nothing) some_
  case h_3 =>
    dsimp only
    split_ifs
    · exact .inr rfl
    · exact .inl rfl

theorem checkFirmwareCurrency_pendingUpdates (pending : List FirmwareRelease) :
    (checkFirmwareCurrency (some pending)).pendingUpdates = toString pending.length := by
  cases pending <;> rfl

/-! ### The result a run holds for a source -/

/-- The result of the check that `source` feeds. -/
def Inputs.resultOf (inputs : Inputs) : Source → DiagnosticResult
  | .batteryWear => checkBatteryWear inputs.wears
  | .storage => checkStorageHealth inputs.reports inputs.storageSkip
  | .firmware => checkFirmwareCurrency inputs.pending
  | .thermal => checkThermal inputs.temps
  | .disk => checkDiskSpace inputs.usages

theorem Inputs.resultOf_checkId (inputs : Inputs) (source : Source) :
    (inputs.resultOf source).checkId = source.checkId := by
  cases source with
  | batteryWear => exact checkBatteryWear_checkId _
  | storage => exact checkStorageHealth_checkId _ _
  | firmware => exact checkFirmwareCurrency_checkId _
  | thermal => exact checkThermal_checkId _
  | disk => exact checkDiskSpace_checkId _

theorem Source.checkId_injective : Function.Injective Source.checkId := by
  intro first second same
  cases first <;> cases second <;> first | rfl | exact absurd same (by decide)

/-- The results of a run are those of its five sources. -/
theorem Inputs.mem_results_iff {inputs : Inputs} {result : DiagnosticResult} :
    result ∈ inputs.results ↔ ∃ source, result = inputs.resultOf source := by
  simp only [Inputs.results, List.mem_cons, List.not_mem_nil, or_false]
  constructor
  · rintro (rfl | rfl | rfl | rfl | rfl)
    · exact ⟨.batteryWear, rfl⟩
    · exact ⟨.storage, rfl⟩
    · exact ⟨.firmware, rfl⟩
    · exact ⟨.thermal, rfl⟩
    · exact ⟨.disk, rfl⟩
  · rintro ⟨source, rfl⟩
    cases source <;> simp [resultOf]

/-- A run holds for the check of `source` a result with a property. -/
def RunReports (sources : Sources) (includeStorageHealth : Bool) (source : Source)
    (holds : DiagnosticResult → Prop) : Prop :=
  ∃ report, runOutcome sources includeStorageHealth = .ok report ∧
    ∃ result ∈ report.results, result.checkId = source.checkId ∧ holds result

/-- Only the check that a source feeds answers for it. -/
theorem runReports_iff {sources : Sources} {includeStorageHealth : Bool} {inputs : Inputs}
    (inputsDone : inputsAlone sources includeStorageHealth = .ok inputs) {source : Source}
    {holds : DiagnosticResult → Prop} :
    RunReports sources includeStorageHealth source holds ↔ holds (inputs.resultOf source) := by
  have done : runOutcome sources includeStorageHealth = .ok inputs.report :=
    runOutcome_eq_ok_iff.mpr ⟨inputs, inputsDone, rfl⟩
  constructor
  · rintro ⟨report, reported, result, member, named, reached⟩
    rw [done] at reported
    obtain rfl := Except.ok.inj reported
    obtain ⟨other, rfl⟩ := Inputs.mem_results_iff.mp member
    rw [Inputs.resultOf_checkId] at named
    -- a check id belongs to one source
    obtain rfl := Source.checkId_injective named
    exact reached
  · intro reached
    exact ⟨inputs.report, done, _, Inputs.mem_results_iff.mpr ⟨source, rfl⟩,
      inputs.resultOf_checkId source, reached⟩

/-- What a run reports for storage is what the storage block alone leads to. -/
theorem runReports_storage_iff {sources : Sources} (keep : sources.KeepConvention)
    {includeStorageHealth : Bool} {reports : Option (List SmartReport)} {skipCode : String}
    (gathered : alone (gatherReports includeStorageHealth sources.storage) =
      .ok (reports, skipCode)) {holds : DiagnosticResult → Prop} :
    RunReports sources includeStorageHealth .storage holds ↔
      holds (checkStorageHealth reports skipCode) := by
  obtain ⟨inputs, inputsDone⟩ := inputsAlone_returns keep includeStorageHealth
  have same := (inputsAlone_eq_ok_iff.mp inputsDone).2.1
  rw [gathered] at same
  obtain ⟨sameReports, sameSkip⟩ := Prod.mk.inj (Except.ok.inj same)
  rw [runReports_iff inputsDone, Inputs.resultOf, sameReports, sameSkip]

theorem runReports_firmware_iff {sources : Sources} (keep : sources.KeepConvention)
    {includeStorageHealth : Bool} {pending : Option (List FirmwareRelease)}
    (gathered : alone (gatherPending sources.firmware) = .ok pending)
    {holds : DiagnosticResult → Prop} :
    RunReports sources includeStorageHealth .firmware holds ↔
      holds (checkFirmwareCurrency pending) := by
  obtain ⟨inputs, inputsDone⟩ := inputsAlone_returns keep includeStorageHealth
  have same := (inputsAlone_eq_ok_iff.mp inputsDone).2.2.1
  rw [gathered] at same
  have samePending : pending = inputs.pending := Except.ok.inj same
  rw [runReports_iff inputsDone, Inputs.resultOf, samePending]

end Lapcare.Core
