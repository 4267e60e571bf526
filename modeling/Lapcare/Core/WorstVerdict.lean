import Lapcare.Core.DiskSpace
import Lapcare.Core.Verdicts
import Lapcare.Semantics.Worst

/-!
# Every verdict is the worst of its parts

Each of the five checks is a loop or a filter of its own. Its status is the worst of one
severity for each item, so no item masks a worse one.

## Main results

* `verdicts_worst_of_parts` — the law of the five checks on lists
-/

namespace Lapcare.Core

open Semantics

/-- The status of a check on two lists is the worse of its statuses on each. Reordering does
not change it, an added item never improves it, and an item that cannot be judged never
counts. -/
structure VerdictLaw {α : Type} (check : List α → DiagnosticResult) (Unjudged : α → Prop) :
    Prop where
  parts : ∀ first second,
    (check (first ++ second)).status = max (check first).status (check second).status
  reordered : ∀ first second, first.Perm second → (check first).status = (check second).status
  added : ∀ first item second,
    (check (first ++ second)).status ≤ (check (first ++ item :: second)).status
  unjudged : ∀ first item second, Unjudged item →
    (check (first ++ item :: second)).status = (check (first ++ second)).status

theorem verdictLaw_of_worst {α : Type} {check : List α → DiagnosticResult} {Unjudged : α → Prop}
    {severity : α → CheckStatus} {bottom : CheckStatus}
    (computes : ∀ items, (check items).status = worst severity bottom items)
    (neutral : ∀ item, Unjudged item → severity item ≤ bottom) : VerdictLaw check Unjudged where
  parts first second := by
    rw [computes, computes, computes]
    exact worst_append severity bottom first second
  reordered first second same := by
    rw [computes, computes]
    exact worst_perm severity bottom same
  added first item second := by
    rw [computes, computes]
    exact worst_le_insert severity bottom item first second
  unjudged first item second cannot := by
    rw [computes, computes]
    exact worst_insert_neutral severity bottom (neutral item cannot) first second

/-! ### Battery wear -/

/-- The status of a worst wear, if there is one. -/
def wearVerdict (worst : Option ℚ) : CheckStatus :=
  wearStatus (classifyWear worst)

/-- A capacity is missing, or the design capacity is not positive. -/
def BatteryWear.Unreadable (battery : BatteryWear) : Prop :=
  battery.capacityFull = none ∨ battery.capacityDesign = none ∨
    ∃ design, battery.capacityDesign = some design ∧ design ≤ 0

theorem wearPercent_eq_none_of_unreadable {battery : BatteryWear} (bad : battery.Unreadable) :
    wearPercent battery.capacityFull battery.capacityDesign = none := by
  rcases bad with missing | missing | ⟨design, given, small⟩
  · rw [missing]
    rfl
  · rw [missing]
    cases battery.capacityFull <;> rfl
  · rw [given]
    cases battery.capacityFull with
    | none => rfl
    | some full => exact if_pos small

theorem wearVerdict_mono {wear wear' : ℚ} (le : wear ≤ wear') :
    wearVerdict (some wear) ≤ wearVerdict (some wear') := by
  unfold wearVerdict classifyWear
  dsimp only
  by_cases good : wear' < goodMaxWear
  · rw [if_pos good, if_pos (le.trans_lt good)]
  rw [if_neg good]
  by_cases fair : wear' < fairMaxWear
  · rw [if_pos fair, if_pos (le.trans_lt fair)]
    split_ifs <;> decide
  · rw [if_neg fair]
    exact CheckStatus.le_critical _

theorem skipped_le (status : CheckStatus) : CheckStatus.skipped ≤ status := by
  cases status <;> decide

theorem wearVerdict_worseWear (worst : Option ℚ) (battery : BatteryWear) :
    wearVerdict (worseWear worst battery) =
      max (wearVerdict worst)
        (wearVerdict (wearPercent battery.capacityFull battery.capacityDesign)) := by
  unfold worseWear
  rcases wearPercent battery.capacityFull battery.capacityDesign with _ | wear
  · exact (max_eq_left (skipped_le _)).symm
  · rcases worst with _ | kept
    · exact (max_eq_right (skipped_le _)).symm
    · dsimp only
      split_ifs with worse
      · exact (max_eq_right (wearVerdict_mono worse.le)).symm
      · exact (max_eq_left (wearVerdict_mono (not_lt.mp worse))).symm

theorem checkBatteryWear_status (wears : List BatteryWear) :
    (checkBatteryWear (some wears)).status =
      worst (fun battery => wearVerdict (wearPercent battery.capacityFull battery.capacityDesign))
        .skipped wears := by
  have loop := foldl_verdict_of_forall wearVerdict_worseWear wears (skipped_le (wearVerdict none))
  -- the verdict on no battery is the least one, so it changes no maximum
  have start : max (wearVerdict none) = id := by
    ext status
    exact max_eq_right (skipped_le status)
  rw [start] at loop
  cases wears with
  | nil => rfl
  | cons battery wears =>
    rw [id_eq] at loop
    rw [← loop]
    simp only [checkBatteryWear]
    split
    case h_1 nothing =>
      rw [nothing]
      rfl
    case h_2 worst kept =>
      rw [kept]
      rfl

/-! ### Storage health -/

theorem max_ne_skipped {status : CheckStatus} (running : status ≠ .skipped) (other : CheckStatus) :
    max status other ≠ .skipped := by
  intro skipped
  have below : status ≤ .skipped := skipped ▸ le_max_left status other
  exact running (le_antisymm below (skipped_le status))

/-- What warns only on a status that is still fine raises it to the greater of the two. -/
theorem raise_eq_max {status : CheckStatus} (running : status ≠ .skipped) (warns : Prop)
    [Decidable warns] :
    (if warns ∧ status = .ok then CheckStatus.warning else status) =
      max status (if warns then .warning else .ok) := by
  by_cases warned : warns
  · simp only [warned, true_and, if_true]
    cases status with
    | skipped => exact absurd rfl running
    | ok | warning | critical => rfl
  · simp only [warned, false_and, if_false]
    cases status with
    | skipped => exact absurd rfl running
    | ok | warning | critical => rfl

/-- The report has pending sectors or worn endurance. -/
def SmartReport.Warns (report : SmartReport) : Prop :=
  report.pendingSectors.getD 0 ≠ 0 ∨ enduranceWarnPct ≤ report.percentageUsed.getD 0

instance : DecidablePred SmartReport.Warns := fun report =>
  inferInstanceAs (Decidable (_ ∨ enduranceWarnPct ≤ report.percentageUsed.getD 0))

/-- What one report says on its own. -/
def SmartReport.severity (report : SmartReport) : CheckStatus :=
  if report.Failing then .critical else if report.Warns then .warning else .ok

namespace StorageScan

theorem verdict_status (scan : StorageScan) (report : SmartReport) :
    (scan.verdict report).status = if report.Failing then .critical else scan.status := by
  unfold verdict
  split
  case h_1 failing =>
    have counts : report.Failing := failing
    rw [if_pos counts]
  case h_2 silent => rw [if_neg (by simp [SmartReport.Failing, silent])]
  case h_3 passed => rw [if_neg (by simp [SmartReport.Failing, passed])]

theorem pending_status (scan : StorageScan) (report : SmartReport)
    (running : scan.status ≠ .skipped) :
    (scan.pending report).status =
      max scan.status (if report.pendingSectors.getD 0 ≠ 0 then .warning else .ok) := by
  rw [← raise_eq_max running]
  unfold pending
  rcases report.pendingSectors with _ | sectors
  · rfl
  · dsimp only [Option.getD_some]
    split_ifs <;> rfl

theorem endurance_status (scan : StorageScan) (report : SmartReport)
    (running : scan.status ≠ .skipped) :
    (scan.endurance report).status =
      max scan.status
        (if enduranceWarnPct ≤ report.percentageUsed.getD 0 then .warning else .ok) := by
  rw [← raise_eq_max running]
  unfold endurance
  rcases report.percentageUsed with _ | used
  · rfl
  · dsimp only [Option.getD_some]
    split_ifs <;> rfl

theorem turn_status (scan : StorageScan) (report : SmartReport)
    (running : scan.status ≠ .skipped) :
    (scan.turn report).status = max scan.status report.severity := by
  -- an unread drive ends the check, so the three steps all start from a verdict
  have judged : (scan.verdict report).status ≠ .skipped := by
    rw [verdict_status]
    split_ifs
    · decide
    · exact running
  have warned : ((scan.verdict report).pending report).status ≠ .skipped := by
    rw [pending_status _ _ judged]
    exact max_ne_skipped judged _
  rw [turn, endurance_status _ _ warned, pending_status _ _ judged, verdict_status,
    SmartReport.severity]
  by_cases failing : report.Failing
  · -- a warning never replaces a critical verdict
    rw [if_pos failing, if_pos failing, max_eq_left (CheckStatus.le_critical _),
      max_eq_left (CheckStatus.le_critical _), max_eq_right (CheckStatus.le_critical _)]
  · rw [if_neg failing, if_neg failing, max_assoc]
    -- of the two warnings, the first that applies decides
    by_cases sectors : report.pendingSectors.getD 0 ≠ 0
    · have warns : report.Warns := .inl sectors
      rw [if_pos sectors, if_pos warns]
      split_ifs <;> rfl
    · rw [if_neg sectors]
      by_cases worn : enduranceWarnPct ≤ report.percentageUsed.getD 0
      · have warns : report.Warns := .inr worn
        rw [if_pos worn, if_pos warns]
        rfl
      · have quiet : ¬ report.Warns := not_or.mpr ⟨sectors, worn⟩
        rw [if_neg worn, if_neg quiet]
        rfl

end StorageScan

theorem SmartReport.ok_le_severity (report : SmartReport) : CheckStatus.ok ≤ report.severity := by
  unfold severity
  split_ifs <;> decide

theorem checkStorageHealth_status (reports : List SmartReport) (skipCode : String) :
    (checkStorageHealth (some reports) skipCode).status =
      worst SmartReport.severity .skipped reports := by
  cases reports with
  | nil => rfl
  | cons report reports =>
    rw [worst_of_le (skipped_le .ok) SmartReport.ok_le_severity (List.cons_ne_nil _ _)]
    have start : ({} : StorageScan).status ≠ .skipped := by decide
    have keeps (scan : StorageScan) (other : SmartReport) (running : scan.status ≠ .skipped) :
        (scan.turn other).status ≠ .skipped := StorageScan.turn_status_ne_skipped other running
    have loop := foldl_verdict keeps StorageScan.turn_status (report :: reports) start le_rfl
    rw [max_eq_right (bottom_le_worst SmartReport.severity .ok _)] at loop
    exact loop

/-! ### Firmware currency -/

/-- What one pending release says on its own. -/
def FirmwareRelease.severity (release : FirmwareRelease) : CheckStatus :=
  if release.urgency == some "critical" then .critical else .warning

theorem checkFirmwareCurrency_status (pending : List FirmwareRelease) :
    (checkFirmwareCurrency (some pending)).status =
      worst FirmwareRelease.severity .ok pending := by
  have any (releases : List FirmwareRelease) (some_ : releases ≠ []) :
      worst FirmwareRelease.severity .ok releases =
        if releases.any (·.urgency == some "critical") then .critical else .warning := by
    induction releases with
    | nil => exact absurd rfl some_
    | cons release releases ih =>
      rw [worst_cons, List.any_cons, FirmwareRelease.severity]
      by_cases last : releases = []
      · subst last
        cases release.urgency == some "critical" <;> rfl
      · rw [ih last]
        cases release.urgency == some "critical" <;>
          cases releases.any (·.urgency == some "critical") <;> rfl
  cases pending with
  | nil => rfl
  | cons release pending => exact (any _ (List.cons_ne_nil _ _)).symm

/-! ### Thermal sanity -/

/-- The status of a reading that is the hottest one. -/
def TemperatureReading.judged (reading : TemperatureReading) : CheckStatus :=
  thermalStatus reading.celsius

/-- What one reading says on its own. -/
def TemperatureReading.severity (reading : TemperatureReading) : CheckStatus :=
  if reading.isPlausible then reading.judged else .skipped

theorem thermalStatus_mono {celsius celsius' : ℚ} (le : celsius ≤ celsius') :
    thermalStatus celsius ≤ thermalStatus celsius' := by
  unfold thermalStatus
  by_cases hot : thermalCritC ≤ celsius'
  · rw [if_pos hot]
    exact CheckStatus.le_critical _
  rw [if_neg hot, if_neg fun other => hot (other.trans le)]
  by_cases warm : thermalWarnC ≤ celsius'
  · rw [if_pos warm]
    split_ifs <;> decide
  · rw [if_neg warm, if_neg fun other => warm (other.trans le)]

theorem judged_hotter (hottest reading : TemperatureReading) :
    (hotter hottest reading).judged = max hottest.judged reading.judged := by
  unfold hotter TemperatureReading.judged
  split_ifs with more
  · exact (max_eq_right (thermalStatus_mono more.le)).symm
  · exact (max_eq_left (thermalStatus_mono (not_lt.mp more))).symm

/-- Implausible readings do not count. -/
theorem worst_plausible_filter (temps : List TemperatureReading) :
    worst TemperatureReading.severity .skipped temps =
      worst TemperatureReading.judged .skipped (temps.filter (·.isPlausible)) := by
  induction temps with
  | nil => rfl
  | cons reading temps ih =>
    rw [worst_cons, ih, TemperatureReading.severity, List.filter_cons]
    cases reading.isPlausible
    · exact max_eq_right (skipped_le _)
    · rfl

theorem checkThermal_status (temps : List TemperatureReading) :
    (checkThermal (some temps)).status = worst TemperatureReading.severity .skipped temps := by
  rw [worst_plausible_filter]
  simp only [checkThermal]
  generalize temps.filter (·.isPlausible) = kept
  rcases kept with _ | ⟨first, rest⟩
  · rfl
  · exact foldl_verdict_of_forall judged_hotter rest (skipped_le first.judged)

/-! ### Disk space -/

/-- What one filesystem says on its own. -/
def DiskUsage.severity (usage : DiskUsage) : CheckStatus :=
  if usage.totalBytes ≤ 0 then .skipped
  else if usage.freePct < diskCritFreePct then .critical
  else if usage.freePct < diskWarnFreePct then .warning
  else .ok

namespace DiskScan

/-- The status that a scan comes to: none as long as no filesystem has a size. -/
def verdict (scan : DiskScan) : CheckStatus :=
  match scan.fullest with
  | none => .skipped
  | some _ => scan.status

/-- Before the first filesystem with a size nothing was found, and later the status is a
verdict. -/
structure Sound (scan : DiskScan) : Prop where
  running : scan.status ≠ .skipped
  quiet : scan.fullest = none → scan.status = .ok

theorem sound_turn (scan : DiskScan) (usage : DiskUsage) (sound : scan.Sound) :
    (scan.turn DiskUsage.freePct usage).Sound where
  running := turn_status_ne_skipped usage sound.running
  quiet nothing := by
    by_cases unsized : usage.totalBytes ≤ 0
    · rw [turn_unsized unsized] at nothing ⊢
      exact sound.quiet nothing
    · rw [turn_fullest (not_le.mp unsized)] at nothing
      cases nothing

theorem verdict_turn (scan : DiskScan) (usage : DiskUsage) (sound : scan.Sound) :
    (scan.turn DiskUsage.freePct usage).verdict = max scan.verdict usage.severity := by
  by_cases unsized : usage.totalBytes ≤ 0
  · rw [turn_unsized unsized, DiskUsage.severity, if_pos unsized, max_eq_left (skipped_le _)]
  have measured : (scan.turn DiskUsage.freePct usage).verdict =
      (scan.turn DiskUsage.freePct usage).status := by
    rw [verdict, turn_fullest (not_le.mp unsized)]
  have before : max scan.verdict usage.severity = max scan.status usage.severity := by
    unfold verdict
    split
    · rename_i nothing
      rw [sound.quiet nothing, DiskUsage.severity, if_neg unsized]
      split_ifs <;> decide
    · rfl
  rw [measured, before, turn, if_neg unsized, DiskUsage.severity, if_neg unsized]
  dsimp only
  by_cases low : usage.freePct < diskCritFreePct
  · rw [if_pos low, if_pos low]
    exact (max_eq_right (CheckStatus.le_critical _)).symm
  · rw [if_neg low, if_neg low, ← raise_eq_max sound.running]
    split_ifs <;> rfl

end DiskScan

theorem checkDiskSpace_status (usages : List DiskUsage) :
    (checkDiskSpace (some usages)).status = worst DiskUsage.severity .skipped usages := by
  have start : ({} : DiskScan).Sound := ⟨by decide, fun _ => rfl⟩
  have loop := foldl_verdict DiskScan.sound_turn DiskScan.verdict_turn usages start
    (skipped_le _)
  have nothing : ({} : DiskScan).verdict = .skipped := rfl
  rw [nothing, max_eq_right (skipped_le _)] at loop
  rw [← loop, checkDiskSpace, checkDiskSpaceBy_eq, DiskScan.verdict]
  rcases (usages.foldl (DiskScan.turn DiskUsage.freePct) {}).fullest with _ | fullest <;> rfl

/-! ### The five checks -/

/-- The law of each check, with what it cannot judge. -/
theorem verdicts_worst_of_parts :
    VerdictLaw (fun wears => checkBatteryWear (some wears)) BatteryWear.Unreadable ∧
      (∀ skipCode, VerdictLaw (fun reports => checkStorageHealth (some reports) skipCode)
        fun _ => False) ∧
      VerdictLaw (fun pending => checkFirmwareCurrency (some pending)) (fun _ => False) ∧
      VerdictLaw (fun temps => checkThermal (some temps))
        (fun reading => reading.celsius ≤ plausibleMinC ∨ plausibleMaxC ≤ reading.celsius) ∧
      VerdictLaw (fun usages => checkDiskSpace (some usages)) (·.totalBytes ≤ 0) := by
  refine ⟨verdictLaw_of_worst checkBatteryWear_status ?_, fun skipCode =>
    verdictLaw_of_worst (checkStorageHealth_status · skipCode) fun _ impossible => impossible.elim,
    verdictLaw_of_worst checkFirmwareCurrency_status fun _ impossible => impossible.elim,
    verdictLaw_of_worst checkThermal_status ?_, verdictLaw_of_worst checkDiskSpace_status ?_⟩
  · intro battery bad
    rw [wearPercent_eq_none_of_unreadable bad]
    exact le_rfl
  · intro reading outside
    have implausible : reading.isPlausible = false := by
      rw [TemperatureReading.isPlausible, Bool.and_eq_false_iff, decide_eq_false_iff_not,
        decide_eq_false_iff_not, not_lt, not_lt]
      exact outside
    rw [TemperatureReading.severity, implausible]
    exact le_rfl
  · intro usage unsized
    rw [DiskUsage.severity, if_pos unsized]

end Lapcare.Core
