import Lapcare.Core.EvidenceOrder
import Lapcare.Core.LevelsReached
import Lapcare.Core.PythonNumbers

/-!
# Numbers that a run cannot compute

The checks divide and print integers as they come. `int / int` raises where the quotient is
beyond binary64, `str` raises on an integer of more than 4300 digits, and nothing catches
either. So a run whose sources fail in every way that the convention admits returns, but one
answer with such an integer ends it.

## Main results

* `Raising.eq_report`, `Raising.report_returns_iff` — what the checks report, and when they do
* `run_degrades_iff` — the runs that return, and what they owe to each other
-/

namespace Lapcare.Core

open Semantics Semantics.Logged

/-! ### The checks, as far as they get -/

namespace Raising

/-- `wear_percent`. -/
def wearPercent (capacityFull capacityDesign : Option Int) : Except PyException (Option ℚ) :=
  match capacityFull, capacityDesign with
  | some full, some design =>
      if design ≤ 0 then .ok none
      else do
        let share ← trueDivide full design
        return some (max ((1 - share) * 100) 0)
  | _, _ => .ok none

/-- One turn of the loop over the batteries. -/
def worseWear (worst : Option ℚ) (battery : BatteryWear) : Except PyException (Option ℚ) := do
  let _ ← wearPercent battery.capacityFull battery.capacityDesign
  return Core.worseWear worst battery

def checkBatteryWear (wears : Option (List BatteryWear)) : Except PyException DiagnosticResult := do
  let _ ← (wears.getD []).foldlM worseWear none
  return Core.checkBatteryWear wears

/-- A count of pending sectors is printed where it warns. -/
def pending (scan : StorageScan) (report : SmartReport) : Except PyException StorageScan := do
  if report.pendingSectors.getD 0 ≠ 0 ∧ scan.status = .ok then
    let _ ← strInt (report.pendingSectors.getD 0)
  return scan.pending report

/-- So is worn endurance. -/
def endurance (scan : StorageScan) (report : SmartReport) : Except PyException StorageScan := do
  if enduranceWarnPct ≤ report.percentageUsed.getD 0 ∧ scan.status = .ok then
    let _ ← strInt (report.percentageUsed.getD 0)
  return scan.endurance report

/-- One turn of the loop over the reports. -/
def turn (scan : StorageScan) (report : SmartReport) : Except PyException StorageScan := do
  let counted ← pending (scan.verdict report) report
  endurance counted report

def checkStorageHealth (reports : Option (List SmartReport)) (skipCode : String) :
    Except PyException DiagnosticResult := do
  let _ ← (reports.getD []).foldlM turn {}
  return Core.checkStorageHealth reports skipCode

/-- One turn of the loop over the filesystems. -/
def diskTurn (scan : DiskScan) (usage : DiskUsage) : Except PyException DiskScan := do
  if 0 < usage.totalBytes then
    let _ ← trueDivide usage.freeBytes usage.totalBytes
  return scan.turn DiskUsage.freePct usage

def checkDiskSpace (usages : Option (List DiskUsage)) : Except PyException DiagnosticResult := do
  let _ ← (usages.getD []).foldlM diskTurn {}
  return Core.checkDiskSpace usages

/-- The checks and the score. Firmware currency and temperatures compute nothing that raises. -/
def report (inputs : Inputs) : Except PyException DiagnosticsReport := do
  let battery ← checkBatteryWear inputs.wears
  let storage ← checkStorageHealth inputs.reports inputs.storageSkip
  let disk ← checkDiskSpace inputs.usages
  let results :=
    [battery, storage, checkFirmwareCurrency inputs.pending, checkThermal inputs.temps, disk]
  let (value, measured, total) := score results
  return { results, score := value, measured, total }

/-- `run`, with what its checks raise. -/
def run (sources : Sources) (includeStorageHealth : Bool) : Gather DiagnosticsReport := do
  let inputs ← gatherInputs sources includeStorageHealth
  MonadExcept.ofExcept (report inputs)

/-- How a run started on no calls ends. -/
def outcome (sources : Sources) (includeStorageHealth : Bool) :
    Except PyException DiagnosticsReport :=
  (exec (run sources includeStorageHealth) []).1

end Raising

/-! ### Answers that can be computed -/

/-- The share of its capacity that a battery still has is a binary64 number. -/
def BatteryWear.Divides (battery : BatteryWear) : Prop :=
  ∀ full ∈ battery.capacityFull, ∀ design ∈ battery.capacityDesign, 0 < design →
    |(full / design : ℚ)| < floatLimit

/-- The free share of a filesystem is one. -/
def DiskUsage.Divides (usage : DiskUsage) : Prop :=
  0 < usage.totalBytes → |(usage.freeBytes / usage.totalBytes : ℚ)| < floatLimit

/-- The number that the warning of a report shows, if it is the first eventful one. -/
def SmartReport.warningNumber (report : SmartReport) : Option Int :=
  if report.Failing then none
  else if report.pendingSectors.getD 0 ≠ 0 then some (report.pendingSectors.getD 0)
  else if enduranceWarnPct ≤ report.percentageUsed.getD 0 then
    some (report.percentageUsed.getD 0)
  else none

/-- It has no more than 4300 digits. -/
def SmartReport.Prints (report : SmartReport) : Prop :=
  ∀ n ∈ report.warningNumber, n.natAbs < 10 ^ maxStrDigits

/-- Of reports only the first eventful one has its number printed. -/
def ReportsPrint (reports : List SmartReport) : Prop :=
  ∀ report, reports.find? SmartReport.isEventful = some report → report.Prints

namespace Raising

/-- What a division leads to does not matter where it is only made. -/
theorem exists_ok_iff {α β : Type} {m : Except PyException α} {b : β} :
    (∃ a, (do let _ ← m; return b : Except PyException β) = .ok a) ↔ ∃ a, m = .ok a := by
  rcases m with e | a
  · exact iff_of_false (fun ⟨_, done⟩ => nomatch done) fun ⟨_, done⟩ => nomatch done
  · exact iff_of_true ⟨b, rfl⟩ ⟨a, rfl⟩

theorem eq_of_ok {α β : Type} {m : Except PyException α} {b b' : β}
    (done : (do let _ ← m; return b : Except PyException β) = .ok b') : b' = b := by
  rcases m with e | a
  · exact nomatch done
  · exact (Except.ok.inj done).symm

theorem trueDivide_returns_iff {a b : Int} :
    (∃ q, trueDivide a b = .ok q) ↔ |(a / b : ℚ)| < floatLimit := by
  rw [trueDivide]
  split_ifs with fits <;> simp [fits]

theorem strInt_returns_iff {n : Int} :
    (∃ text, strInt n = .ok text) ↔ n.natAbs < 10 ^ maxStrDigits := by
  rw [strInt]
  split_ifs with fits <;> simp [fits]

/-! ### The loop over the batteries -/

theorem wearPercent_returns_iff {battery : BatteryWear} :
    (∃ wear, wearPercent battery.capacityFull battery.capacityDesign = .ok wear) ↔
      battery.Divides := by
  rw [BatteryWear.Divides]
  rcases battery.capacityFull with _ | full <;> rcases battery.capacityDesign with _ | design
  · simp [wearPercent]
  · simp [wearPercent]
  · simp [wearPercent]
  · rw [wearPercent]
    by_cases undesigned : design ≤ 0
    · rw [if_pos undesigned]
      exact iff_of_true ⟨none, rfl⟩ (by rintro _ ⟨⟩ _ ⟨⟩ designed; omega)
    · have designed : 0 < design := not_le.mp undesigned
      rw [if_neg undesigned]
      simp only [Option.mem_some_iff, forall_eq', designed, forall_const]
      rw [← trueDivide_returns_iff]
      rcases trueDivide full design with e | share
      · exact iff_of_false (fun ⟨_, done⟩ => nomatch done) fun ⟨_, done⟩ => nomatch done
      · exact iff_of_true ⟨_, rfl⟩ ⟨share, rfl⟩

theorem eq_worseWear {worst worst' : Option ℚ} {battery : BatteryWear}
    (done : worseWear worst battery = .ok worst') : worst' = Core.worseWear worst battery :=
  eq_of_ok done

theorem checkBatteryWear_returns_iff {wears : Option (List BatteryWear)} :
    (∃ result, checkBatteryWear wears = .ok result) ↔
      ∀ battery ∈ wears.getD [], battery.Divides := by
  rw [checkBatteryWear, exists_ok_iff, exists_foldlM_ok_iff fun _ _ _ => eq_worseWear]
  simp only [worseWear, exists_ok_iff, wearPercent_returns_iff]
  constructor
  · intro each battery member
    obtain ⟨before, after, same⟩ := List.append_of_mem member
    exact each before battery after same
  · intro each before battery after same
    exact each battery (by simp [same])

/-! ### The loop over the reports -/

/-- A step that prints a number where it warns, and else does not. -/
theorem guarded_returns_iff {α : Type} {warns : Prop} [Decidable warns] {n : Int} {b : α} :
    (∃ a, (do
      if warns then
        let _ ← strInt n
      return b : Except PyException α) = .ok a) ↔ (warns → n.natAbs < 10 ^ maxStrDigits) := by
  by_cases warned : warns
  · simp only [warned, if_true, forall_const]
    exact exists_ok_iff.trans strInt_returns_iff
  · simp only [warned, if_false, false_implies, iff_true]
    exact ⟨b, rfl⟩

theorem eq_of_guarded {α : Type} {warns : Prop} [Decidable warns] {n : Int} {b b' : α}
    (done : (do
      if warns then
        let _ ← strInt n
      return b : Except PyException α) = .ok b') : b' = b := by
  by_cases warned : warns
  · simp only [warned, if_true] at done
    exact eq_of_ok done
  · simp only [warned, if_false] at done
    exact (Except.ok.inj done).symm

theorem eq_turn {scan later : StorageScan} {report : SmartReport}
    (done : turn scan report = .ok later) : later = scan.turn report := by
  rw [turn] at done
  rcases counted : pending (scan.verdict report) report with e | between
  · rw [counted] at done
    exact nomatch done
  · rw [counted] at done
    obtain rfl := eq_of_guarded counted
    exact eq_of_guarded done

/-- On a status that is fine a turn returns if it can print the number of its warning. -/
theorem turn_returns_iff {scan : StorageScan} {report : SmartReport} :
    (∃ later, turn scan report = .ok later) ↔ (scan.status = .ok → report.Prints) := by
  have steps : (∃ later, turn scan report = .ok later) ↔
      (∃ between, pending (scan.verdict report) report = .ok between) ∧
        ∃ later, endurance ((scan.verdict report).pending report) report = .ok later := by
    rw [turn]
    rcases counted : pending (scan.verdict report) report with e | between
    · exact iff_of_false (fun ⟨_, done⟩ => nomatch done) fun ⟨⟨_, done⟩, _⟩ => nomatch done
    · obtain rfl := eq_of_guarded counted
      exact (and_iff_right ⟨_, rfl⟩).symm
  rw [steps, pending, endurance, guarded_returns_iff, guarded_returns_iff, SmartReport.Prints,
    SmartReport.warningNumber]
  by_cases failing : report.Failing
  · -- a failing drive makes the status critical, and nothing is printed on that
    have critical : (scan.verdict report).status = .critical := by
      have passed : report.passed = some false := failing
      rw [StorageScan.verdict, passed]
    have loud : ((scan.verdict report).pending report).status ≠ .ok := by
      rw [StorageScan.pending_loud _ report (by simp [critical]), critical]
      decide
    simp [failing, critical, loud]
  · obtain ⟨-, status⟩ := scan.verdict_passing report failing
    rw [if_neg failing, ← status]
    generalize scan.verdict report = judged
    by_cases quiet : judged.status = .ok
    · rw [StorageScan.pending_quiet _ report quiet]
      by_cases sectors : report.pendingSectors.getD 0 ≠ 0
      · -- the count warns, and silences what would come after it
        simp [quiet, sectors]
      · by_cases worn : enduranceWarnPct ≤ report.percentageUsed.getD 0
        · simp [quiet, sectors, worn]
        · simp [quiet, sectors, worn]
    · rw [StorageScan.pending_loud _ report quiet]
      simp [quiet]

theorem checkStorageHealth_returns_iff {reports : Option (List SmartReport)} {skipCode : String} :
    (∃ result, checkStorageHealth reports skipCode = .ok result) ↔
      ReportsPrint (reports.getD []) := by
  rw [checkStorageHealth, exists_ok_iff, exists_foldlM_ok_iff fun _ _ _ => eq_turn]
  generalize reports.getD [] = reports
  simp only [turn_returns_iff, (StorageScan.told_foldl _).status]
  constructor
  · intro each report found
    obtain ⟨-, before, after, same, calm⟩ := List.find?_eq_some_iff_append.mp found
    exact each before report after same (List.find?_eq_none.mpr (by simpa using calm))
  · intro prints before report after same calm
    by_cases eventful : report.isEventful = true
    · refine prints report (List.find?_eq_some_iff_append.mpr ⟨eventful, before, after, same, ?_⟩)
      simpa using calm
    · -- a report that says nothing has no number to print
      have quiet : ¬ report.Eventful := by simpa [SmartReport.isEventful] using eventful
      obtain ⟨fine, still⟩ := not_or.mp quiet
      obtain ⟨sectors, worn⟩ := not_or.mp still
      simp [SmartReport.Prints, SmartReport.warningNumber, fine, sectors, worn]

/-! ### The loop over the filesystems -/

theorem eq_diskTurn {scan later : DiskScan} {usage : DiskUsage}
    (done : diskTurn scan usage = .ok later) : later = scan.turn DiskUsage.freePct usage := by
  rw [diskTurn] at done
  by_cases measured : 0 < usage.totalBytes
  · simp only [measured, if_true] at done
    exact eq_of_ok done
  · simp only [measured, if_false] at done
    exact (Except.ok.inj done).symm

theorem diskTurn_returns_iff {scan : DiskScan} {usage : DiskUsage} :
    (∃ later, diskTurn scan usage = .ok later) ↔ usage.Divides := by
  rw [diskTurn, DiskUsage.Divides]
  by_cases measured : 0 < usage.totalBytes
  · simp only [measured, if_true, forall_const]
    exact exists_ok_iff.trans trueDivide_returns_iff
  · simp only [measured, if_false, false_implies, iff_true]
    exact ⟨_, rfl⟩

theorem checkDiskSpace_returns_iff {usages : Option (List DiskUsage)} :
    (∃ result, checkDiskSpace usages = .ok result) ↔
      ∀ usage ∈ usages.getD [], usage.Divides := by
  rw [checkDiskSpace, exists_ok_iff, exists_foldlM_ok_iff fun _ _ _ => eq_diskTurn]
  simp only [diskTurn_returns_iff]
  constructor
  · intro each usage member
    obtain ⟨before, after, same⟩ := List.append_of_mem member
    exact each before usage after same
  · intro each before usage after same
    exact each usage (by simp [same])

end Raising

/-! ### A run -/

/-- All that the checks are handed can be computed. -/
structure Inputs.Fit (inputs : Inputs) : Prop where
  wears : ∀ battery ∈ inputs.wears.getD [], battery.Divides
  reports : ReportsPrint (inputs.reports.getD [])
  usages : ∀ usage ∈ inputs.usages.getD [], usage.Divides

namespace Raising

/-- What is reported, if anything is, is what the checks say without a limit on numbers. -/
theorem eq_report {inputs : Inputs} {reported : DiagnosticsReport}
    (done : report inputs = .ok reported) : reported = inputs.report := by
  rw [report] at done
  rcases battery : checkBatteryWear inputs.wears with e | result
  · rw [battery] at done; exact nomatch done
  rcases storage : checkStorageHealth inputs.reports inputs.storageSkip with e | result'
  · rw [battery, storage] at done; exact nomatch done
  rcases disk : checkDiskSpace inputs.usages with e | result''
  · rw [battery, storage, disk] at done; exact nomatch done
  rw [battery, storage, disk] at done
  obtain rfl := eq_of_ok battery
  obtain rfl := eq_of_ok storage
  obtain rfl := eq_of_ok disk
  exact (Except.ok.inj done).symm

theorem report_returns_iff {inputs : Inputs} :
    (∃ reported, report inputs = .ok reported) ↔ inputs.Fit := by
  have parts : (∃ reported, report inputs = .ok reported) ↔
      (∃ result, checkBatteryWear inputs.wears = .ok result) ∧
        (∃ result, checkStorageHealth inputs.reports inputs.storageSkip = .ok result) ∧
        ∃ result, checkDiskSpace inputs.usages = .ok result := by
    rw [report]
    rcases checkBatteryWear inputs.wears with e | battery
    · exact iff_of_false (fun ⟨_, done⟩ => nomatch done) fun ⟨⟨_, done⟩, _⟩ => nomatch done
    rcases checkStorageHealth inputs.reports inputs.storageSkip with e | storage
    · exact iff_of_false (fun ⟨_, done⟩ => nomatch done) fun ⟨_, ⟨_, done⟩, _⟩ => nomatch done
    rcases checkDiskSpace inputs.usages with e | disk
    · exact iff_of_false (fun ⟨_, done⟩ => nomatch done) fun ⟨_, _, _, done⟩ => nomatch done
    · exact iff_of_true ⟨_, rfl⟩ ⟨⟨_, rfl⟩, ⟨_, rfl⟩, _, rfl⟩
  rw [parts, checkBatteryWear_returns_iff, checkStorageHealth_returns_iff,
    checkDiskSpace_returns_iff]
  exact ⟨fun ⟨wears, reports, usages⟩ => ⟨wears, reports, usages⟩,
    fun fit => ⟨fit.wears, fit.reports, fit.usages⟩⟩

theorem outcome_eq (sources : Sources) (includeStorageHealth : Bool) :
    outcome sources includeStorageHealth = inputsAlone sources includeStorageHealth >>= report := by
  rw [outcome, run, exec_bind_fst, gatherInputs_outcome]
  rcases inputsAlone sources includeStorageHealth with e | inputs
  · rfl
  · change (exec (MonadExcept.ofExcept (report inputs)) _).1 = report inputs
    rcases report inputs with e | reported <;> rfl

end Raising

/-- What the sources of a run answer, if they answer, can be computed. -/
structure Sources.Fits (sources : Sources) (includeStorageHealth : Bool) : Prop where
  wears : ∀ provider, sources.batteryWear = some provider →
    ∀ wears, alone provider.listBatteries = .ok wears → ∀ battery ∈ wears, battery.Divides
  reports : includeStorageHealth = true → ∀ provider, sources.storage = some provider →
    ∀ reports, alone (readReports provider) = .ok reports → ReportsPrint reports
  usages : ∀ provider, sources.disk = some provider →
    ∀ usages, alone provider.listUsage = .ok usages → ∀ usage ∈ usages, usage.Divides

theorem reportsPrint_nil : ReportsPrint [] :=
  fun _ found => nomatch found

/-- What holds of the answer of a source holds of what is gathered, and of nothing. -/
theorem getD_gathered_iff {α : Type} {m : Gather (List α)} (only : OnlyLapcare (alone m))
    {read : Option (List α)} (done : alone (orElse (some <$> m) none) = .ok read)
    {p : List α → Prop} (nothing : p []) :
    p (read.getD []) ↔ ∀ items, alone m = .ok items → p items := by
  rw [alone_orElse only] at done
  obtain rfl := Except.ok.inj done
  rcases alone m with e | items
  · exact iff_of_true nothing fun _ raised => nomatch raised
  · exact ⟨fun holds _ same => Except.ok.inj same ▸ holds, fun each => each items rfl⟩

section Fit

variable {sources : Sources} {includeStorageHealth : Bool} {inputs : Inputs}

theorem wears_fit_iff (keep : sources.KeepConvention)
    (done : alone (gatherWears sources.batteryWear) = .ok inputs.wears) :
    (∀ battery ∈ inputs.wears.getD [], battery.Divides) ↔
      ∀ provider, sources.batteryWear = some provider →
        ∀ wears, alone provider.listBatteries = .ok wears → ∀ battery ∈ wears, battery.Divides := by
  cases source : sources.batteryWear with
  | none =>
    rw [source] at done
    obtain same : none = inputs.wears := Except.ok.inj done
    simp [← same]
  | some provider =>
    rw [source] at done
    have only : OnlyLapcare (alone provider.listBatteries) := keep.batteryWear provider source []
    simpa using getD_gathered_iff (p := fun wears => ∀ battery ∈ wears, battery.Divides) only done
      (by simp)

theorem usages_fit_iff (keep : sources.KeepConvention)
    (done : alone (gatherUsages sources.disk) = .ok inputs.usages) :
    (∀ usage ∈ inputs.usages.getD [], usage.Divides) ↔
      ∀ provider, sources.disk = some provider →
        ∀ usages, alone provider.listUsage = .ok usages → ∀ usage ∈ usages, usage.Divides := by
  cases source : sources.disk with
  | none =>
    rw [source] at done
    obtain same : none = inputs.usages := Except.ok.inj done
    simp [← same]
  | some provider =>
    rw [source] at done
    have only : OnlyLapcare (alone provider.listUsage) := keep.disk provider source []
    simpa using getD_gathered_iff (p := fun usages => ∀ usage ∈ usages, usage.Divides) only done
      (by simp)

theorem reports_fit_iff (keep : sources.KeepConvention)
    (done : alone (gatherReports includeStorageHealth sources.storage) =
      .ok (inputs.reports, inputs.storageSkip)) :
    ReportsPrint (inputs.reports.getD []) ↔
      (includeStorageHealth = true → ∀ provider, sources.storage = some provider →
        ∀ reports, alone (readReports provider) = .ok reports → ReportsPrint reports) := by
  cases source : sources.storage with
  | none =>
    rw [source] at done
    obtain ⟨same, -⟩ := Prod.mk.inj (Except.ok.inj done)
    exact iff_of_true (same ▸ reportsPrint_nil) fun _ _ absent => nomatch absent
  | some provider =>
    have only : OnlyLapcare (alone (readReports provider)) :=
      fun e raised => raises_readReports (keep.storage provider source) [] e raised
    obtain ⟨skipCode, gathered⟩ := alone_gatherReports only includeStorageHealth
    rw [source, gathered] at done
    obtain ⟨same, -⟩ := Prod.mk.inj (Except.ok.inj done)
    rw [← same]
    cases includeStorageHealth with
    | false => exact iff_of_true reportsPrint_nil fun requested => nomatch requested
    | true =>
      simp only [if_true, forall_const, Option.some.injEq, forall_eq']
      rcases alone (readReports provider) with e | reports
      · exact iff_of_true reportsPrint_nil fun _ raised => nomatch raised
      · exact ⟨fun holds _ same => Except.ok.inj same ▸ holds, fun each => each reports rfl⟩

/-- The inputs of a run can be computed exactly if the answers of its sources can. -/
theorem fit_iff (keep : sources.KeepConvention)
    (done : inputsAlone sources includeStorageHealth = .ok inputs) :
    inputs.Fit ↔ sources.Fits includeStorageHealth := by
  obtain ⟨wears, reports, -, -, usages⟩ := inputsAlone_eq_ok_iff.mp done
  constructor
  · intro fit
    exact ⟨(wears_fit_iff keep wears).mp fit.wears, (reports_fit_iff keep reports).mp fit.reports,
      (usages_fit_iff keep usages).mp fit.usages⟩
  · intro fits
    exact ⟨(wears_fit_iff keep wears).mpr fits.wears,
      (reports_fit_iff keep reports).mpr fits.reports,
      (usages_fit_iff keep usages).mpr fits.usages⟩

theorem outcome_returns_iff (keep : sources.KeepConvention) (includeStorageHealth : Bool) :
    (∃ report, Raising.outcome sources includeStorageHealth = .ok report) ↔
      sources.Fits includeStorageHealth := by
  obtain ⟨inputs, done⟩ := inputsAlone_returns keep includeStorageHealth
  rw [Raising.outcome_eq, done, ← fit_iff keep done]
  exact Raising.report_returns_iff

/-- A report is that of the run without a limit on numbers. -/
theorem runOutcome_of_outcome {report : DiagnosticsReport}
    (done : Raising.outcome sources includeStorageHealth = .ok report) :
    runOutcome sources includeStorageHealth = .ok report := by
  rw [Raising.outcome_eq] at done
  rw [runOutcome_eq]
  rcases gathered : inputsAlone sources includeStorageHealth with e | inputs
  · rw [gathered] at done
    exact nomatch done
  · rw [gathered] at done
    exact congrArg Except.ok (Raising.eq_report done).symm

end Fit

/-- What a run owes to its caller: five results in the order of `checkIds`, each explained,
and scored as `score` says. -/
structure DiagnosticsReport.Complete (report : DiagnosticsReport) : Prop where
  order : report.results.map (·.checkId) = checkIds
  explained : ∀ result ∈ report.results, Explained result
  scored : (report.score, report.measured, report.total) = Core.score report.results

/-- A run of sources that fail only by the convention returns a complete report exactly if
what they answer can be computed. Two runs that differ in one source return the same results
for the other four checks exactly if both return. -/
theorem run_degrades_iff (sources : Sources) (keep : sources.KeepConvention)
    (includeStorageHealth : Bool) :
    ((∃ report, Raising.outcome sources includeStorageHealth = .ok report ∧ report.Complete) ↔
      sources.Fits includeStorageHealth) ∧
    ∀ (source : Source) (other : Sources), other.KeepConvention → sources.AgreeOff source other →
      ((∃ left right, Raising.outcome sources includeStorageHealth = .ok left ∧
          Raising.outcome other includeStorageHealth = .ok right ∧
          left.without source = right.without source) ↔
        sources.Fits includeStorageHealth ∧ other.Fits includeStorageHealth) := by
  refine ⟨?_, fun source other otherKeep agree => ?_⟩
  · rw [← outcome_returns_iff keep]
    refine ⟨fun ⟨report, done, _⟩ => ⟨report, done⟩, fun ⟨report, done⟩ => ⟨report, done, ?_⟩⟩
    have ideal := runOutcome_of_outcome done
    obtain ⟨inputs, -, rfl⟩ := runOutcome_eq_ok_iff.mp ideal
    exact ⟨inputs.results_checkIds, explained_of_runOutcome ideal, inputs.report_score⟩
  · rw [← outcome_returns_iff keep, ← outcome_returns_iff otherKeep]
    refine ⟨fun ⟨left, right, leftDone, rightDone, _⟩ => ⟨⟨left, leftDone⟩, right, rightDone⟩,
      fun ⟨⟨left, leftDone⟩, right, rightDone⟩ => ⟨left, right, leftDone, rightDone, ?_⟩⟩
    exact without_eq_of_agreeOff agree (runOutcome_of_outcome leftDone)
      (runOutcome_of_outcome rightDone)

/-! ### Failures at several steps -/

/-- A second drive whose prompt is dismissed. -/
def dismissingStorage : StorageProvider where
  devices _ := .ok [{ name := "sda" }, { name := "sdb" }]
  smart _ name :=
    if name = "sdb" then .error (.lapcare (.privilegedActionDenied "read-smart"))
    else .ok { deviceName := name, passed := some true, pendingSectors := some 3 }

/-- A daemon that answers for one device, and no more. -/
def tiringFirmware : FirmwareProvider where
  devices _ := .ok [{ id := "dock", updatable := true }, { id := "system", updatable := true }]
  upgrades calls _ :=
    if calls.length = 1 then .ok [{ version := "1.2" }]
    else .error (.lapcare (.providerTimeout "fwupd" "no reply"))

def faltering : Sources where
  batteryWear := some ⟨fun _ => .ok
    [{ name := "BAT0", capacityFull := some 40, capacityDesign := some 50 }, { name := "BAT1" }]⟩
  storage := some dismissingStorage
  firmware := some tiringFirmware
  thermal := some ⟨fun _ => .error (.lapcare (.providerUnavailable "hwmon" .toolMissing none))⟩
  disk := some ⟨fun _ => .ok [{ mountpoint := "/", totalBytes := 100, freeBytes := 50 }]⟩

/-- The same machine, where the prompt is not dismissed. -/
def authorized : Sources :=
  { faltering with
    storage := some
      { dismissingStorage with
        smart := fun _ name =>
          .ok { deviceName := name, passed := some true, pendingSectors := some 3 } } }

theorem faltering_keepConvention : faltering.KeepConvention where
  batteryWear := by
    rintro _ ⟨⟩ calls
    exact onlyLapcare_ok _
  storage := by
    rintro _ ⟨⟩
    refine ⟨fun calls => onlyLapcare_ok _, fun calls name => ?_⟩
    simp only [dismissingStorage]
    split_ifs
    · exact onlyLapcare_lapcare _
    · exact onlyLapcare_ok _
  firmware := by
    rintro _ ⟨⟩
    refine ⟨fun calls => onlyLapcare_ok _, fun calls id => ?_⟩
    simp only [tiringFirmware]
    split_ifs
    · exact onlyLapcare_ok _
    · exact onlyLapcare_lapcare _
  thermal := by
    rintro _ ⟨⟩ calls
    exact onlyLapcare_lapcare _
  disk := by
    rintro _ ⟨⟩ calls
    exact onlyLapcare_ok _

theorem authorized_keepConvention : authorized.KeepConvention :=
  { faltering_keepConvention with
    storage := by
      rintro _ ⟨⟩
      exact ⟨fun calls => onlyLapcare_ok _, fun calls name => onlyLapcare_ok _⟩ }

theorem below_floatLimit {q : ℚ} (small : |q| ≤ 1) : |q| < floatLimit :=
  small.trans_lt (by rw [floatLimit]; decide +kernel)

theorem faltering_fits : faltering.Fits true where
  wears := by
    rintro _ ⟨⟩ wears read battery member
    obtain rfl := Except.ok.inj read
    simp only [List.mem_cons, List.not_mem_nil, or_false] at member
    rcases member with rfl | rfl
    · rintro _ ⟨⟩ _ ⟨⟩ -
      exact below_floatLimit (by norm_num [abs_le])
    · rintro _ ⟨⟩
  reports := by
    rintro - _ ⟨⟩ reports read
    exact nomatch read
  usages := by
    rintro _ ⟨⟩ usages read usage member
    obtain rfl := Except.ok.inj read
    obtain rfl := List.mem_singleton.mp member
    exact fun _ => below_floatLimit (by norm_num [abs_le])

theorem authorized_fits : authorized.Fits true where
  wears := faltering_fits.wears
  reports := by
    rintro - _ ⟨⟩ reports read report found
    obtain rfl := Except.ok.inj read
    obtain rfl := Option.some.inj found
    rintro n ⟨⟩
    decide +kernel
  usages := faltering_fits.usages

/-- The drive that is not read, the device that is not answered for and the sensors that are
missing cost three checks, and the first does not change what the others say. -/
theorem run_degrades_iff_faltering :
    (∃ report, Raising.outcome faltering true = .ok report ∧ report.Complete) ∧
      (∃ left right, Raising.outcome faltering true = .ok left ∧
        Raising.outcome authorized true = .ok right ∧
        left.without .storage = right.without .storage) ∧
      (Raising.outcome faltering true).map (fun report => report.results.map (·.skipCode)) =
        .ok ["", "declined", "unavailable", "unavailable", ""] := by
  obtain ⟨returns, isolates⟩ := run_degrades_iff faltering faltering_keepConvention true
  have agree : faltering.AgreeOff .storage authorized :=
    ⟨fun _ => rfl, fun off => (off rfl).elim, fun _ => rfl, fun _ => rfl, fun _ => rfl⟩
  exact ⟨returns.mpr faltering_fits,
    (isolates .storage authorized authorized_keepConvention agree).mpr
      ⟨faltering_fits, authorized_fits⟩, by decide +kernel⟩

/-- A battery whose capacity is far beyond its design. -/
def hugeBattery : Sources where
  batteryWear := some ⟨fun _ => .ok
    [{ name := "BAT0", capacityFull := some (10 ^ 400), capacityDesign := some 1 }]⟩

/-- Its wear cannot be computed, and the run ends with what Python raises. -/
theorem run_raises_hugeBattery :
    hugeBattery.KeepConvention ∧ Raising.outcome hugeBattery false =
      .error (.foreign "OverflowError" "integer division result too large for a float") := by
  refine ⟨?_, by decide +kernel⟩
  exact
    { Sources.keepConvention_absent with
      batteryWear := by
        rintro _ ⟨⟩ calls
        exact onlyLapcare_ok _ }

end Lapcare.Core
