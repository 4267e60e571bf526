import Lapcare.Core.NamedMounts
import Lapcare.Core.WorstVerdict
import Lapcare.Semantics.FirstOccurrence

/-!
# Evidence and the order of enumeration

Two checks go through a list that the system enumerates. What they record of items in a
critical state does not depend on the order. A warning is recorded only on a status that
is still fine, so the one warning of a result is that of the first item which says anything
at all.

## Main results

* `orderLaw_of_parts` — evidence in two parts, of which one follows the first item
* `StorageScan.told_foldl` — what the loop over the drives records
* `evidence_order` — the law of both checks
-/

namespace Lapcare.Core

open Semantics Text

/-! ### Evidence in two parts -/

abbrev Metric := String × String

/-- How the evidence for a list of items depends on their order. Of the `eventful` items
each may have a `warning` of its own. -/
structure OrderLaw {α : Type} (evidence : List α → List Metric) (isWarning : Metric → Bool)
    (eventful : α → Bool) (warning : α → Option Metric) (allowed : List α → Prop) : Prop where
  /-- Everything but the warnings is recorded in every order. -/
  others : ∀ items order : List α, allowed items → order.Perm items →
    ((evidence order).filter (! isWarning ·)).Perm ((evidence items).filter (! isWarning ·))
  /-- There is at most one warning. -/
  once : ∀ items : List α, (evidence items).countP isWarning ≤ 1
  /-- All orders lead to the same evidence exactly if all eventful items have the same
  warning. -/
  whole : ∀ items : List α, allowed items →
    ((∀ order : List α, order.Perm items → (evidence order).Perm (evidence items)) ↔
      ∀ first ∈ items, eventful first = true → ∀ second ∈ items, eventful second = true →
        warning first = warning second)

theorem toList_perm_iff {γ : Type} {first second : Option γ} :
    first.toList.Perm second.toList ↔ first = second := by
  cases first <;> cases second <;> simp

section Parts

variable {α : Type} {evidence : List α → List Metric} {isWarning : Metric → Bool}
  {eventful : α → Bool} {warning : α → Option Metric} {allowed : List α → Prop}

theorem mem_bind_find? {items : List α} {metric : Metric}
    (member : metric ∈ ((items.find? eventful).bind warning).toList) :
    ∃ item, warning item = some metric := by
  rw [Option.mem_toList] at member
  obtain ⟨item, -, said⟩ := Option.bind_eq_some_iff.1 member
  exact ⟨item, said⟩

/-- Evidence that is a steady part and the warning of the first eventful item. -/
theorem orderLaw_of_parts (steady : List α → List Metric)
    (parts : ∀ items,
      (evidence items).Perm (steady items ++ ((items.find? eventful).bind warning).toList))
    (calm : ∀ items, ∀ metric ∈ steady items, isWarning metric = false)
    (keeps : ∀ items order, allowed items → order.Perm items → (steady order).Perm (steady items))
    (warns : ∀ item metric, warning item = some metric → isWarning metric = true) :
    OrderLaw evidence isWarning eventful warning allowed where
  others items order usual perm := by
    -- without the warnings, the evidence is its steady part
    have only (list : List α) : ((evidence list).filter (! isWarning ·)).Perm (steady list) := by
      have kept : (steady list).filter (! isWarning ·) = steady list := by
        apply List.filter_eq_self.2
        intro metric member
        rw [calm list metric member]
        rfl
      have dropped :
          ((list.find? eventful).bind warning).toList.filter (! isWarning ·) = [] := by
        apply List.filter_eq_nil_iff.2
        intro metric member
        obtain ⟨item, said⟩ := mem_bind_find? member
        simp [warns item metric said]
      have split := (parts list).filter (! isWarning ·)
      rw [List.filter_append, kept, dropped, List.append_nil] at split
      exact split
    exact (only order).trans ((keeps items order usual perm).trans (only items).symm)
  once items := by
    have none_ : (steady items).countP isWarning = 0 := by
      apply List.countP_eq_zero.2
      intro metric member
      simp [calm items metric member]
    -- the steady part warns of nothing, the rest is one entry at most
    rw [(parts items).countP_eq, List.countP_append, none_, Nat.zero_add]
    apply List.countP_le_length.trans
    cases (items.find? eventful).bind warning <;> simp
  whole items usual := by
    rw [← find?_perm_iff]
    apply forall_congr'
    intro order
    apply forall_congr'
    intro perm
    have steadily := keeps items order usual perm
    rw [← toList_perm_iff]
    constructor
    · intro same
      -- the steady parts cancel
      have whole := (parts order).symm.trans (same.trans (parts items))
      exact (List.perm_append_left_iff _).1 ((steadily.append_right _).symm.trans whole)
    · intro same
      exact (parts order).trans ((steadily.append same).trans (parts items).symm)

end Parts

/-! ### Storage health -/

namespace SmartReport

/-- The report takes the status away from fine. -/
def Eventful (report : SmartReport) : Prop :=
  report.Failing ∨ report.Warns

instance : DecidablePred Eventful := fun report =>
  inferInstanceAs (Decidable (report.Failing ∨ report.Warns))

def isEventful (report : SmartReport) : Bool :=
  report.Eventful

/-- The warning that the report leads to where it is the first eventful one. A failing
drive has none, and pending sectors come before endurance. -/
def warning (report : SmartReport) : Option Metric :=
  if report.Failing then none
  else if report.pendingSectors.getD 0 ≠ 0 then
    some ("pending_sectors", toString (report.pendingSectors.getD 0))
  else if enduranceWarnPct ≤ report.percentageUsed.getD 0 then
    some ("endurance_used_pct", toString (report.percentageUsed.getD 0))
  else none

theorem warning_of_not_eventful {report : SmartReport} (calm : ¬ report.Eventful) :
    report.warning = none := by
  obtain ⟨fine, quiet⟩ := not_or.1 calm
  obtain ⟨sectors, worn⟩ := not_or.1 quiet
  rw [warning, if_neg fine, if_neg sectors, if_neg worn]

end SmartReport

def isStorageWarning (metric : Metric) : Bool :=
  metric.1 = "pending_sectors" ∨ metric.1 = "endurance_used_pct"

/-- The drives that are failing, each under its name. -/
def failingDevices (reports : List SmartReport) : List Metric :=
  (reports.filter fun report => decide report.Failing).map fun report =>
    ("failing_device", report.deviceName)

/-- What is recorded in every order. -/
def steadyStorage (reports : List SmartReport) : List Metric :=
  failingDevices reports ++
    if reports = [] then [] else [("devices", toString reports.length)]

namespace StorageScan

section Steps

variable (scan : StorageScan) (report : SmartReport)

theorem pending_loud (loud : scan.status ≠ .ok) : scan.pending report = scan := by
  unfold pending
  split
  · exact if_neg fun warns => loud warns.2
  · rfl

theorem endurance_loud (loud : scan.status ≠ .ok) : scan.endurance report = scan := by
  unfold endurance
  split
  · exact if_neg fun warns => loud warns.2
  · rfl

theorem pending_quiet (quiet : scan.status = .ok) :
    scan.pending report =
      if report.pendingSectors.getD 0 ≠ 0 then
        { scan with
          status := .warning
          metrics :=
            scan.metrics ++ [("pending_sectors", toString (report.pendingSectors.getD 0))] }
      else scan := by
  unfold pending
  cases report.pendingSectors with
  | none => rfl
  | some sectors => simp only [quiet, and_true, Option.getD_some]

theorem endurance_quiet (quiet : scan.status = .ok) :
    scan.endurance report =
      if enduranceWarnPct ≤ report.percentageUsed.getD 0 then
        { scan with
          status := .warning
          metrics :=
            scan.metrics ++ [("endurance_used_pct", toString (report.percentageUsed.getD 0))] }
      else scan := by
  unfold endurance
  cases report.percentageUsed with
  | none => rfl
  | some used => simp only [quiet, and_true, Option.getD_some]

theorem verdict_passing (passing : ¬ report.Failing) :
    (scan.verdict report).metrics = scan.metrics ∧
      (scan.verdict report).status = scan.status := by
  unfold verdict
  split
  case h_1 failing => exact absurd failing passing
  all_goals exact ⟨rfl, rfl⟩

end Steps

/-- What one turn records: a failing drive always, a warning on a status that is fine. -/
theorem turn_metrics (scan : StorageScan) (report : SmartReport) :
    (scan.turn report).metrics =
      scan.metrics ++ failingDevices [report] ++
        if scan.status = .ok then report.warning.toList else [] := by
  by_cases failing : report.Failing
  · have passed : report.passed = some false := failing
    have silent : report.warning = none := if_pos failing
    -- a failing drive makes the status critical, and nothing warns after it
    have judged : scan.verdict report =
        { scan with
          status := .critical
          metrics := scan.metrics ++ [("failing_device", report.deviceName)] } := by
      rw [verdict, passed]
    have loud : (scan.verdict report).status ≠ .ok := by simp [judged]
    rw [turn, pending_loud _ report loud, endurance_loud _ report loud, judged, silent]
    simp [failingDevices, failing]
  · obtain ⟨metrics, status⟩ := verdict_passing scan report failing
    have none_ : failingDevices [report] = [] := by simp [failingDevices, failing]
    rw [none_, List.append_nil, turn, SmartReport.warning, if_neg failing, ← metrics, ← status]
    generalize scan.verdict report = judged
    by_cases quiet : judged.status = .ok
    · rw [if_pos quiet, pending_quiet _ report quiet]
      by_cases sectors : report.pendingSectors.getD 0 ≠ 0
      · -- a warning silences the one that would come after it
        rw [if_pos sectors, if_pos sectors, endurance_loud _ report (by simp)]
        rfl
      · rw [if_neg sectors, if_neg sectors, endurance_quiet _ report quiet]
        split_ifs
        · rfl
        · exact (List.append_nil _).symm
    · rw [if_neg quiet, pending_loud _ report quiet, endurance_loud _ report quiet, List.append_nil]

/-- The loop has run over these reports. -/
structure Told (scan : StorageScan) (reports : List SmartReport) : Prop where
  status : scan.status = .ok ↔ reports.find? SmartReport.isEventful = none
  metrics : scan.metrics.Perm
    (failingDevices reports ++
      ((reports.find? SmartReport.isEventful).bind SmartReport.warning).toList)

theorem turn_status_eq_ok_iff (scan : StorageScan) (report : SmartReport)
    (running : scan.status ≠ .skipped) :
    (scan.turn report).status = .ok ↔ scan.status = .ok ∧ ¬ report.Eventful := by
  rw [turn_status scan report running, SmartReport.severity, SmartReport.Eventful]
  by_cases failing : report.Failing
  · rw [if_pos failing, max_eq_right (CheckStatus.le_critical _)]
    simp [failing]
  · rw [if_neg failing]
    by_cases warns : report.Warns
    · rw [if_pos warns]
      cases scan.status <;> simp [warns] <;> decide
    · rw [if_neg warns]
      cases status : scan.status with
      | skipped => exact absurd status running
      | ok | warning | critical => simp [failing, warns] <;> decide

theorem told_turn {scan : StorageScan} {reports : List SmartReport} (told : scan.Told reports)
    (running : scan.status ≠ .skipped) (report : SmartReport) :
    (scan.turn report).Told (reports ++ [report]) where
  status := by
    rw [turn_status_eq_ok_iff scan report running, told.status, List.find?_append]
    cases reports.find? SmartReport.isEventful <;> simp [SmartReport.isEventful]
  metrics := by
    have split : failingDevices (reports ++ [report]) =
        failingDevices reports ++ failingDevices [report] := by
      simp [failingDevices, List.filter_append]
    rw [turn_metrics, split, List.find?_append]
    have before := told.metrics.append_right (failingDevices [report])
    cases first : reports.find? SmartReport.isEventful with
    | none =>
      have quiet := told.status.2 first
      rw [first] at before
      rw [if_pos quiet]
      -- nothing eventful before: the warning is that of this drive
      have own : ([report].find? SmartReport.isEventful).bind SmartReport.warning =
          report.warning := by
        by_cases eventful : report.Eventful
        · simp [SmartReport.isEventful, eventful]
        · simp [SmartReport.isEventful, eventful, SmartReport.warning_of_not_eventful eventful]
      rw [Option.none_or, own]
      apply List.Perm.append_right
      simpa using before
    | some found =>
      -- something eventful before: this drive only adds its failure
      have loud : scan.status ≠ .ok := fun quiet => by
        have nowhere := told.status.1 quiet
        rw [first] at nowhere
        cases nowhere
      rw [first] at before
      rw [if_neg loud, List.append_nil, Option.some_or]
      apply before.trans
      rw [List.append_assoc, List.append_assoc]
      exact List.Perm.append_left _ List.perm_append_comm

theorem told_foldl (reports : List SmartReport) : (reports.foldl turn {}).Told reports := by
  induction reports using List.reverseRecOn with
  | nil => exact ⟨by decide, .refl _⟩
  | append_singleton reports report ih =>
    have running : (reports.foldl turn {}).status ≠ .skipped :=
      storageScan_status_ne_skipped reports (by decide)
    rw [List.foldl_append]
    exact told_turn ih running report

end StorageScan

theorem storage_orderLaw (skipCode : String) :
    OrderLaw (fun reports => (checkStorageHealth (some reports) skipCode).metrics)
      isStorageWarning SmartReport.isEventful SmartReport.warning fun _ => True := by
  apply orderLaw_of_parts steadyStorage
  · intro reports
    -- the loop tells the parts, the close of the check comes after them
    cases reports with
    | nil => exact .refl _
    | cons report reports =>
      have told := (StorageScan.told_foldl (report :: reports)).metrics
      rw [steadyStorage, if_neg (List.cons_ne_nil _ _), List.append_assoc]
      apply (told.append_right _).trans
      rw [List.append_assoc]
      exact List.Perm.append_left _ List.perm_append_comm
  · intro reports metric member
    -- the names of failing drives and the count of drives warn of nothing
    rcases List.mem_append.1 member with failing | closing
    · obtain ⟨report, -, rfl⟩ := List.mem_map.1 failing
      rfl
    · split_ifs at closing
      · cases closing
      · rw [List.mem_singleton.1 closing]
        rfl
  · intro reports order _ perm
    -- the steady part counts drives and lists failing ones
    have nil_iff : order = [] ↔ reports = [] := by
      rw [← List.length_eq_zero_iff, perm.length_eq, List.length_eq_zero_iff]
    simp only [steadyStorage, nil_iff, perm.length_eq]
    exact ((perm.filter _).map _).append_right _
  · intro report metric said
    unfold SmartReport.warning at said
    split_ifs at said <;>
      · obtain rfl := Option.some.inj said
        rfl

/-! ### Disk space -/

section Disk

variable (share : DiskUsage → ℚ)

namespace DiskUsage

/-- The filesystem has less free space than warrants a warning. -/
def isLow (usage : DiskUsage) : Bool :=
  0 < usage.totalBytes ∧ share usage < diskWarnFreePct

/-- The warning that the filesystem leads to where it is the first one that is low. -/
def warning (usage : DiskUsage) : Option Metric :=
  if share usage < diskCritFreePct then none else some ("low_mount", usage.mountpoint)

end DiskUsage

def isLowMount (metric : Metric) : Bool :=
  metric.1 = "low_mount"

/-- No two filesystems that have a size have the same free share, as it is computed. -/
def DistinctShares (usages : List DiskUsage) : Prop :=
  ((sizedUsages usages).map share).Nodup

def criticalMounts (usages : List DiskUsage) : List Metric :=
  (criticallyFull share usages).map fun usage => ("critical_mount", usage.mountpoint)

/-- What closes the evidence. -/
def leastFreeMetrics (usages : List DiskUsage) : List Metric :=
  match leastFree share usages with
  | none => []
  | some least =>
      [("min_free_pct", fixed 1 (share least)), ("min_free_mount", least.mountpoint)]

theorem lowSpace_metrics (usages : List DiskUsage) :
    (lowSpace share usages).toList.map (fun usage => ("low_mount", usage.mountpoint)) =
      ((usages.find? (DiskUsage.isLow share)).bind (DiskUsage.warning share)).toList := by
  have first : firstLow share usages = usages.find? (DiskUsage.isLow share) := by
    rw [firstLow, sizedUsages, List.find?_filter]
    congr 1
    funext usage
    simp [DiskUsage.isLow]
  rw [lowSpace, first]
  cases usages.find? (DiskUsage.isLow share) with
  | none => rfl
  | some usage =>
    rw [Option.bind_some, DiskUsage.warning]
    by_cases critical : share usage < diskCritFreePct
    · simp [Option.filter, critical]
    · simp [Option.filter, critical, not_lt.1 critical]

variable {share}

/-- With distinct shares there is only one filesystem with the least. -/
theorem leastFree_perm {usages order : List DiskUsage} (distinct : DistinctShares share usages)
    (perm : order.Perm usages) : leastFree share order = leastFree share usages := by
  have sized : (sizedUsages order).Perm (sizedUsages usages) := perm.filter _
  cases found : leastFree share usages with
  | none =>
    have nothing : sizedUsages usages = [] := List.argmin_eq_none.1 found
    rw [nothing] at sized
    exact List.argmin_eq_none.2 sized.eq_nil
  | some least =>
    obtain ⟨member, most, -⟩ := List.mem_argmin_iff.1 found
    cases found' : leastFree share order with
    | none =>
      have nothing : sizedUsages order = [] := List.argmin_eq_none.1 found'
      rw [nothing] at sized
      rw [sized.symm.eq_nil] at member
      cases member
    | some least' =>
      obtain ⟨member', most', -⟩ := List.mem_argmin_iff.1 found'
      -- each is at most the other, and no two shares are equal
      have same : share least' = share least :=
        le_antisymm (most' least (sized.mem_iff.2 member)) (most least' (sized.mem_iff.1 member'))
      rw [List.inj_on_of_nodup_map distinct (sized.mem_iff.1 member') member same]

variable (share)

theorem disk_parts (usages : List DiskUsage) :
    (checkDiskSpaceBy share (some usages)).metrics.Perm
      (criticalMounts share usages ++ leastFreeMetrics share usages ++
        ((usages.find? (DiskUsage.isLow share)).bind (DiskUsage.warning share)).toList) := by
  rw [checkDiskSpaceBy_metrics, Option.getD_some, leastFreeMetrics, ← lowSpace_metrics]
  cases least : leastFree share usages with
  | none =>
    obtain ⟨first, critical⟩ := named_of_leastFree_eq_none least
    simp [criticalMounts, critical, lowSpace, first]
  | some kept =>
    have named := DiskScan.named_foldl share usages
    have start : ∀ metric ∈ ({} : DiskScan).metrics,
        metric.1 = "critical_mount" ∨ metric.1 = "low_mount" := by simp
    have keys := DiskScan.metrics_keys share usages start
    -- the loop records under two keys, so the two filters are all of it
    have rest : ((usages.foldl (DiskScan.turn share) {}).metrics.filter
        fun metric => ! decide (metric.1 = "critical_mount")) =
        (usages.foldl (DiskScan.turn share) {}).metrics.filter (·.1 = "low_mount") := by
      apply List.filter_congr
      intro metric member
      rcases keys metric member with same | same <;> simp [same]
    have whole := List.filter_append_perm
      (fun metric : Metric => decide (metric.1 = "critical_mount"))
      (usages.foldl (DiskScan.turn share) {}).metrics
    rw [rest, named.critical, named.low] at whole
    apply (whole.symm.append_right _).trans
    rw [List.append_assoc, criticalMounts, List.append_assoc]
    exact List.Perm.append_left _ List.perm_append_comm

theorem disk_orderLaw :
    OrderLaw (fun usages => (checkDiskSpaceBy share (some usages)).metrics)
      isLowMount (DiskUsage.isLow share) (DiskUsage.warning share) (DistinctShares share) := by
  apply orderLaw_of_parts fun usages => criticalMounts share usages ++ leastFreeMetrics share usages
  · exact disk_parts share
  · intro usages metric member
    rcases List.mem_append.1 member with critical | closing
    · -- neither the critical nor the closing entries have the key of the warning
      obtain ⟨usage, -, rfl⟩ := List.mem_map.1 critical
      rfl
    · unfold leastFreeMetrics at closing
      split at closing
      · cases closing
      · rcases List.mem_pair.1 closing with rfl | rfl <;> rfl
  · intro usages order distinct perm
    rw [leastFreeMetrics, leastFree_perm distinct perm, ← leastFreeMetrics]
    exact (((perm.filter _).filter _).map _).append_right _
  · intro usage metric said
    unfold DiskUsage.warning at said
    split_ifs at said
    obtain rfl := Option.some.inj said
    rfl

end Disk

/-! ### Both checks -/

/-- Evidence of critical states and of extremes does not depend on the order, a result has
at most one warning, and its evidence as a whole is that of every order exactly if all
items which could come first have the same warning. The free shares may be rounded. -/
theorem evidence_order (share : DiskUsage → ℚ) :
    (∀ skipCode, OrderLaw (fun reports => (checkStorageHealth (some reports) skipCode).metrics)
      isStorageWarning SmartReport.isEventful SmartReport.warning fun _ => True) ∧
      OrderLaw (fun usages => (checkDiskSpaceBy share (some usages)).metrics)
        isLowMount (DiskUsage.isLow share) (DiskUsage.warning share) (DistinctShares share) :=
  ⟨storage_orderLaw, disk_orderLaw share⟩

/-- One drive with pending sectors, and one that is failing. -/
def pendingThenFailing : List SmartReport :=
  [{ deviceName := "sda", passed := some true, pendingSectors := some 3 },
    { deviceName := "sdb", passed := some false }]

/-- One filesystem that is low, and one that is critical. -/
def lowThenCritical : List DiskUsage :=
  [{ mountpoint := "/", totalBytes := 100, freeBytes := 8 },
    { mountpoint := "/home", totalBytes := 100, freeBytes := 2 }]

/-- A warning is lost where the critical item comes first. -/
theorem evidence_follows_order :
    (pendingThenFailing.reverse.Perm pendingThenFailing ∧
      ¬ (checkStorageHealth (some pendingThenFailing.reverse) "unavailable").metrics.Perm
        (checkStorageHealth (some pendingThenFailing) "unavailable").metrics) ∧
    DistinctShares DiskUsage.freePct lowThenCritical ∧
      lowThenCritical.reverse.Perm lowThenCritical ∧
      ¬ (checkDiskSpace (some lowThenCritical.reverse)).metrics.Perm
        (checkDiskSpace (some lowThenCritical)).metrics := by
  refine ⟨⟨List.reverse_perm _, fun same => ?_⟩, ?_, List.reverse_perm _, fun same => ?_⟩
  · exact absurd same.length_eq (by decide +kernel)
  · unfold DistinctShares
    decide +kernel
  · exact absurd same.length_eq (by decide +kernel)

end Lapcare.Core
