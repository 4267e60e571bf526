import Lapcare.Core.DiskSpace
import Lapcare.Core.Verdicts
import Mathlib.Data.List.Nodup

/-!
# Evidence that comes twice

Two checks record a metric for each item in a critical state, under one key. Every other
key is recorded once.

## Main results

* `checkStorageHealth_nodup_iff`, `checkDiskSpace_nodup_iff` — when a key comes twice
* `Inputs.nodup_iff` — the runs whose results have every key once
-/

namespace Lapcare.Core

/-! ### Keys that a loop records -/

/-- The keys that a loop has recorded: `repeated` for each of `times` items, and any other
key, which is a `single` one, at most once. While the loop is `quiet` there are none. -/
structure Recorded (repeated : String) (single : List String) (quiet : Prop)
    (keys : List String) (times : ℕ) : Prop where
  silent : quiet → keys = []
  repeats : keys.count repeated = times
  others : ∀ key, key ≠ repeated → keys.count key ≤ 1
  known : ∀ key ∈ keys, key = repeated ∨ key ∈ single

namespace Recorded

variable {repeated : String} {single keys : List String} {quiet quiet' : Prop} {times : ℕ}

theorem nil : Recorded repeated single quiet [] 0 :=
  ⟨fun _ => rfl, rfl, fun _ _ => Nat.zero_le 1, fun _ member => nomatch member⟩

/-- Another item in a critical state. -/
theorem again (recorded : Recorded repeated single quiet keys times) (loud : ¬ quiet') :
    Recorded repeated single quiet' (keys ++ [repeated]) (times + 1) where
  silent calm := absurd calm loud
  repeats := by
    rw [List.count_append, recorded.repeats, List.count_singleton_self]
  others key other := by
    rw [List.count_append, List.count_singleton, beq_eq_false_iff_ne.mpr other.symm]
    exact recorded.others key other
  known key member := by
    rcases List.mem_append.mp member with earlier | last
    · exact recorded.known key earlier
    · exact .inl (List.mem_singleton.mp last)

/-- A warning, which only a quiet loop records. -/
theorem warn (recorded : Recorded repeated single quiet keys times) (calm : quiet)
    {key : String} (own : key ∈ single) (other : key ≠ repeated) (loud : ¬ quiet') :
    Recorded repeated single quiet' (keys ++ [key]) times where
  silent calm := absurd calm loud
  repeats := by
    rw [List.count_append, recorded.repeats, List.count_singleton, beq_eq_false_iff_ne.mpr other]
    rfl
  others key' _ := by
    rw [recorded.silent calm, List.nil_append, List.count_singleton]
    split_ifs <;> decide
  known key' member := by
    rcases List.mem_append.mp member with earlier | last
    · exact recorded.known key' earlier
    · rw [List.mem_singleton.mp last]
      exact .inr own

/-- With the keys that close a result, every key comes once exactly where at most one item
is in a critical state. -/
theorem nodup_iff (recorded : Recorded repeated single quiet keys times) {closing : List String}
    (once : closing.Nodup) (apart : ∀ key ∈ closing, key ≠ repeated ∧ key ∉ single) :
    (keys ++ closing).Nodup ↔ times ≤ 1 := by
  rw [List.nodup_append]
  constructor
  · rintro ⟨own, -⟩
    rw [← recorded.repeats]
    exact List.nodup_iff_count_le_one.mp own repeated
  · intro few
    refine ⟨List.nodup_iff_count_le_one.mpr fun key => ?_, once, ?_⟩
    · by_cases same : key = repeated
      · rw [same, recorded.repeats]
        exact few
      · exact recorded.others key same
    · rintro key member other closes rfl
      rcases recorded.known key member with same | own
      · -- a closing key is none that the loop records
        exact (apart key closes).1 same
      · exact (apart key closes).2 own

end Recorded

/-- A count that every turn of a loop keeps. -/
theorem foldl_counts {σ ι : Type} {turn : σ → ι → σ} {holds : σ → ℕ → Prop} {critical : ι → Prop}
    [DecidablePred critical]
    (keeps : ∀ scan times item, holds scan times →
      holds (turn scan item) (times + if critical item then 1 else 0))
    (items : List ι) {scan : σ} {times : ℕ} (before : holds scan times) :
    holds (items.foldl turn scan) (times + items.countP fun item => decide (critical item)) := by
  induction items generalizing scan times with
  | nil => exact before
  | cons item items ih =>
    have counted : (item :: items).countP (fun other => decide (critical other)) =
        (if critical item then 1 else 0) + items.countP fun other => decide (critical other) := by
      rw [List.countP_cons, Nat.add_comm]
      simp only [decide_eq_true_eq]
    rw [List.foldl_cons, counted, ← Nat.add_assoc]
    exact ih (keeps scan times item before)

/-! ### Storage health -/

namespace StorageScan

abbrev Records (scan : StorageScan) (times : ℕ) : Prop :=
  Recorded "failing_device" ["pending_sectors", "endurance_used_pct"] (scan.status = .ok)
    (scan.metrics.map (·.1)) times

theorem verdict_records {scan : StorageScan} {times : ℕ} (recorded : scan.Records times)
    (report : SmartReport) :
    (scan.verdict report).Records (times + if report.Failing then 1 else 0) := by
  unfold verdict
  split
  case h_1 failing =>
    have counts : report.Failing := failing
    rw [if_pos counts, Records, List.map_append]
    exact recorded.again (by simp)
  case h_2 silent =>
    rw [if_neg (by simp [SmartReport.Failing, silent])]
    exact recorded
  case h_3 passed =>
    rw [if_neg (by simp [SmartReport.Failing, passed])]
    exact recorded

theorem pending_records {scan : StorageScan} {times : ℕ} (recorded : scan.Records times)
    (report : SmartReport) : (scan.pending report).Records times := by
  unfold pending
  split
  · split_ifs with warns
    · rw [Records, List.map_append]
      exact recorded.warn warns.2 (by simp) (by simp) (by simp)
    · exact recorded
  · exact recorded

theorem endurance_records {scan : StorageScan} {times : ℕ} (recorded : scan.Records times)
    (report : SmartReport) : (scan.endurance report).Records times := by
  unfold endurance
  split
  · split_ifs with warns
    · rw [Records, List.map_append]
      exact recorded.warn warns.2 (by simp) (by simp) (by simp)
    · exact recorded
  · exact recorded

theorem turn_records (scan : StorageScan) (times : ℕ) (report : SmartReport)
    (recorded : scan.Records times) :
    (scan.turn report).Records (times + if report.Failing then 1 else 0) :=
  endurance_records (pending_records (verdict_records recorded report) report) report

end StorageScan

/-- Storage health has a key twice exactly where two drives are failing. -/
theorem checkStorageHealth_nodup_iff (reports : Option (List SmartReport)) (skipCode : String) :
    ((checkStorageHealth reports skipCode).metrics.map (·.1)).Nodup ↔
      (reports.getD []).countP (fun report => decide report.Failing) ≤ 1 := by
  have skipped : (([] : List (String × String)).map (·.1)).Nodup := List.nodup_nil
  unfold checkStorageHealth
  split
  · simp [skippedResult]
  · simp [skippedResult]
  · rename_i reports _
    have start : StorageScan.Records {} 0 := Recorded.nil
    have recorded := foldl_counts StorageScan.turn_records reports start
    rw [Nat.zero_add] at recorded
    rw [List.map_append]
    exact recorded.nodup_iff (by simp) (by simp)

/-! ### Disk space -/

/-- A filesystem that the check calls critically full. -/
def DiskUsage.Critical (usage : DiskUsage) : Prop :=
  0 < usage.totalBytes ∧ usage.freePct < diskCritFreePct

instance : DecidablePred DiskUsage.Critical := fun usage =>
  inferInstanceAs (Decidable (0 < usage.totalBytes ∧ usage.freePct < diskCritFreePct))

namespace DiskScan

abbrev Records (scan : DiskScan) (times : ℕ) : Prop :=
  Recorded "critical_mount" ["low_mount"] (scan.status = .ok) (scan.metrics.map (·.1)) times

theorem turn_records (scan : DiskScan) (times : ℕ) (usage : DiskUsage)
    (recorded : scan.Records times) :
    (scan.turn DiskUsage.freePct usage).Records (times + if usage.Critical then 1 else 0) := by
  by_cases unsized : usage.totalBytes ≤ 0
  · have harmless : ¬ usage.Critical := fun critical => by
      have := critical.1
      omega
    rw [turn_unsized unsized, if_neg harmless]
    exact recorded
  rw [turn, if_neg unsized]
  dsimp only
  by_cases low : usage.freePct < diskCritFreePct
  · have critical : usage.Critical := ⟨not_le.mp unsized, low⟩
    rw [if_pos low, if_pos critical, Records, List.map_append]
    exact recorded.again (by simp)
  · have harmless : ¬ usage.Critical := fun critical => low critical.2
    rw [if_neg low, if_neg harmless]
    split_ifs with warns
    · rw [Records, List.map_append]
      exact recorded.warn warns.2 (by simp) (by simp) (by simp)
    · exact recorded

end DiskScan

/-- Disk space has a key twice exactly where two filesystems are critically full. -/
theorem checkDiskSpace_nodup_iff (usages : Option (List DiskUsage)) :
    ((checkDiskSpace usages).metrics.map (·.1)).Nodup ↔
      (usages.getD []).countP (fun usage => decide usage.Critical) ≤ 1 := by
  cases usages with
  | none => simp [checkDiskSpace, checkDiskSpaceBy, skippedResult]
  | some usages =>
    have start : DiskScan.Records {} 0 := Recorded.nil
    have recorded := foldl_counts DiskScan.turn_records usages start
    rw [Nat.zero_add] at recorded
    rw [checkDiskSpace, checkDiskSpaceBy_eq]
    cases kept : (usages.foldl (DiskScan.turn DiskUsage.freePct) {}).fullest with
    | none =>
      -- nothing had a size, so nothing was critical
      have none : ∀ usage ∈ usages, ¬ usage.Critical := by
        intro usage member critical
        have small := ((DiskScan.fullest_eq_none_iff _ usages {}).mp kept).2 usage member
        have := critical.1
        omega
      have few : usages.countP (fun usage => decide usage.Critical) = 0 := by
        rw [List.countP_eq_zero]
        intro usage member
        simpa using none usage member
      simp [skippedResult, few]
    | some fullest =>
      -- the two keys added last differ from the two of the loop
      simp only [List.map_append, Option.getD_some]
      exact recorded.nodup_iff (by simp) (by simp)

/-! ### The other checks, and a run -/

theorem checkBatteryWear_nodup (wears : Option (List BatteryWear)) :
    ((checkBatteryWear wears).metrics.map (·.1)).Nodup := by
  unfold checkBatteryWear
  split
  · exact List.nodup_nil
  · exact List.nodup_nil
  · split
    · exact List.nodup_nil
    · simp

theorem checkFirmwareCurrency_nodup (pending : Option (List FirmwareRelease)) :
    ((checkFirmwareCurrency pending).metrics.map (·.1)).Nodup := by
  unfold checkFirmwareCurrency
  split
  · exact List.nodup_nil
  · exact List.nodup_nil
  · exact List.nodup_singleton _

theorem checkThermal_nodup (temps : Option (List TemperatureReading)) :
    ((checkThermal temps).metrics.map (·.1)).Nodup := by
  unfold checkThermal
  split
  · exact List.nodup_nil
  · split
    · exact List.nodup_nil
    · simp

namespace Inputs

def failingDrives (inputs : Inputs) : ℕ :=
  (inputs.reports.getD []).countP fun report => decide report.Failing

def criticalFilesystems (inputs : Inputs) : ℕ :=
  (inputs.usages.getD []).countP fun usage => decide usage.Critical

/-- The results of a run have every key once exactly where at most one drive is failing
and at most one filesystem is critically full. -/
theorem nodup_iff (inputs : Inputs) :
    (∀ result ∈ inputs.results, (result.metrics.map (·.1)).Nodup) ↔
      inputs.failingDrives ≤ 1 ∧ inputs.criticalFilesystems ≤ 1 := by
  simp only [results, List.mem_cons, List.not_mem_nil, or_false, forall_eq_or_imp, forall_eq]
  rw [checkStorageHealth_nodup_iff, checkDiskSpace_nodup_iff]
  constructor
  · rintro ⟨-, drives, -, -, filesystems⟩
    exact ⟨drives, filesystems⟩
  · rintro ⟨drives, filesystems⟩
    exact ⟨checkBatteryWear_nodup _, drives, checkFirmwareCurrency_nodup _, checkThermal_nodup _,
      filesystems⟩

end Inputs

end Lapcare.Core
