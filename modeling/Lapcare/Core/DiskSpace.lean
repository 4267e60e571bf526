import Lapcare.Core.Checks

/-!
# What the disk-space check finds

The loop over the filesystems keeps the first one with the least free share. Once it has
met one without free space, nothing later changes the verdict.

## Main results

* `checkDiskSpaceBy_eq` — the check as the close of its loop, however shares are computed
* `diskVerdict_full` — the first filesystem without free space decides the verdict
* `diskVerdict_mount` — the mountpoint of the verdict is one of a filesystem with a size
* `diskVerdict_skipped_iff` — the check is skipped exactly where no filesystem has a size
-/

namespace Lapcare.Core

/-- A filesystem with a size and without free space. -/
def DiskUsage.isFull (usage : DiskUsage) : Bool :=
  0 < usage.totalBytes && usage.freeBytes == 0

/-- Status, `min_free_pct` and `min_free_mount` of a disk-space result. -/
def diskVerdict (result : DiagnosticResult) : CheckStatus × Option String × Option String :=
  (result.status, result.metrics.lookup "min_free_pct", result.metrics.lookup "min_free_mount")

theorem DiskUsage.freePct_full {usage : DiskUsage} (full : usage.isFull = true) :
    usage.freePct = 0 := by
  have empty : usage.freeBytes = 0 := by
    simpa using (Bool.and_eq_true_iff.mp full).2
  rw [freePct, empty]
  simp

theorem DiskUsage.freePct_pos {usage : DiskUsage} (measured : 0 < usage.totalBytes)
    (free : 0 < usage.freeBytes) : 0 < usage.freePct := by
  have total : (0 : ℚ) < usage.totalBytes := Int.cast_pos.mpr measured
  have rest : (0 : ℚ) < usage.freeBytes := Int.cast_pos.mpr free
  rw [freePct]
  positivity

namespace DiskScan

section Share

variable {share : DiskUsage → ℚ}

theorem turn_unsized {usage : DiskUsage} (unsized : usage.totalBytes ≤ 0) (scan : DiskScan) :
    scan.turn share usage = scan :=
  if_pos unsized

theorem turn_fullest {usage : DiskUsage} (measured : 0 < usage.totalBytes) (scan : DiskScan) :
    (scan.turn share usage).fullest = some (keepFullest share scan.fullest usage) := by
  rw [turn, if_neg (by omega)]
  dsimp only
  split_ifs <;> rfl

theorem turn_critical {usage : DiskUsage} {scan : DiskScan}
    (critical : scan.status = .critical) : (scan.turn share usage).status = .critical := by
  unfold turn
  split_ifs with unsized low warns
  · exact critical
  · rfl
  · exact absurd (critical.symm.trans warns.2) (by decide)
  · exact critical

theorem fullest_eq_none_iff (share : DiskUsage → ℚ) (usages : List DiskUsage) (scan : DiskScan) :
    (usages.foldl (turn share) scan).fullest = none ↔
      scan.fullest = none ∧ ∀ usage ∈ usages, usage.totalBytes ≤ 0 := by
  induction usages generalizing scan with
  | nil => simp
  | cons usage usages ih =>
    rw [List.foldl_cons, ih]
    by_cases unsized : usage.totalBytes ≤ 0
    · simp [turn_unsized unsized, unsized]
    · simp [turn_fullest (not_le.mp unsized), unsized]

/-- What is kept was there before, or is the share of a filesystem of the list. -/
theorem fullest_mem {usages : List DiskUsage} {scan : DiskScan} {kept : ℚ × String}
    (found : (usages.foldl (turn share) scan).fullest = some kept) :
    scan.fullest = some kept ∨
      ∃ usage ∈ usages, 0 < usage.totalBytes ∧ kept = (share usage, usage.mountpoint) := by
  induction usages generalizing scan with
  | nil => exact .inl found
  | cons usage usages ih =>
    rcases ih found with before | ⟨later, member, measured⟩
    · -- kept before the rest: either from the first filesystem or from before it
      by_cases unsized : usage.totalBytes ≤ 0
      · rw [turn_unsized unsized] at before
        exact .inl before
      · have measured : 0 < usage.totalBytes := not_le.mp unsized
        rw [turn_fullest measured, Option.some.injEq] at before
        cases earlier : scan.fullest with
        | none =>
          rw [earlier] at before
          exact .inr ⟨usage, List.mem_cons_self, measured, before.symm⟩
        | some old =>
          rw [earlier, keepFullest] at before
          split_ifs at before
          · exact .inr ⟨usage, List.mem_cons_self, measured, before.symm⟩
          · exact .inl (congrArg some before)
    · exact .inr ⟨later, List.mem_cons_of_mem usage member, measured⟩

theorem turn_metrics_keys {scan : DiskScan} (usage : DiskUsage)
    (keys : ∀ metric ∈ scan.metrics, metric.1 = "critical_mount" ∨ metric.1 = "low_mount") :
    ∀ metric ∈ (scan.turn share usage).metrics,
      metric.1 = "critical_mount" ∨ metric.1 = "low_mount" := by
  unfold turn
  split_ifs with unsized low warns
  · exact keys
  · simp only [List.mem_append, List.mem_singleton]
    rintro metric (earlier | rfl)
    · exact keys metric earlier
    · exact .inl rfl
  · simp only [List.mem_append, List.mem_singleton]
    rintro metric (earlier | rfl)
    · exact keys metric earlier
    · exact .inr rfl
  · exact keys

theorem metrics_keys (share : DiskUsage → ℚ) (usages : List DiskUsage) {scan : DiskScan}
    (keys : ∀ metric ∈ scan.metrics, metric.1 = "critical_mount" ∨ metric.1 = "low_mount") :
    ∀ metric ∈ (usages.foldl (turn share) scan).metrics,
      metric.1 = "critical_mount" ∨ metric.1 = "low_mount" := by
  induction usages generalizing scan with
  | nil => exact keys
  | cons usage usages ih => exact ih (turn_metrics_keys usage keys)

end Share

theorem turn_full {usage : DiskUsage} (full : usage.isFull = true) (scan : DiskScan) :
    (scan.turn DiskUsage.freePct usage).status = .critical := by
  have measured : 0 < usage.totalBytes := by
    simpa using (Bool.and_eq_true_iff.mp full).1
  have low : usage.freePct < diskCritFreePct := by
    rw [DiskUsage.freePct_full full]
    decide +kernel
  rw [turn, if_neg (by omega)]
  dsimp only
  rw [if_pos low]

/-- Nothing is fuller than full. -/
theorem full_settled {usages : List DiskUsage} (physical : ∀ usage ∈ usages, 0 ≤ usage.freeBytes)
    {scan : DiskScan} {name : String} (critical : scan.status = .critical)
    (full : scan.fullest = some (0, name)) :
    (usages.foldl (turn DiskUsage.freePct) scan).status = .critical ∧
      (usages.foldl (turn DiskUsage.freePct) scan).fullest = some (0, name) := by
  induction usages generalizing scan with
  | nil => exact ⟨critical, full⟩
  | cons usage usages ih =>
    apply ih (fun other member => physical other (List.mem_cons_of_mem usage member))
      (turn_critical critical)
    by_cases unsized : usage.totalBytes ≤ 0
    · rw [turn_unsized unsized]
      exact full
    · -- a share of what is not negative is not below nothing
      have share : ¬ usage.freePct < 0 := by
        have free := physical usage List.mem_cons_self
        rw [DiskUsage.freePct, not_lt]
        have total : (0 : ℚ) ≤ usage.totalBytes := Int.cast_nonneg (by omega)
        have rest : (0 : ℚ) ≤ usage.freeBytes := Int.cast_nonneg free
        positivity
      rw [turn_fullest (not_le.mp unsized), full, keepFullest, if_neg share]

/-- The first full filesystem is kept, as long as none before it was full. -/
theorem full_found {usages : List DiskUsage} (physical : ∀ usage ∈ usages, 0 ≤ usage.freeBytes)
    {scan : DiskScan} (before : ∀ kept, scan.fullest = some kept → 0 < kept.1) {usage : DiskUsage}
    (first : usages.find? DiskUsage.isFull = some usage) :
    (usages.foldl (turn DiskUsage.freePct) scan).status = .critical ∧
      (usages.foldl (turn DiskUsage.freePct) scan).fullest = some (0, usage.mountpoint) := by
  induction usages generalizing scan with
  | nil => exact nomatch first
  | cons head usages ih =>
    have later : ∀ other ∈ usages, 0 ≤ other.freeBytes :=
      fun other member => physical other (List.mem_cons_of_mem head member)
    rw [List.find?_cons] at first
    -- induction on the filesystems: `before` carries that none kept so far was full
    by_cases full : head.isFull = true
    · rw [full] at first
      obtain rfl := Option.some.inj first
      have measured : 0 < head.totalBytes := by
        simpa using (Bool.and_eq_true_iff.mp full).1
      -- a full one has a share of nothing, which no later one goes below
      apply full_settled later (turn_full full scan)
      rw [turn_fullest measured]
      cases kept : scan.fullest with
      | none => rw [keepFullest, DiskUsage.freePct_full full]
      | some old =>
        rw [keepFullest, DiskUsage.freePct_full full]
        exact congrArg some (if_pos (before old kept))
    · rw [Bool.not_eq_true] at full
      rw [full] at first
      refine ih later (fun kept same => ?_) first
      -- not full: either without a size, or with a positive share
      by_cases unsized : head.totalBytes ≤ 0
      · rw [turn_unsized unsized] at same
        exact before kept same
      · have measured : 0 < head.totalBytes := not_le.mp unsized
        have some : head.freeBytes ≠ 0 := by
          simpa [DiskUsage.isFull, measured] using full
        have free : 0 < head.freeBytes := by
          have := physical head List.mem_cons_self
          omega
        have share := DiskUsage.freePct_pos measured free
        rw [turn_fullest measured, Option.some.injEq] at same
        rw [← same]
        cases earlier : scan.fullest with
        | none => exact share
        | some old =>
          rw [keepFullest]
          split_ifs
          · exact share
          · exact before old earlier

end DiskScan

/-! ### The verdict -/

theorem checkDiskSpaceBy_eq (share : DiskUsage → ℚ) (usages : List DiskUsage) :
    checkDiskSpaceBy share (some usages) =
      match (usages.foldl (DiskScan.turn share) {}).fullest with
      | none => skippedResult "disk-space" "no-data"
      | some (freePct, mountpoint) =>
          { checkId := "disk-space"
            status := (usages.foldl (DiskScan.turn share) {}).status
            confidence := .high
            metrics :=
              (usages.foldl (DiskScan.turn share) {}).metrics ++
                [("min_free_pct", Text.fixed 1 freePct), ("min_free_mount", mountpoint)] } := by
  cases usages <;> rfl

theorem diskVerdict_of_fullest {usages : List DiskUsage} {freePct : ℚ} {mountpoint : String}
    (kept : (usages.foldl (DiskScan.turn DiskUsage.freePct) {}).fullest =
      some (freePct, mountpoint)) :
    diskVerdict (checkDiskSpace (some usages)) =
      ((usages.foldl (DiskScan.turn DiskUsage.freePct) {}).status,
        some (Text.fixed 1 freePct), some mountpoint) := by
  have others (key : String) (notCritical : key ≠ "critical_mount") (notLow : key ≠ "low_mount") :
      (usages.foldl (DiskScan.turn DiskUsage.freePct) {}).metrics.lookup key = none := by
    rw [List.lookup_eq_none_iff]
    intro metric member
    have start : ∀ metric ∈ ({} : DiskScan).metrics,
        metric.1 = "critical_mount" ∨ metric.1 = "low_mount" := by simp
    have named := DiskScan.metrics_keys _ usages start metric member
    rcases named with named | named <;> simp [named, notCritical, notLow]
  rw [checkDiskSpace, checkDiskSpaceBy_eq, kept]
  simp only [diskVerdict, List.lookup_append]
  rw [others _ (by decide) (by decide), others _ (by decide) (by decide)]
  rfl

/-- The first filesystem without free space decides the verdict. -/
theorem diskVerdict_full {usages : List DiskUsage}
    (physical : ∀ usage ∈ usages, 0 ≤ usage.freeBytes) {usage : DiskUsage}
    (first : usages.find? DiskUsage.isFull = some usage) :
    diskVerdict (checkDiskSpace (some usages)) =
      (.critical, some "0.0", some usage.mountpoint) := by
  have start : ∀ kept, ({} : DiskScan).fullest = some kept → 0 < kept.1 :=
    fun _ found => nomatch found
  obtain ⟨critical, kept⟩ := DiskScan.full_found physical start first
  rw [diskVerdict_of_fullest kept, critical]
  have zero : Text.fixed 1 0 = "0.0" := by decide +kernel
  rw [zero]

/-- The mountpoint of the verdict is one of a filesystem with a size. -/
theorem diskVerdict_mount {usages : List DiskUsage} {mountpoint : String}
    (shown : (diskVerdict (checkDiskSpace (some usages))).2.2 = some mountpoint) :
    ∃ usage ∈ usages, 0 < usage.totalBytes ∧ usage.mountpoint = mountpoint := by
  cases kept : (usages.foldl (DiskScan.turn DiskUsage.freePct) {}).fullest with
  | none =>
    rw [checkDiskSpace, checkDiskSpaceBy_eq, kept] at shown
    exact nomatch shown
  | some fullest =>
    rw [diskVerdict_of_fullest kept] at shown
    rcases DiskScan.fullest_mem kept with before | ⟨usage, member, measured, same⟩
    · exact nomatch before
    · refine ⟨usage, member, measured, ?_⟩
      rw [same] at shown
      exact Option.some.inj shown

/-- The check is skipped exactly where no filesystem has a size. -/
theorem diskVerdict_skipped_iff (usages : List DiskUsage) :
    diskVerdict (checkDiskSpace (some usages)) = (.skipped, none, none) ↔
      ∀ usage ∈ usages, usage.totalBytes ≤ 0 := by
  have unsized := DiskScan.fullest_eq_none_iff DiskUsage.freePct usages {}
  constructor
  · intro skipped
    cases kept : (usages.foldl (DiskScan.turn DiskUsage.freePct) {}).fullest with
    | none => exact (unsized.mp kept).2
    | some fullest =>
      rw [diskVerdict_of_fullest kept] at skipped
      simp at skipped
  · intro none
    rw [checkDiskSpace, checkDiskSpaceBy_eq, unsized.mpr ⟨rfl, none⟩]
    rfl

end Lapcare.Core
