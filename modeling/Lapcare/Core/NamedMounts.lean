import Lapcare.Core.Evidence
import Lapcare.Json.Printer
import Mathlib.Data.List.MinMax

/-!
# The filesystems that the disk-space check names

Which mountpoints stand in the evidence of the check: the first filesystem with the least
free share, the first that is low, and every critical one. A `dict` of the evidence keeps
the last critical one only.

## Main results

* `named_foldl` — what the loop keeps, as parts of the list it ran over
* `mem_diskEvidence_iff`, `mem_diskDict_iff` — the evidence, and what a `dict` keeps of it
-/

namespace Lapcare.Core

open Json Text

def sizedUsages (usages : List DiskUsage) : List DiskUsage :=
  usages.filter (0 < ·.totalBytes)

section Named

/-! What the check names goes by the shares that it has computed. -/

variable (share : DiskUsage → ℚ) (usages : List DiskUsage)

/-- The first filesystem with the least free share. -/
def leastFree : Option DiskUsage :=
  (sizedUsages usages).argmin share

/-- The first filesystem with less free space than warrants a warning. -/
def firstLow : Option DiskUsage :=
  (sizedUsages usages).find? (share · < diskWarnFreePct)

/-- It is named as low unless it is critical. -/
def lowSpace : Option DiskUsage :=
  (firstLow share usages).filter (diskCritFreePct ≤ share ·)

def criticallyFull : List DiskUsage :=
  (sizedUsages usages).filter (share · < diskCritFreePct)

/-- The filesystems that the check names. -/
def namedUsages : List DiskUsage :=
  (leastFree share usages).toList ++ (lowSpace share usages).toList ++ criticallyFull share usages

/-- Those that a `dict` of its evidence names. -/
def dictUsages : List DiskUsage :=
  (leastFree share usages).toList ++ (lowSpace share usages).toList ++
    (criticallyFull share usages).getLast?.toList

end Named

/-! ### One more filesystem -/

section Concat

variable {share : DiskUsage → ℚ} {usage : DiskUsage} (usages : List DiskUsage)

theorem sizedUsages_unsized (unsized : usage.totalBytes ≤ 0) :
    sizedUsages (usages ++ [usage]) = sizedUsages usages := by
  simp [sizedUsages, List.filter_append, unsized]

variable (measured : 0 < usage.totalBytes)

include measured

theorem sizedUsages_sized : sizedUsages (usages ++ [usage]) = sizedUsages usages ++ [usage] := by
  simp [sizedUsages, List.filter_append, measured]

theorem leastFree_sized :
    leastFree share (usages ++ [usage]) =
      some (match leastFree share usages with
        | none => usage
        | some kept => if share usage < share kept then usage else kept) := by
  rw [leastFree, sizedUsages_sized usages measured, List.argmin_concat, ← leastFree]
  cases leastFree share usages with
  | none => rfl
  | some kept => exact (apply_ite some _ _ _).symm

theorem firstLow_ample (ample : ¬ share usage < diskWarnFreePct) :
    firstLow share (usages ++ [usage]) = firstLow share usages := by
  rw [firstLow, sizedUsages_sized usages measured, List.find?_append, ← firstLow]
  simp [ample]

theorem firstLow_low (low : share usage < diskWarnFreePct) :
    firstLow share (usages ++ [usage]) = some ((firstLow share usages).getD usage) := by
  rw [firstLow, sizedUsages_sized usages measured, List.find?_append, ← firstLow]
  cases firstLow share usages <;> simp [low]

theorem criticallyFull_harmless (harmless : ¬ share usage < diskCritFreePct) :
    criticallyFull share (usages ++ [usage]) = criticallyFull share usages := by
  simp [criticallyFull, sizedUsages_sized usages measured, List.filter_append, harmless]

theorem criticallyFull_critical (scarce : share usage < diskCritFreePct) :
    criticallyFull share (usages ++ [usage]) = criticallyFull share usages ++ [usage] := by
  simp [criticallyFull, sizedUsages_sized usages measured, List.filter_append, scarce]

end Concat

namespace DiskScan

/-- The loop has run over these filesystems. -/
structure Named (share : DiskUsage → ℚ) (scan : DiskScan) (usages : List DiskUsage) : Prop where
  fullest : scan.fullest = (leastFree share usages).map fun usage => (share usage, usage.mountpoint)
  status : scan.status = .ok ↔ firstLow share usages = none
  critical : scan.metrics.filter (·.1 = "critical_mount") =
    (criticallyFull share usages).map fun usage => ("critical_mount", usage.mountpoint)
  low : scan.metrics.filter (·.1 = "low_mount") =
    (lowSpace share usages).toList.map fun usage => ("low_mount", usage.mountpoint)

section Turn

variable {share : DiskUsage → ℚ} {scan : DiskScan} {usages : List DiskUsage}
  (named : scan.Named share usages)

include named

theorem Named.keepFullest {usage : DiskUsage} (measured : 0 < usage.totalBytes) :
    some (keepFullest share scan.fullest usage) =
      (leastFree share (usages ++ [usage])).map fun usage => (share usage, usage.mountpoint) := by
  rw [leastFree_sized usages measured, named.fullest]
  cases leastFree share usages with
  | none => rfl
  | some kept =>
    simp only [Option.map_some, DiskScan.keepFullest]
    split_ifs <;> rfl

/-- A filesystem that is neither low for the first time nor critical changes what the loop
keeps in nothing but the least share. -/
theorem Named.concat {later : DiskScan} {usage : DiskUsage}
    (fullest : later.fullest =
      (leastFree share (usages ++ [usage])).map fun usage => (share usage, usage.mountpoint))
    (status : later.status = scan.status) (metrics : later.metrics = scan.metrics)
    (first : firstLow share (usages ++ [usage]) = firstLow share usages)
    (kept : criticallyFull share (usages ++ [usage]) = criticallyFull share usages) :
    later.Named share (usages ++ [usage]) where
  fullest := fullest
  status := by rw [status, first]; exact named.status
  critical := by rw [metrics, kept]; exact named.critical
  low := by rw [metrics, lowSpace, first]; exact named.low

theorem named_turn (usage : DiskUsage) :
    (scan.turn share usage).Named share (usages ++ [usage]) := by
  by_cases unsized : usage.totalBytes ≤ 0
  · -- a filesystem without a size is passed over
    have sized := sizedUsages_unsized usages unsized
    rw [turn_unsized unsized]
    apply named.concat _ rfl rfl
    · rw [firstLow, sized, ← firstLow]
    · rw [criticallyFull, sized, ← criticallyFull]
    · rw [leastFree, sized]
      exact named.fullest
  have measured : 0 < usage.totalBytes := not_le.mp unsized
  have fullest := named.keepFullest measured
  rw [turn, if_neg unsized]
  dsimp only
  by_cases scarce : share usage < diskCritFreePct
  · -- critical, and named as that
    have low : share usage < diskWarnFreePct := scarce.trans (by decide +kernel)
    rw [if_pos scarce]
    refine ⟨fullest, ?_, ?_, ?_⟩
    · rw [firstLow_low usages measured low]
      simp
    · rw [criticallyFull_critical usages measured scarce, List.filter_append, named.critical]
      simp
    · rw [lowSpace, firstLow_low usages measured low, List.filter_append, named.low, lowSpace]
      cases firstLow share usages <;> simp [scarce]
  have kept := criticallyFull_harmless usages measured scarce
  rw [if_neg scarce]
  by_cases low : share usage < diskWarnFreePct
  · have found := firstLow_low usages measured low
    by_cases fine : scan.status = .ok
    · -- the first one that is low
      have first : firstLow share usages = none := named.status.1 fine
      rw [if_pos ⟨low, fine⟩]
      refine ⟨fullest, ?_, ?_, ?_⟩
      · rw [found]
        simp
      · rw [kept, List.filter_append, named.critical]
        simp
      · rw [lowSpace, found, List.filter_append, named.low, lowSpace, first]
        simp [Option.filter, not_lt.mp scarce]
    · -- one before it was low
      obtain ⟨first, earlier⟩ := Option.ne_none_iff_exists'.1 (mt named.status.2 fine)
      have same : firstLow share (usages ++ [usage]) = firstLow share usages := by
        rw [found, earlier]
        rfl
      rw [if_neg fun both => fine both.2]
      exact named.concat fullest rfl rfl same kept
  · rw [if_neg fun both => low both.1]
    exact named.concat fullest rfl rfl (firstLow_ample usages measured low) kept

end Turn

/-- What the loop keeps, as parts of the list it ran over. -/
theorem named_foldl (share : DiskUsage → ℚ) (usages : List DiskUsage) :
    (usages.foldl (turn share) {}).Named share usages := by
  induction usages using List.reverseRecOn with
  | nil => exact ⟨rfl, iff_of_true rfl rfl, rfl, rfl⟩
  | append_singleton usages usage ih =>
    rw [List.foldl_append]
    exact named_turn ih usage

end DiskScan

/-! ### Evidence -/

variable {share : DiskUsage → ℚ}

/-- The least free share, as the evidence shows it. -/
def shownShare (share : DiskUsage → ℚ) (usages : List DiskUsage) : List String :=
  (leastFree share usages).toList.map fun usage => fixed 1 (share usage)

/-- Without a filesystem that has a size there is nothing to name. -/
theorem named_of_leastFree_eq_none {usages : List DiskUsage}
    (none : leastFree share usages = none) :
    firstLow share usages = .none ∧ criticallyFull share usages = [] := by
  have unsized : sizedUsages usages = [] := List.argmin_eq_none.1 none
  exact ⟨by rw [firstLow, unsized]; rfl, by rw [criticallyFull, unsized]; rfl⟩

theorem checkDiskSpaceBy_metrics (usages : Option (List DiskUsage)) :
    (checkDiskSpaceBy share usages).metrics =
      match leastFree share (usages.getD []) with
      | none => []
      | some least =>
          ((usages.getD []).foldl (DiskScan.turn share) {}).metrics ++
            [("min_free_pct", fixed 1 (share least)), ("min_free_mount", least.mountpoint)] := by
  cases usages with
  | none => rfl
  | some usages =>
    have named := DiskScan.named_foldl share usages
    rw [checkDiskSpaceBy_eq, named.fullest, Option.getD_some]
    cases leastFree share usages <;> rfl

/-- What is recorded under each key. The loop records mountpoints under two keys, the end of
the check under two others. -/
theorem filter_metrics {usages : List DiskUsage} {kept : DiskUsage}
    (least : leastFree share usages = some kept) (key : String) :
    ((usages.foldl (DiskScan.turn share) {}).metrics ++ [("min_free_pct", fixed 1 (share kept)),
        ("min_free_mount", kept.mountpoint)]).filter (·.1 = key) =
      if key = "critical_mount" then
        (criticallyFull share usages).map fun usage => ("critical_mount", usage.mountpoint)
      else if key = "low_mount" then
        (lowSpace share usages).toList.map fun usage => ("low_mount", usage.mountpoint)
      else if key = "min_free_pct" then
        (shownShare share usages).map fun share => ("min_free_pct", share)
      else if key = "min_free_mount" then
        (leastFree share usages).toList.map fun usage => ("min_free_mount", usage.mountpoint)
      else [] := by
  have named := DiskScan.named_foldl share usages
  have start : ∀ metric ∈ ({} : DiskScan).metrics,
      metric.1 = "critical_mount" ∨ metric.1 = "low_mount" := by simp
  have keys := DiskScan.metrics_keys share usages start
  -- the loop has only two keys of its own
  have others (notCritical : key ≠ "critical_mount") (notLow : key ≠ "low_mount") :
      (usages.foldl (DiskScan.turn share) {}).metrics.filter (·.1 = key) = [] := by
    refine List.filter_eq_nil_iff.2 fun metric member => ?_
    rcases keys metric member with same | same
    · simp [same, Ne.symm notCritical]
    · simp [same, Ne.symm notLow]
  rw [List.filter_append]
  split_ifs with isCritical isLow isShare isMount
  · subst isCritical
    rw [named.critical]
    simp
  · subst isLow
    rw [named.low]
    simp
  · subst isShare
    rw [others isCritical isLow]
    simp [shownShare, least]
  · subst isMount
    rw [others isCritical isLow]
    simp [least]
  · rw [others isCritical isLow]
    simp [Ne.symm isShare, Ne.symm isMount]

section Evidence

variable (usages : Option (List DiskUsage))

/-- What is recorded for one key, put together for all keys. -/
theorem exists_key_iff (holds : String → List (String × String) → Prop)
    (silent : ∀ key, ¬ holds key []) :
    (∃ key, holds key ((checkDiskSpaceBy share usages).metrics.filter (·.1 = key))) ↔
      holds "critical_mount"
          ((criticallyFull share (usages.getD [])).map fun usage =>
            ("critical_mount", usage.mountpoint)) ∨
        holds "low_mount"
          ((lowSpace share (usages.getD [])).toList.map fun usage =>
            ("low_mount", usage.mountpoint)) ∨
        holds "min_free_pct"
          ((shownShare share (usages.getD [])).map fun share => ("min_free_pct", share)) ∨
        holds "min_free_mount"
          ((leastFree share (usages.getD [])).toList.map fun usage =>
            ("min_free_mount", usage.mountpoint)) := by
  rw [checkDiskSpaceBy_metrics]
  generalize usages.getD [] = usages
  cases least : leastFree share usages with
  | none =>
    -- a skipped check has no key at all
    obtain ⟨first, critical⟩ := named_of_leastFree_eq_none least
    simp [critical, lowSpace, first, shownShare, least, silent]
  | some kept =>
    simp only [filter_metrics least]
    rw [← least]
    constructor
    · rintro ⟨key, found⟩
      split_ifs at found with isCritical isLow isShare isMount
      · exact .inl (isCritical ▸ found)
      · exact .inr (.inl (isLow ▸ found))
      · exact .inr (.inr (.inl (isShare ▸ found)))
      · exact .inr (.inr (.inr (isMount ▸ found)))
      · exact absurd found (silent key)
    · rintro (found | found | found | found)
      · exact ⟨"critical_mount", found⟩
      · exact ⟨"low_mount", found⟩
      · exact ⟨"min_free_pct", found⟩
      · exact ⟨"min_free_mount", found⟩

/-- The values of the evidence: the mountpoints that are named, and a share. -/
theorem mem_diskEvidence_iff (value : String) :
    value ∈ (checkDiskSpaceBy share usages).metrics.map (·.2) ↔
      value ∈ (namedUsages share (usages.getD [])).map (·.mountpoint) ∨
        value ∈ shownShare share (usages.getD []) := by
  have byKey : value ∈ (checkDiskSpaceBy share usages).metrics.map (·.2) ↔
      ∃ key, (key, value) ∈ (checkDiskSpaceBy share usages).metrics.filter (·.1 = key) := by
    simp
  -- the four keys come in the order of the loop, the filesystems in that of the check
  rw [byKey, exists_key_iff usages (fun key metrics => (key, value) ∈ metrics) (by simp)]
  simp only [namedUsages, List.map_append, List.mem_append, List.mem_map, Prod.mk.injEq, true_and,
    exists_eq_right]
  constructor
  · rintro (critical | low | share | least)
    · exact .inl (.inr critical)
    · exact .inl (.inl (.inr low))
    · exact .inr share
    · exact .inl (.inl (.inl least))
  · rintro (((least | low) | critical) | share)
    · exact .inr (.inr (.inr least))
    · exact .inr (.inl low)
    · exact .inl critical
    · exact .inr (.inr (.inl share))

/-- The values that a `dict` of the evidence keeps. -/
theorem mem_diskDict_iff (value : String) :
    value ∈ (dict (checkDiskSpaceBy share usages).metrics).map (·.2) ↔
      value ∈ (dictUsages share (usages.getD [])).map (·.mountpoint) ∨
        value ∈ shownShare share (usages.getD []) := by
  -- a key given twice keeps what it was given last
  have byKey : value ∈ (dict (checkDiskSpaceBy share usages).metrics).map (·.2) ↔
      ∃ key, ((checkDiskSpaceBy share usages).metrics.filter (·.1 = key)).getLast? =
        some (key, value) := by
    simp [mem_dict_iff]
  have last (entries : Option DiskUsage) : entries.toList.getLast? = entries := by
    cases entries <;> rfl
  rw [byKey, exists_key_iff usages (fun key metrics => metrics.getLast? = some (key, value))
    (by simp)]
  simp only [dictUsages, shownShare, List.map_append, List.mem_append, List.getLast?_map,
    List.map_map, last, List.mem_map, Option.mem_toList, Option.map_eq_some_iff,
    Function.comp_apply, Prod.mk.injEq, true_and]
  constructor
  · rintro (critical | low | share | least)
    · exact .inl (.inr critical)
    · exact .inl (.inl (.inr low))
    · exact .inr share
    · exact .inl (.inl (.inl least))
  · rintro (((least | low) | critical) | share)
    · exact .inr (.inr (.inr least))
    · exact .inr (.inl low)
    · exact .inl critical
    · exact .inr (.inr (.inl share))

end Evidence

end Lapcare.Core
