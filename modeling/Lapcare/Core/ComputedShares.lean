import Lapcare.Core.Diagnostics

/-!
# Shares as they are computed

What a run reports does not depend on how the disk-space check rounds free shares, in this
sense: whatever it computes for a filesystem is the exact share of some other filesystem with
the same mountpoint.

## Main results

* `Inputs.report_withShares` — a run with rounded shares reports what an exact one does of
  other filesystems
-/

namespace Lapcare.Core

/-- A filesystem at the same place whose exact share is the one computed for this. -/
def DiskUsage.withShare (share : DiskUsage → ℚ) (usage : DiskUsage) : DiskUsage :=
  if usage.totalBytes ≤ 0 then usage
  else { usage with freeBytes := (share usage).num, totalBytes := 100 * (share usage).den }

section Share

variable (share : DiskUsage → ℚ)

theorem DiskUsage.freePct_withShare {usage : DiskUsage} (measured : 0 < usage.totalBytes) :
    (usage.withShare share).freePct = share usage := by
  have den : ((share usage).den : ℚ) ≠ 0 := by exact_mod_cast (share usage).den_nz
  rw [withShare, if_neg (not_le.mpr measured), freePct]
  push_cast
  conv_rhs => rw [← Rat.num_div_den (share usage)]
  field_simp

theorem DiskUsage.totalBytes_withShare (usage : DiskUsage) :
    (usage.withShare share).totalBytes ≤ 0 ↔ usage.totalBytes ≤ 0 := by
  have den := (share usage).den_pos
  rw [withShare]
  split_ifs with unsized
  · rfl
  · simp only [unsized, iff_false, not_le]
    omega

theorem DiskUsage.mountpoint_withShare (usage : DiskUsage) :
    (usage.withShare share).mountpoint = usage.mountpoint := by
  rw [withShare]
  split_ifs <;> rfl

/-- The loop does with the one what it does with the other. -/
theorem DiskScan.turn_withShare (scan : DiskScan) (usage : DiskUsage) :
    scan.turn DiskUsage.freePct (usage.withShare share) = scan.turn share usage := by
  by_cases unsized : usage.totalBytes ≤ 0
  · rw [turn, turn, if_pos unsized, if_pos ((usage.totalBytes_withShare share).mpr unsized)]
  · have computed := DiskUsage.freePct_withShare share (not_le.mp unsized)
    have kept : keepFullest DiskUsage.freePct scan.fullest (usage.withShare share) =
        keepFullest share scan.fullest usage := by
      simp only [keepFullest, computed, DiskUsage.mountpoint_withShare]
    rw [turn, turn, if_neg unsized, if_neg ((usage.totalBytes_withShare share).not.mpr unsized)]
    simp only [computed, DiskUsage.mountpoint_withShare, kept]

theorem checkDiskSpace_withShare (usages : Option (List DiskUsage)) :
    checkDiskSpace (usages.map (List.map (DiskUsage.withShare share))) =
      checkDiskSpaceBy share usages := by
  rcases usages with _ | _ | ⟨usage, usages⟩
  · rfl
  · rfl
  · have loop :
        ((usage :: usages).map (DiskUsage.withShare share)).foldl
            (DiskScan.turn DiskUsage.freePct) {} =
          (usage :: usages).foldl (DiskScan.turn share) {} := by
      rw [List.foldl_map]
      congr 1
      funext scan usage
      exact scan.turn_withShare share usage
    rw [List.map_cons] at loop
    simp only [Option.map_some, List.map_cons, checkDiskSpace, checkDiskSpaceBy, loop]

namespace Inputs

variable (inputs : Inputs)

/-- The checks that compute no share. -/
def otherResults : List DiagnosticResult :=
  [checkBatteryWear inputs.wears,
    checkStorageHealth inputs.reports inputs.storageSkip,
    checkFirmwareCurrency inputs.pending,
    checkThermal inputs.temps]

def resultsBy : List DiagnosticResult :=
  inputs.otherResults ++ [checkDiskSpaceBy share inputs.usages]

/-- What a run reports that computes shares in this way. -/
def reportBy : DiagnosticsReport :=
  let (value, measured, total) := score (inputs.resultsBy share)
  { results := inputs.resultsBy share, score := value, measured, total }

theorem reportBy_freePct : inputs.reportBy DiskUsage.freePct = inputs.report := rfl

def withShares : Inputs :=
  { inputs with usages := inputs.usages.map (List.map (DiskUsage.withShare share)) }

theorem results_withShares : (inputs.withShares share).results = inputs.resultsBy share := by
  have check := checkDiskSpace_withShare share inputs.usages
  change _ :: _ :: _ :: _ :: [checkDiskSpace (inputs.usages.map _)] = _
  rw [check]
  rfl

theorem report_withShares : (inputs.withShares share).report = inputs.reportBy share := by
  rw [report, results_withShares, reportBy]

end Inputs

end Share

end Lapcare.Core
