import Lapcare.Core.BatteryAnalysis
import Lapcare.Text.Decimal
import Mathlib.Algebra.Order.Ring.Rat

/-!
# The five checks and the score

The pure checks of `core/diagnostics.py`. Each loop is a fold over the state the
source keeps in its local variables.
-/

namespace Lapcare.Core

open Text

def checkIds : List String :=
  ["battery-wear", "storage-health", "firmware-currency", "thermal", "disk-space"]

def plausibleMinC : ℚ := 1

def plausibleMaxC : ℚ := 119

def thermalWarnC : ℚ := 85

def thermalCritC : ℚ := 95

def diskWarnFreePct : ℚ := 10

def diskCritFreePct : ℚ := 5

def enduranceWarnPct : Int := 80

/-- `_skipped`: the check measured nothing, and `skipCode` says why. -/
def skippedResult (checkId skipCode : String) : DiagnosticResult where
  checkId := checkId
  status := .skipped
  confidence := .low
  skipCode := skipCode

/-! ### Battery wear -/

/-- One turn of the loop that keeps the worst wear so far. -/
def worseWear (worst : Option ℚ) (battery : BatteryWear) : Option ℚ :=
  match wearPercent battery.capacityFull battery.capacityDesign, worst with
  | some wear, some kept => if wear > kept then some wear else some kept
  | some wear, none => some wear
  | none, kept => kept

def wearStatus : HealthClass → CheckStatus
  | .good => .ok
  | .fair => .warning
  | .poor => .critical
  | .unknown => .skipped

def checkBatteryWear : Option (List BatteryWear) → DiagnosticResult
  | none => skippedResult "battery-wear" "unavailable"
  | some [] => skippedResult "battery-wear" "no-data"
  | some wears =>
      match wears.foldl worseWear none with
      -- every battery listed, and none with a known wear
      | none => skippedResult "battery-wear" "no-data"
      | some worst =>
          { checkId := "battery-wear"
            status := wearStatus (classifyWear (some worst))
            confidence := .high
            metrics := [("wear_pct", fixed 1 worst), ("batteries", toString wears.length)] }

/-! ### Storage health -/

/-- Local variables of the loop over the reports. -/
structure StorageScan where
  metrics : List (String × String) := []
  status : CheckStatus := .ok
  confidence : Confidence := .high
  deriving DecidableEq

namespace StorageScan

/-- The drive's own verdict: a failing drive is named, a silent one costs confidence. -/
def verdict (scan : StorageScan) (report : SmartReport) : StorageScan :=
  match report.passed with
  | some false =>
      { scan with
        status := .critical
        metrics := scan.metrics ++ [("failing_device", report.deviceName)] }
  | none => { scan with confidence := .medium }
  | some true => scan

/-- A non-zero count of pending sectors warns, unless something already did. -/
def pending (scan : StorageScan) (report : SmartReport) : StorageScan :=
  match report.pendingSectors with
  | some sectors =>
      if sectors ≠ 0 ∧ scan.status = .ok then
        { scan with
          status := .warning
          metrics := scan.metrics ++ [("pending_sectors", toString sectors)] }
      else scan
  | none => scan

/-- Worn endurance warns, unless something already did. -/
def endurance (scan : StorageScan) (report : SmartReport) : StorageScan :=
  match report.percentageUsed with
  | some used =>
      if enduranceWarnPct ≤ used ∧ scan.status = .ok then
        { scan with
          status := .warning
          metrics := scan.metrics ++ [("endurance_used_pct", toString used)] }
      else scan
  | none => scan

/-- One turn of the loop. -/
def turn (scan : StorageScan) (report : SmartReport) : StorageScan :=
  ((scan.verdict report).pending report).endurance report

end StorageScan

def checkStorageHealth (reports : Option (List SmartReport)) (skipCode : String) :
    DiagnosticResult :=
  match reports with
  | none => skippedResult "storage-health" skipCode
  | some [] => skippedResult "storage-health" "no-data"
  | some reports =>
      let scan := reports.foldl StorageScan.turn {}
      { checkId := "storage-health"
        status := scan.status
        confidence := scan.confidence
        metrics := scan.metrics ++ [("devices", toString reports.length)] }

/-! ### Firmware currency -/

def checkFirmwareCurrency : Option (List FirmwareRelease) → DiagnosticResult
  | none => skippedResult "firmware-currency" "unavailable"
  | some [] =>
      -- here an empty list is an answer: nothing is pending
      { checkId := "firmware-currency", status := .ok, confidence := .medium }
  | some pending =>
      { checkId := "firmware-currency"
        status :=
          if pending.any (·.urgency == some "critical") then .critical else .warning
        confidence := .medium
        metrics := [("pending_updates", toString pending.length)] }

/-! ### Thermal sanity -/

def TemperatureReading.isPlausible (reading : TemperatureReading) : Bool :=
  plausibleMinC < reading.celsius && reading.celsius < plausibleMaxC

/-- `max(..., key=...)`: the first of the hottest readings. -/
def hotter (hottest reading : TemperatureReading) : TemperatureReading :=
  if reading.celsius > hottest.celsius then reading else hottest

/-- `hottest.label or hottest.chip`. -/
def TemperatureReading.sourceName (reading : TemperatureReading) : String :=
  match reading.label with
  | some label => if label = "" then reading.chip else label
  | none => reading.chip

def thermalStatus (celsius : ℚ) : CheckStatus :=
  if thermalCritC ≤ celsius then .critical
  else if thermalWarnC ≤ celsius then .warning
  else .ok

def checkThermal : Option (List TemperatureReading) → DiagnosticResult
  | none => skippedResult "thermal" "unavailable"
  | some temps =>
      match temps.filter (·.isPlausible) with
      -- all that was read lies outside what a sensor can mean
      | [] => skippedResult "thermal" "no-data"
      | first :: rest =>
          let hottest := rest.foldl hotter first
          { checkId := "thermal"
            status := thermalStatus hottest.celsius
            confidence := .medium
            metrics :=
              [("max_temp_c", fixed 0 hottest.celsius),
                ("max_temp_source", hottest.sourceName),
                ("sensors", toString (rest.length + 1))] }

/-! ### Disk space -/

/-- Local variables of the loop over the filesystems. -/
structure DiskScan where
  status : CheckStatus := .ok
  metrics : List (String × String) := []
  fullest : Option (ℚ × String) := none

/-- `free_bytes / total_bytes * 100.0`, without the rounding of binary64. -/
def DiskUsage.freePct (usage : DiskUsage) : ℚ :=
  usage.freeBytes / usage.totalBytes * 100

section Share

/-! The loop compares the shares that it has computed. How they are computed, and so how they
are rounded, is a parameter. -/

variable (share : DiskUsage → ℚ)

namespace DiskScan

/-- The first filesystem with the least free share. -/
def keepFullest (fullest : Option (ℚ × String)) (usage : DiskUsage) : ℚ × String :=
  match fullest with
  | none => (share usage, usage.mountpoint)
  | some kept => if share usage < kept.1 then (share usage, usage.mountpoint) else kept

/-- One turn of the loop; a filesystem without a size is passed over. -/
def turn (scan : DiskScan) (usage : DiskUsage) : DiskScan :=
  if usage.totalBytes ≤ 0 then scan
  else
    let fullest := some (keepFullest share scan.fullest usage)
    if share usage < diskCritFreePct then
      { status := .critical
        metrics := scan.metrics ++ [("critical_mount", usage.mountpoint)]
        fullest }
    -- only the first one that is low is named
    else if share usage < diskWarnFreePct ∧ scan.status = .ok then
      { status := .warning
        metrics := scan.metrics ++ [("low_mount", usage.mountpoint)]
        fullest }
    else { scan with fullest }

end DiskScan

/-- `check_disk_space`, with shares as they are computed. -/
def checkDiskSpaceBy : Option (List DiskUsage) → DiagnosticResult
  | none => skippedResult "disk-space" "unavailable"
  | some [] => skippedResult "disk-space" "no-data"
  | some usages =>
      let scan := usages.foldl (DiskScan.turn share) {}
      match scan.fullest with
      -- every filesystem was passed over
      | none => skippedResult "disk-space" "no-data"
      | some (freePct, mountpoint) =>
          { checkId := "disk-space"
            status := scan.status
            confidence := .high
            metrics :=
              scan.metrics ++
                [("min_free_pct", fixed 1 freePct), ("min_free_mount", mountpoint)] }

end Share

/-- The check in exact arithmetic. -/
def checkDiskSpace : Option (List DiskUsage) → DiagnosticResult :=
  checkDiskSpaceBy DiskUsage.freePct

/-! ### The aggregate -/

def points : CheckStatus → ℚ
  | .ok => 1
  | .warning => 1 / 2
  | .critical => 0
  | .skipped => 0

def measuredResults (results : List DiagnosticResult) : List DiagnosticResult :=
  results.filter (·.status ≠ .skipped)

/-- `(score, measured, total)`. A skipped check reduces coverage, never the score. -/
def score (results : List DiagnosticResult) : Option Int × ℕ × ℕ :=
  match measuredResults results with
  | [] => (none, 0, results.length)
  | measured =>
      (some (roundHalfEven (100 * (measured.map (points ·.status)).sum / measured.length)),
        measured.length, results.length)

end Lapcare.Core
