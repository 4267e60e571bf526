import Lapcare.Core.Checks
import Lapcare.Core.Ports

/-!
# The diagnostics run

`run` of `core/diagnostics.py`: gather every input with per-source degradation, then
run the five checks. Each `try` block of the source is a definition of its own, and
`except LapcareError` lets a foreign exception through.
-/

namespace Lapcare.Core

open Semantics

/-- The keyword arguments of a run that name providers. -/
structure Sources where
  batteryWear : Option BatteryWearProvider := none
  storage : Option StorageProvider := none
  firmware : Option FirmwareProvider := none
  thermal : Option ThermalProvider := none
  disk : Option DiskUsageProvider := none

/-- `try: read` with `except LapcareError: fallback`. -/
def orElse {α : Type} (read : Gather α) (fallback : α) : Gather α :=
  tryCatch read fun
    | .lapcare _ => pure fallback
    | .foreign className detail => throw (.foreign className detail)

def gatherWears : Option BatteryWearProvider → Gather (Option (List BatteryWear))
  | none => pure none
  | some provider => orElse (some <$> provider.listBatteries) none

/-- The loop over the storage devices: every device is read, the first failure ends it. -/
def readReports (provider : StorageProvider) : Gather (List SmartReport) := do
  let devices ← provider.listDevices
  devices.mapM fun device => provider.readSmart device.name

/-- The reports and the skip code; privileged reads happen only on request. -/
def gatherReports (includeStorageHealth : Bool) :
    Option StorageProvider → Gather (Option (List SmartReport) × String)
  | none => pure (none, "not-requested")
  | some provider =>
      if includeStorageHealth then
        tryCatch ((fun reports => (some reports, "not-requested")) <$> readReports provider) fun
          | .lapcare (.privilegedActionDenied _) => pure (none, "declined")
          | .lapcare _ => pure (none, "unavailable")
          | .foreign className detail => throw (.foreign className detail)
      else pure (none, "not-requested")

/-- The loop over the firmware devices: the releases of all updatable ones. -/
def readPending (provider : FirmwareProvider) : Gather (List FirmwareRelease) := do
  let devices ← provider.listDevices
  let releases ← (devices.filter (·.updatable)).mapM fun device =>
    provider.listUpgrades device.id
  return releases.flatten

def gatherPending : Option FirmwareProvider → Gather (Option (List FirmwareRelease))
  | none => pure none
  | some provider => orElse (some <$> readPending provider) none

def gatherTemps : Option ThermalProvider → Gather (Option (List TemperatureReading))
  | none => pure none
  | some provider => orElse (some <$> provider.listTemperatures) none

def gatherUsages : Option DiskUsageProvider → Gather (Option (List DiskUsage))
  | none => pure none
  | some provider => orElse (some <$> provider.listUsage) none

/-- What a run hands to the checks. -/
structure Inputs where
  wears : Option (List BatteryWear)
  reports : Option (List SmartReport)
  storageSkip : String
  pending : Option (List FirmwareRelease)
  temps : Option (List TemperatureReading)
  usages : Option (List DiskUsage)

def Inputs.results (inputs : Inputs) : List DiagnosticResult :=
  [checkBatteryWear inputs.wears,
    checkStorageHealth inputs.reports inputs.storageSkip,
    checkFirmwareCurrency inputs.pending,
    checkThermal inputs.temps,
    checkDiskSpace inputs.usages]

def Inputs.report (inputs : Inputs) : DiagnosticsReport :=
  let (value, measured, total) := score inputs.results
  { results := inputs.results, score := value, measured, total }

/-- The gathering half of a run, in the order of the source. -/
def gatherInputs (sources : Sources) (includeStorageHealth : Bool) : Gather Inputs := do
  let wears ← gatherWears sources.batteryWear
  let (reports, storageSkip) ← gatherReports includeStorageHealth sources.storage
  let pending ← gatherPending sources.firmware
  let temps ← gatherTemps sources.thermal
  let usages ← gatherUsages sources.disk
  return { wears, reports, storageSkip, pending, temps, usages }

/-- Gather every input with per-source degradation, then run the checks. -/
def run (sources : Sources) (includeStorageHealth : Bool) : Gather DiagnosticsReport :=
  Inputs.report <$> gatherInputs sources includeStorageHealth

end Lapcare.Core
