import Mathlib.Data.Rat.Defs
import Mathlib.Order.Lattice

/-!
# Domain models

The frozen dataclasses of `core/models.py`. Every field that a source may fail to
report is an `Option`. Absence of hardware is data (`none`, an empty list); the
inability to ask is an error of `Lapcare.Core.Errors`.

A Python `str` is a `String` and an `int` an `Int`. A `float` that is read is a `PyFloat`; one
that is computed is the rational number it denotes, without rounding. What raises beyond the
range of binary64 is in `Lapcare.Core.PythonNumbers`.
-/

namespace Lapcare.Core

/-- A Python `float`. -/
inductive PyFloat
  | finite (value : ℚ)
  | infinite (negative : Bool)
  | nan
  deriving DecidableEq

/-- What a provider can currently deliver. -/
inductive Availability
  | ok
  | toolMissing
  | unsupportedHardware
  | permissionDenied
  deriving DecidableEq, Repr

namespace Availability

def value : Availability → String
  | ok => "ok"
  | toolMissing => "tool-missing"
  | unsupportedHardware => "unsupported-hardware"
  | permissionDenied => "permission-denied"

end Availability

/-- DMI identity. The serial is root-only on most systems. -/
structure SystemIdentity where
  vendor : Option String := none
  productName : Option String := none
  productFamily : Option String := none
  productVersion : Option String := none
  boardName : Option String := none
  biosVersion : Option String := none
  biosDate : Option String := none
  serial : Option String := none
  deriving DecidableEq

structure OsInfo where
  distroName : Option String := none
  distroVersion : Option String := none
  kernel : Option String := none
  hostname : Option String := none
  uptimeSeconds : Option PyFloat := none
  deriving DecidableEq

/-- The processors that the system shows, and its memory. -/
structure CpuMemSummary where
  cpuModel : Option String := none
  cpuCount : Option Int := none
  memoryTotalKib : Option Int := none
  deriving DecidableEq

structure PciDevice where
  slot : String
  deviceClass : Option String := none
  vendor : Option String := none
  device : Option String := none
  deriving DecidableEq

structure UsbDevice where
  bus : String
  device : Option String := none
  vendorId : Option String := none
  productId : Option String := none
  name : Option String := none
  deriving DecidableEq

/-- Which sysfs unit family a battery reports. -/
inductive CapacityUnit
  | microWattHours
  | microAmpHours
  deriving DecidableEq, Repr

/-- Static wear data for one battery. -/
structure BatteryWear where
  name : String
  capacityFull : Option Int := none
  capacityDesign : Option Int := none
  capacityUnit : Option CapacityUnit := none
  cycleCount : Option Int := none
  modelName : Option String := none
  manufacturer : Option String := none
  technology : Option String := none
  deriving DecidableEq

inductive BatteryState
  | unknown
  | charging
  | discharging
  | notCharging
  | full
  | empty
  deriving DecidableEq, Repr

/-- Live status of one battery. A time that the source does not know is absent. -/
structure BatteryStatus where
  name : String
  state : BatteryState := .unknown
  percentage : Option PyFloat := none
  timeToEmptyS : Option Int := none
  timeToFullS : Option Int := none
  energyRateW : Option PyFloat := none
  deriving DecidableEq

/-- One battery's wear on one day, the unit of history; `day` is an ISO date. -/
structure WearSnapshot where
  day : String
  batteryName : String
  wearPercent : Option ℚ := none
  cycleCount : Option Int := none
  capacityFull : Option Int := none
  capacityDesign : Option Int := none
  deriving DecidableEq

/-- What the detection of a ThinkPad found. -/
structure ThinkpadInfo where
  isThinkpad : Bool
  dmiVendorLenovo : Bool := false
  acpiDriverLoaded : Bool := false
  model : Option String := none
  deriving DecidableEq

/-- `Fwupd.UpdateState`, narrowed to what the page distinguishes. -/
inductive UpdateState
  | unknown
  | pending
  | success
  | failed
  | failedTransient
  | needsReboot
  deriving DecidableEq, Repr

/-- One device fwupd knows about. -/
structure FirmwareDevice where
  id : String
  name : Option String := none
  summary : Option String := none
  vendor : Option String := none
  version : Option String := none
  versionLowest : Option String := none
  updatable : Bool := false
  needsReboot : Bool := false
  plugin : Option String := none
  updateState : UpdateState := .unknown
  updateError : Option String := none
  deriving DecidableEq

/-- One available release for a device, identified by its version. -/
structure FirmwareRelease where
  version : String
  name : Option String := none
  summary : Option String := none
  description : Option String := none
  size : Option Int := none
  urgency : Option String := none
  deriving DecidableEq

/-- One physical block device. -/
structure StorageDevice where
  name : String
  model : Option String := none
  sizeBytes : Option Int := none
  removable : Option Bool := none
  rotational : Option Bool := none
  deriving DecidableEq

/-- Parsed `smartctl --json --all` health for one device. -/
structure SmartReport where
  deviceName : String
  passed : Option Bool := none
  temperatureC : Option Int := none
  powerOnHours : Option Int := none
  powerCycles : Option Int := none
  percentageUsed : Option Int := none
  availableSparePct : Option Int := none
  mediaErrors : Option Int := none
  criticalWarning : Option Int := none
  unsafeShutdowns : Option Int := none
  reallocatedSectors : Option Int := none
  pendingSectors : Option Int := none
  model : Option String := none
  firmwareVersion : Option String := none
  serialNumber : Option String := none
  messages : List String := []
  deriving DecidableEq

/-- One hwmon temperature sensor. -/
structure TemperatureReading where
  chip : String
  label : Option String
  celsius : ℚ
  deriving DecidableEq

/-- Filesystem usage for one real mount. -/
structure DiskUsage where
  mountpoint : String
  totalBytes : Int
  freeBytes : Int
  deriving DecidableEq

/-- Outcome of one diagnostic check. -/
inductive CheckStatus
  | skipped
  | ok
  | warning
  | critical
  deriving DecidableEq, Repr

namespace CheckStatus

def value : CheckStatus → String
  | ok => "ok"
  | warning => "warning"
  | critical => "critical"
  | skipped => "skipped"

theorem value_injective : Function.Injective value := by
  intro first second same
  cases first <;> cases second <;> first | rfl | exact absurd same (by decide)

/-- Position in the order `skipped < ok < warning < critical`. -/
def rank : CheckStatus → ℕ
  | skipped => 0
  | ok => 1
  | warning => 2
  | critical => 3

theorem rank_injective : Function.Injective rank := by
  intro first second same
  cases first <;> cases second <;> first | rfl | exact absurd same (by decide)

/-- Worse verdicts are greater. -/
instance : LinearOrder CheckStatus :=
  LinearOrder.lift' rank rank_injective

theorem le_critical (status : CheckStatus) : status ≤ critical := by
  cases status <;> decide

end CheckStatus

/-- How much a diagnostic signal should be trusted. -/
inductive Confidence
  | high
  | medium
  | low
  deriving DecidableEq, Repr

namespace Confidence

def value : Confidence → String
  | high => "high"
  | medium => "medium"
  | low => "low"

theorem value_injective : Function.Injective value := by
  intro first second same
  cases first <;> cases second <;> first | rfl | exact absurd same (by decide)

end Confidence

/-- One check's outcome. `metrics` is machine-keyed evidence, in the order it was
recorded. -/
structure DiagnosticResult where
  checkId : String
  status : CheckStatus
  confidence : Confidence
  metrics : List (String × String) := []
  skipCode : String := ""
  deriving DecidableEq

/-- All check results plus the aggregate. -/
structure DiagnosticsReport where
  results : List DiagnosticResult
  score : Option Int
  measured : ℕ
  total : ℕ
  deriving DecidableEq

end Lapcare.Core
