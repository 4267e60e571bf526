import Lapcare.Pages.Diagnostics

/-!
# The health card of the dashboard

The half of `DashboardViewModel` in `ui/pages/dashboard/view_model.py` that loads the
health score. Its run has no storage provider: the dashboard never prompts.
-/

namespace Lapcare.Pages

open Lapcare.Core

/-- The ports the dashboard receives for its health score. -/
structure DashboardPorts where
  batteryWear : Option BatteryWearProvider := none
  firmware : Option FirmwareProvider := none
  thermal : Option ThermalProvider := none
  disk : Option DiskUsageProvider := none

/-- The providers that `load` hands to `diagnostics.run`. -/
def DashboardPorts.sources (ports : DashboardPorts) : Sources where
  batteryWear := ports.batteryWear
  storage := none
  firmware := ports.firmware
  thermal := ports.thermal
  disk := ports.disk

structure DashboardViewModel extends PageViewModel where
  healthScore : String := ""
  healthCoverage : String := ""
  deriving DecidableEq

namespace DashboardViewModel

/-- `load`: the page shows that it loads, and the health run is submitted beside the
reads of identity and system. `include_storage_health` keeps its default. -/
def load (vm : DashboardViewModel) (ports : DashboardPorts) :
    DashboardViewModel × Gather DiagnosticsReport :=
  ({ vm with toPageViewModel := vm.showLoading }, run ports.sources false)

/-- `_apply_health`: nothing measurable leaves the card out. -/
def applyHealth (vm : DashboardViewModel) (report : DiagnosticsReport) : DashboardViewModel :=
  match report.score with
  | none => vm
  | some _ =>
      { vm with
        healthCoverage := (scoreTexts report).2
        healthScore := (scoreTexts report).1 }

end DashboardViewModel

end Lapcare.Pages
