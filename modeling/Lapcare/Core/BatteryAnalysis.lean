import Lapcare.Core.Models
import Lapcare.Text.IsoDate
import Mathlib.Algebra.Order.Ring.Rat

/-!
# Battery wear analysis

`core/battery_analysis.py`: wear is `(1 - full / design) × 100`, clamped at zero, and
classified by two thresholds. A snapshot of it is dated, today where no day is given.
-/

namespace Lapcare.Core

def goodMaxWear : ℚ := 15

def fairMaxWear : ℚ := 30

inductive HealthClass
  | good
  | fair
  | poor
  | unknown
  deriving DecidableEq, Repr

/-- Wear as a percentage of design capacity; `none` when unknowable. The quotient is exact, and
where it is beyond binary64 the code raises, as `Raising.wearPercent` does. -/
def wearPercent (capacityFull capacityDesign : Option Int) : Option ℚ :=
  match capacityFull, capacityDesign with
  | some full, some design =>
      if design ≤ 0 then none
      else some (max ((1 - (full : ℚ) / (design : ℚ)) * 100) 0)
  | _, _ => none

def classifyWear : Option ℚ → HealthClass
  | none => .unknown
  | some wear =>
      if wear < goodMaxWear then .good
      else if wear < fairMaxWear then .fair
      else .poor

/-- Today's history snapshot for one battery. -/
def snapshotFromWear (today : Text.Date) (wear : BatteryWear) (day : Option Text.Date := none) :
    WearSnapshot where
  day := (day.getD today).isoformat
  batteryName := wear.name
  wearPercent := wearPercent wear.capacityFull wear.capacityDesign
  cycleCount := wear.cycleCount
  capacityFull := wear.capacityFull
  capacityDesign := wear.capacityDesign

end Lapcare.Core
