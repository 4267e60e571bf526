import Mathlib.Data.Int.Order.Basic

/-!
# Firmware update preconditions

`core/firmware_policy.py`: the battery must hold enough charge before an install starts.
-/

namespace Lapcare.Core

/-- `_UNKNOWN_BATTERY_LEVEL`: the level fwupd reports when it cannot read one. -/
def unknownBatteryLevel : Int := 101

/-- There is nothing to block on when the level or the threshold is unknown. -/
def batteryOkForUpdate (batteryLevel threshold : Option Int) : Bool :=
  match batteryLevel, threshold with
  | none, _ => true
  | some _, none => true
  | some level, some minimum => unknownBatteryLevel ≤ level || minimum ≤ level

/-- An update is blocked exactly by a known level below a known threshold. -/
theorem batteryOkForUpdate_eq_false_iff {batteryLevel threshold : Option Int} :
    batteryOkForUpdate batteryLevel threshold = false ↔
      ∃ level minimum, batteryLevel = some level ∧ threshold = some minimum ∧
        level < unknownBatteryLevel ∧ level < minimum := by
  cases batteryLevel with
  | none => simp [batteryOkForUpdate]
  | some level =>
    cases threshold with
    | none => simp [batteryOkForUpdate]
    | some minimum => simp [batteryOkForUpdate]

end Lapcare.Core
