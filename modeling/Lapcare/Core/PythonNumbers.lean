import Lapcare.Core.Errors
import Mathlib.Algebra.Order.Ring.Rat
import Mathlib.Algebra.Order.Group.Unbundled.Abs

/-!
# Numbers that Python cannot compute or print

`int / int` raises where the quotient is beyond binary64, and `str` on an integer of more than
4300 digits.
-/

namespace Lapcare.Core

/-- A number from here on is rounded out of the range of binary64: it lies halfway between
the greatest of them and `2 ^ 1024`, or further. -/
def floatLimit : ℚ := 2 ^ 1024 - 2 ^ 970

/-- `numerator / denominator`, rounding aside. -/
def trueDivide (numerator denominator : Int) : Except PyException ℚ :=
  if |(numerator / denominator : ℚ)| < floatLimit then .ok (numerator / denominator)
  else .error (.foreign "OverflowError" "integer division result too large for a float")

theorem two_pow_lt_floatLimit : (2 ^ 53 : ℚ) < floatLimit := by
  rw [floatLimit]
  decide +kernel

def maxStrDigits : ℕ := 4300

/-- `str(n)`. -/
def strInt (n : Int) : Except PyException String :=
  if n.natAbs < 10 ^ maxStrDigits then .ok (toString n)
  else
    .error (.foreign "ValueError" "Exceeds the limit (4300 digits) for integer string conversion")

end Lapcare.Core
