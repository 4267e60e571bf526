import Mathlib.Data.Rat.Floor
import Mathlib.Tactic.Linarith

/-!
# Rounding and fixed-point rendering

Rounding half to even, and the decimal rendering with a fixed number of digits that
rests on it.
-/

namespace Text

/-- The nearest integer; a tie goes to the even neighbour. -/
def roundHalfEven (q : ℚ) : ℤ :=
  let below := ⌊q⌋
  if q - below < 1 / 2 then below
  else if 1 / 2 < q - below then below + 1
  else if below % 2 = 0 then below else below + 1

@[simp] theorem roundHalfEven_intCast (n : ℤ) : roundHalfEven n = n := by
  simp [roundHalfEven]

/-- Rounding does not leave the integers around a number. -/
theorem le_roundHalfEven {n : ℤ} {q : ℚ} (least : n ≤ q) : n ≤ roundHalfEven q := by
  have below : n ≤ ⌊q⌋ := Int.le_floor.2 least
  unfold roundHalfEven
  dsimp only
  split_ifs <;> omega

theorem roundHalfEven_le {n : ℤ} {q : ℚ} (most : q ≤ n) : roundHalfEven q ≤ n := by
  rcases most.eq_or_lt with rfl | less
  · exact (roundHalfEven_intCast n).le
  · have below : ⌊q⌋ < n := Int.floor_lt.2 less
    unfold roundHalfEven
    dsimp only
    split_ifs <;> omega

/-- Rounding moves a number by at most one half. -/
theorem abs_sub_roundHalfEven_le (q : ℚ) : |q - roundHalfEven q| ≤ 1 / 2 := by
  have above := Int.floor_le q
  have below := Int.lt_floor_add_one q
  unfold roundHalfEven
  dsimp only
  apply abs_le.2
  split_ifs <;> push_cast <;> constructor <;> linarith

/-- If a lesser number were rounded to more, both would be the same tie. -/
theorem roundHalfEven_mono {q q' : ℚ} (less : q ≤ q') : roundHalfEven q ≤ roundHalfEven q' := by
  by_contra crossed
  have step : roundHalfEven q' + 1 ≤ roundHalfEven q := Int.add_one_le_iff.2 (not_le.1 crossed)
  have apart : (roundHalfEven q' : ℚ) + 1 ≤ roundHalfEven q := by exact_mod_cast step
  have near := abs_le.1 (abs_sub_roundHalfEven_le q)
  have near' := abs_le.1 (abs_sub_roundHalfEven_le q')
  have same : q = q' := by linarith
  subst same
  exact crossed le_rfl

/-- The digits of `n`, padded on the left with zeros to at least `width` places. -/
def zeroPad (width n : ℕ) : String :=
  let digits := toString n
  String.ofList (List.replicate (width - digits.length) '0') ++ digits

/-- `q` with exactly `digits` decimal places. A negative number keeps its sign even
when its digits round to zero. -/
def fixed (digits : ℕ) (q : ℚ) : String :=
  let scaled := (roundHalfEven (|q| * 10 ^ digits)).toNat
  let whole := toString (scaled / 10 ^ digits)
  let fraction := if digits = 0 then "" else "." ++ zeroPad digits (scaled % 10 ^ digits)
  (if q < 0 then "-" else "") ++ whole ++ fraction

example : fixed 1 (41 / 8) = "5.1" := by decide +kernel

end Text
