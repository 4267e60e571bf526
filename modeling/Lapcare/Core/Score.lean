import Lapcare.Core.Diagnostics
import Mathlib.Algebra.Order.BigOperators.Group.List
import Mathlib.Tactic.Positivity
import Mathlib.Tactic.Linarith
import Mathlib.Tactic.GCongr
import Mathlib.Tactic.Ring

/-!
# The score as an aggregate

The score is a share of the points that the measured checks could have, in percent. It is
a function of how many checks have each status, so a skipped check changes the total only,
and a better verdict cannot cost anything.

## Main results

* `sum_points_eq` — the points are the checks that are fine and half of those that warn
* `score_bounds` — a score is a percentage
* `score_isAggregate` — the score is the documented aggregate
-/

namespace Lapcare.Core

open Text

@[simp] theorem points_ok : points .ok = 1 := rfl

@[simp] theorem points_warning : points .warning = 1 / 2 := rfl

@[simp] theorem points_critical : points .critical = 0 := rfl

theorem points_bounds (status : CheckStatus) : 0 ≤ points status ∧ points status ≤ 1 := by
  cases status <;> decide +kernel

theorem sum_points_bounds (results : List DiagnosticResult) :
    0 ≤ (results.map (points ·.status)).sum ∧
      (results.map (points ·.status)).sum ≤ results.length := by
  induction results with
  | nil => simp
  | cons result results ih =>
    have one := points_bounds result.status
    rw [List.map_cons, List.sum_cons, List.length_cons, Nat.cast_succ]
    constructor <;> linarith

/-- A score is a percentage. -/
theorem score_bounds {results : List DiagnosticResult} {value : Int}
    (scored : (score results).1 = some value) : 0 ≤ value ∧ value ≤ 100 := by
  unfold score at scored
  split at scored
  · exact nomatch scored
  · rename_i measured some
    obtain rfl := Option.some.inj scored
    obtain ⟨least, most⟩ := sum_points_bounds (measuredResults results)
    have filled : (0 : ℚ) < (measuredResults results).length := by
      exact_mod_cast List.length_pos_iff.2 fun empty => some empty
    constructor
    · -- rounding does not leave the integers around the mean
      refine le_roundHalfEven ?_
      push_cast
      positivity
    · refine roundHalfEven_le ?_
      rw [div_le_iff₀ filled]
      push_cast
      linarith

theorem score_measured_le (results : List DiagnosticResult) :
    (score results).2.1 ≤ results.length ∧ (score results).2.2 = results.length := by
  unfold score
  split
  · exact ⟨Nat.zero_le _, rfl⟩
  · exact ⟨List.length_filter_le _ _, rfl⟩

/-! ### The counts of each status -/

/-- How many of the results have a status. -/
def tally (status : CheckStatus) (results : List DiagnosticResult) : ℕ :=
  results.countP (·.status = status)

theorem tally_cons (status : CheckStatus) (result : DiagnosticResult)
    (results : List DiagnosticResult) :
    tally status (result :: results) =
      tally status results + if result.status = status then 1 else 0 := by
  simp [tally, List.countP_cons]

theorem measuredResults_cons (result : DiagnosticResult) (results : List DiagnosticResult) :
    measuredResults (result :: results) =
      if result.status = .skipped then measuredResults results
      else result :: measuredResults results := by
  by_cases skipped : result.status = .skipped <;> simp [measuredResults, skipped]

/-- A check that is fine has one point, and one that warns has half a point. -/
theorem sum_points_eq (results : List DiagnosticResult) :
    ((measuredResults results).map (points ·.status)).sum =
      tally .ok results + tally .warning results / 2 := by
  induction results with
  | nil => simp [measuredResults, tally]
  | cons result results ih =>
    rw [measuredResults_cons, tally_cons, tally_cons]
    cases status : result.status
    case skipped => simpa using ih
    case ok => simp [status, ih]; ring
    case warning => simp [status, ih]; ring
    case critical => simp [status, ih]

theorem length_measuredResults (results : List DiagnosticResult) :
    (measuredResults results).length =
      tally .ok results + tally .warning results + tally .critical results := by
  induction results with
  | nil => rfl
  | cons result results ih =>
    rw [measuredResults_cons, tally_cons, tally_cons, tally_cons]
    cases status : result.status <;> simp [ih] <;> omega

/-- The share of the points, in percent. -/
def sharePercent (results : List DiagnosticResult) : ℚ :=
  100 * (tally .ok results + tally .warning results / 2) / (measuredResults results).length

theorem score_eq (results : List DiagnosticResult) :
    score results =
      (if measuredResults results = [] then none
        else some (roundHalfEven (sharePercent results)),
        (measuredResults results).length, results.length) := by
  rw [sharePercent, ← sum_points_eq, score]
  split
  · rename_i empty
    rw [empty, if_pos rfl, List.length_nil]
  · rename_i some_
    rw [if_neg some_]

/-! ### The aggregate -/

/-- The documented aggregate of a list of results. -/
structure IsAggregate (score : List DiagnosticResult → Option Int × ℕ × ℕ) : Prop where
  /-- Without a measured check there is no score. -/
  unmeasured : ∀ results : List DiagnosticResult,
    (∀ result ∈ results, result.status = .skipped) → score results = (none, 0, results.length)
  /-- Otherwise it is the share of the points in percent, rounded half to even. -/
  measured : ∀ results : List DiagnosticResult,
    (∃ result ∈ results, result.status ≠ .skipped) →
      ∃ value, score results =
          (some value, results.countP (·.status ≠ .skipped), results.length) ∧
        value = roundHalfEven (100 * (tally .ok results + tally .warning results / 2) /
          results.countP (·.status ≠ .skipped)) ∧
        0 ≤ value ∧ value ≤ 100
  /-- Only the counts of the measured statuses matter. -/
  counts : ∀ results results' : List DiagnosticResult,
    (∀ status ≠ CheckStatus.skipped, tally status results = tally status results') →
      (score results).1 = (score results').1 ∧ (score results).2.1 = (score results').2.1
  /-- A skipped check, wherever it stands, changes the total only. -/
  skipped : ∀ (before after : List DiagnosticResult) (result : DiagnosticResult),
    result.status = .skipped →
      score (before ++ result :: after) =
        ((score (before ++ after)).1, (score (before ++ after)).2.1,
          (score (before ++ after)).2.2 + 1)
  /-- A better verdict of a measured check does not lower the score. -/
  better : ∀ (before after : List DiagnosticResult) (result result' : DiagnosticResult),
    result'.status ≠ .skipped → result'.status < result.status →
      ∃ value value', (score (before ++ result :: after)).1 = some value ∧
        (score (before ++ result' :: after)).1 = some value' ∧ value ≤ value'

theorem measuredResults_middle (before after : List DiagnosticResult) (result : DiagnosticResult) :
    measuredResults (before ++ result :: after) =
      measuredResults before ++ measuredResults [result] ++ measuredResults after := by
  rw [← List.singleton_append, measuredResults, List.filter_append, List.filter_append,
    List.append_assoc]
  rfl

theorem measuredResults_singleton {result : DiagnosticResult}
    (measured : result.status ≠ .skipped) :
    measuredResults [result] = [result] := by
  rw [measuredResults_cons, if_neg measured]
  rfl

/-- A better verdict has no fewer points. -/
theorem points_antitone {better status : CheckStatus} (measured : better ≠ .skipped)
    (le : better ≤ status) : points status ≤ points better := by
  cases better <;> cases status <;>
    first
    | exact absurd rfl measured
    | exact absurd le (by decide)
    | decide +kernel

theorem score_isAggregate : IsAggregate score where
  unmeasured results skipped := by
    have none_ : measuredResults results = [] :=
      List.filter_eq_nil_iff.2 fun result member => by simp [skipped result member]
    rw [score_eq, if_pos none_, none_, List.length_nil]
  measured results some_ := by
    obtain ⟨result, member, measured⟩ := some_
    have filled : measuredResults results ≠ [] :=
      List.ne_nil_of_mem (List.mem_filter.2 ⟨member, by simpa using measured⟩)
    have count : (measuredResults results).length = results.countP (·.status ≠ .skipped) :=
      List.countP_eq_length_filter.symm
    refine ⟨roundHalfEven (sharePercent results), ?_, ?_, ?_⟩
    · rw [score_eq, if_neg filled, count]
    · rw [sharePercent, count]
    · have scored : (score results).1 = some (roundHalfEven (sharePercent results)) := by
        rw [score_eq, if_neg filled]
      exact score_bounds scored
  counts results results' same := by
    have fine := same .ok (by decide)
    have warned := same .warning (by decide)
    have critical := same .critical (by decide)
    -- the score reads the results through their numbers only
    have length : (measuredResults results).length = (measuredResults results').length := by
      rw [length_measuredResults, length_measuredResults, fine, warned, critical]
    have share : sharePercent results = sharePercent results' := by
      rw [sharePercent, sharePercent, fine, warned, length]
    have empty : measuredResults results = [] ↔ measuredResults results' = [] := by
      rw [← List.length_eq_zero_iff, length, List.length_eq_zero_iff]
    rw [score_eq, score_eq]
    simp only [share, length, empty, and_self]
  skipped before after result skipped := by
    have same :
        measuredResults (before ++ result :: after) = measuredResults (before ++ after) := by
      rw [measuredResults_middle, measuredResults_cons, if_pos skipped]
      simp [measuredResults]
    -- a skipped result is in no number but the total
    have fine (status : CheckStatus) (measured : status ≠ .skipped) :
        tally status (before ++ result :: after) = tally status (before ++ after) := by
      simp [tally, skipped, measured.symm]
    have share : sharePercent (before ++ result :: after) = sharePercent (before ++ after) := by
      rw [sharePercent, sharePercent, same, fine .ok (by decide), fine .warning (by decide)]
    rw [score_eq, score_eq, same, share]
    simp only [List.length_append, List.length_cons, add_assoc]
  better before after result result' measured' less := by
    have measured : result.status ≠ .skipped := fun skipped => by
      rw [skipped] at less
      exact absurd less (by cases result'.status <;> decide)
    have split (one : DiagnosticResult) (counts : one.status ≠ .skipped) :
        measuredResults (before ++ one :: after) =
          measuredResults before ++ one :: measuredResults after := by
      rw [measuredResults_middle, measuredResults_singleton counts, List.append_assoc]
      rfl
    have filled (one : DiagnosticResult) (counts : one.status ≠ .skipped) :
        measuredResults (before ++ one :: after) ≠ [] := by
      rw [split one counts]
      simp
    refine ⟨roundHalfEven (sharePercent (before ++ result :: after)),
      roundHalfEven (sharePercent (before ++ result' :: after)), ?_, ?_, ?_⟩
    · rw [score_eq, if_neg (filled result measured)]
    · rw [score_eq, if_neg (filled result' measured')]
    · -- as many measured checks, and no fewer points
      apply roundHalfEven_mono
      have more := points_antitone measured' less.le
      rw [sharePercent, sharePercent, ← sum_points_eq, ← sum_points_eq, split result measured,
        split result' measured']
      simp only [List.map_append, List.map_cons, List.sum_append, List.sum_cons,
        List.length_append, List.length_cons]
      gcongr

end Lapcare.Core
