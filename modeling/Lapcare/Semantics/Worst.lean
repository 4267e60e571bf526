import Mathlib.Data.List.Perm.Basic
import Mathlib.Order.MinMax

/-!
# The worst of many

The greatest severity of a list of items, and never less than a bottom. A loop computes it
if each of its turns makes the verdict of the state the greater of itself and one severity.

## Main results

* `worst_append`, `worst_perm` — the worst of two parts, in whatever order
* `le_worst_iff` — the worst is as severe as some item is
* `worst_le_insert`, `worst_insert_neutral` — what one more item does
* `foldl_verdict` — the loops that compute it
-/

namespace Semantics

variable {α σ τ : Type} [LinearOrder σ]

/-- The greatest severity of the items, and no less than `bottom`. -/
def worst (severity : α → σ) (bottom : σ) (items : List α) : σ :=
  items.foldr (fun item rest => max (severity item) rest) bottom

section Worst

variable (severity : α → σ) (bottom : σ)

@[simp] theorem worst_nil : worst severity bottom [] = bottom := rfl

@[simp] theorem worst_cons (item : α) (items : List α) :
    worst severity bottom (item :: items) = max (severity item) (worst severity bottom items) :=
  rfl

theorem bottom_le_worst (items : List α) : bottom ≤ worst severity bottom items := by
  induction items with
  | nil => exact le_rfl
  | cons item items ih => exact ih.trans (le_max_right _ _)

/-- The worst reaches a level that the bottom or some item reaches. -/
theorem le_worst_iff_or (level : σ) (items : List α) :
    level ≤ worst severity bottom items ↔
      level ≤ bottom ∨ ∃ item ∈ items, level ≤ severity item := by
  induction items with
  | nil => simp
  | cons item items ih => rw [worst_cons, le_max_iff, ih, List.exists_mem_cons_iff, or_left_comm]

/-- Above the bottom, the worst is as severe as some item is. -/
theorem le_worst_iff {level : σ} (above : bottom < level) (items : List α) :
    level ≤ worst severity bottom items ↔ ∃ item ∈ items, level ≤ severity item := by
  rw [le_worst_iff_or, or_iff_right (not_le.mpr above)]

theorem worst_append (first second : List α) :
    worst severity bottom (first ++ second) =
      max (worst severity bottom first) (worst severity bottom second) := by
  induction first with
  | nil => exact (max_eq_right (bottom_le_worst severity bottom second)).symm
  | cons item first ih => rw [List.cons_append, worst_cons, worst_cons, ih, max_assoc]

theorem worst_perm {first second : List α} (same : first.Perm second) :
    worst severity bottom first = worst severity bottom second := by
  induction same with
  | nil => rfl
  | cons item _ ih => rw [worst_cons, worst_cons, ih]
  | swap item other items =>
    rw [worst_cons, worst_cons, worst_cons, worst_cons, max_left_comm]
  | trans _ _ ih ih' => exact ih.trans ih'

theorem worst_insert (item : α) (first second : List α) :
    worst severity bottom (first ++ item :: second) =
      max (severity item) (worst severity bottom (first ++ second)) :=
  worst_perm severity bottom List.perm_middle

theorem worst_le_insert (item : α) (first second : List α) :
    worst severity bottom (first ++ second) ≤ worst severity bottom (first ++ item :: second) := by
  rw [worst_insert]
  exact le_max_right _ _

/-- An item that is no worse than the bottom does not count. -/
theorem worst_insert_neutral {item : α} (neutral : severity item ≤ bottom)
    (first second : List α) :
    worst severity bottom (first ++ item :: second) = worst severity bottom (first ++ second) := by
  rw [worst_insert]
  exact max_eq_right (neutral.trans (bottom_le_worst severity bottom _))

/-- With severities no less than a greater bottom, the bottom only shows where there is no
item. -/
theorem worst_of_le {severity : α → σ} {bottom bottom' : σ} (greater : bottom ≤ bottom')
    (least : ∀ item, bottom' ≤ severity item) {items : List α} (some_ : items ≠ []) :
    worst severity bottom items = worst severity bottom' items := by
  induction items with
  | nil => exact absurd rfl some_
  | cons item items ih =>
    rw [worst_cons, worst_cons]
    by_cases last : items = []
    · subst last
      rw [worst_nil, worst_nil, max_eq_left (greater.trans (least item)),
        max_eq_left (least item)]
    · rw [ih last]

end Worst

/-- A loop computes the worst if every turn makes the verdict of its state the greater of
itself and the severity of the item. By induction on the items. -/
theorem foldl_verdict {turn : τ → α → τ} {verdict : τ → σ} {severity : α → σ} {bottom : σ}
    {sound : τ → Prop} (keeps : ∀ state item, sound state → sound (turn state item))
    (turns : ∀ state item, sound state →
      verdict (turn state item) = max (verdict state) (severity item))
    (items : List α) {state : τ} (start : sound state) (least : bottom ≤ verdict state) :
    verdict (items.foldl turn state) = max (verdict state) (worst severity bottom items) := by
  induction items generalizing state with
  | nil => exact (max_eq_left least).symm
  | cons item items ih =>
    have next := turns state item start
    have more : bottom ≤ verdict (turn state item) := by
      rw [next]
      exact least.trans (le_max_left _ _)
    rw [List.foldl_cons, ih (keeps state item start) more, next, worst_cons, max_assoc]

/-- A loop without an invariant of its own. -/
theorem foldl_verdict_of_forall {turn : τ → α → τ} {verdict : τ → σ} {severity : α → σ}
    {bottom : σ}
    (turns : ∀ state item, verdict (turn state item) = max (verdict state) (severity item))
    (items : List α) {state : τ} (least : bottom ≤ verdict state) :
    verdict (items.foldl turn state) = max (verdict state) (worst severity bottom items) := by
  have keeps (_ : τ) (_ : α) (holds : True) : True := holds
  exact foldl_verdict keeps (fun state item _ => turns state item) items trivial least

end Semantics
