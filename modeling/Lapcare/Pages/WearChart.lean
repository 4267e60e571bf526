import Lapcare.Pages.BatteryHistory
import Mathlib.Tactic.FieldSimp
import Mathlib.Tactic.Positivity

/-!
# The wear chart

`WearChart` of `ui/widgets/wear_chart.py`: a line through the wear of the recorded days, the
area below it, and the first and the last day as labels. Lengths are rational numbers, and
`y` grows downwards.

## Main results

* `battery_charts_drawn` — what the battery page hands to a chart is drawn to scale, inside
  the plot, from the oldest day to the newest
-/

namespace Lapcare.Pages

open Lapcare.Core Platform Semantics Text

namespace WearChart

/-- `_PAD`. -/
def pad : ℚ := 8

/-- `max(values)`, of values that are there. -/
def greatest (values : List ℚ) : ℚ := values.max?.getD 0

def yMax (values : List ℚ) : ℚ := max 10 (greatest values * (5 / 4))

def plotW (width : ℚ) : ℚ := width - 2 * pad

def plotH (height labelH : ℚ) : ℚ := max 10 (height - 2 * pad - labelH - 4)

/-- `xy`. -/
def xy (values : List ℚ) (width height labelH : ℚ) (index : ℕ) (wear : ℚ) : ℚ × ℚ :=
  let xFrac : ℚ := if 1 < values.length then index / (values.length - 1) else 1 / 2
  (pad + xFrac * plotW width, pad + (1 - wear / yMax values) * plotH height labelH)

/-- What is asked of cairo and of Pango. -/
inductive DrawCall
  | moveTo (x y : ℚ)
  | lineTo (x y : ℚ)
  | strokePreserve
  | closePath
  | fill
  | showLayout (text : String)
  deriving DecidableEq

/-- The points of the line. -/
def vertices (points : Chart) (width height labelH : ℚ) : List (ℚ × ℚ) :=
  let values := points.map (·.2)
  values.mapIdx (xy values width height labelH)

/-- The line through the points: to the first one it moves. -/
def line : List (ℚ × ℚ) → List DrawCall
  | [] => []
  | first :: rest => .moveTo first.1 first.2 :: rest.map fun point => .lineTo point.1 point.2

/-- `_draw`, where the two labels have the widths and the height that Pango gives them. -/
def draw (points : Chart) (width height labelH lastW : ℚ) : List DrawCall :=
  match points.head?, points.getLast? with
  | some (firstDay, firstWear), some (lastDay, lastWear) =>
      let values := points.map (·.2)
      let bottom := pad + plotH height labelH
      let lastX := (xy values width height labelH (values.length - 1) lastWear).1
      let firstX := (xy values width height labelH 0 firstWear).1
      let labelY := height - pad / 2 - labelH
      line (vertices points width height labelH) ++
        [.strokePreserve, .lineTo lastX bottom, .lineTo firstX bottom, .closePath, .fill,
          .moveTo pad labelY, .showLayout firstDay,
          .moveTo (width - pad - lastW) labelY, .showLayout lastDay]
  | _, _ => []

/-! ### The scale -/

theorem le_greatest {values : List ℚ} {value : ℚ} (member : value ∈ values) :
    value ≤ greatest values := by
  unfold greatest
  cases top : values.max? with
  | none =>
    rw [List.max?_eq_none_iff] at top
    subst top
    cases member
  | some most => exact (List.max?_eq_some_iff.mp top).2 value member

theorem yMax_pos (values : List ℚ) : 0 < yMax values :=
  lt_of_lt_of_le (by norm_num) (le_max_left _ _)

theorem plotH_pos (height labelH : ℚ) : 0 < plotH height labelH :=
  lt_of_lt_of_le (by norm_num) (le_max_left _ _)

/-- The highest wear fills four fifths of the scale. -/
theorem div_yMax_le {values : List ℚ} {value : ℚ} (member : value ∈ values) :
    value / yMax values ≤ 4 / 5 := by
  have top : greatest values * (5 / 4) ≤ yMax values := le_max_right _ _
  have below := le_greatest member
  rw [div_le_iff₀ (yMax_pos values)]
  linarith

section Scale

variable {values : List ℚ} {width height labelH : ℚ}

/-- More wear is drawn higher. -/
theorem xy_snd_lt_iff {index index' : ℕ} {wear wear' : ℚ} :
    (xy values width height labelH index' wear').2 < (xy values width height labelH index wear).2 ↔
      wear < wear' := by
  have scale := yMax_pos values
  have tall := plotH_pos height labelH
  simp only [xy, add_lt_add_iff_left]
  rw [mul_lt_mul_iff_left₀ tall, sub_lt_sub_iff_left, div_lt_div_iff_of_pos_right scale]

/-- What is drawn is between the upper fifth of the plot and its bottom. -/
theorem xy_snd_mem (width height labelH : ℚ) (index : ℕ) {wear : ℚ} (member : wear ∈ values)
    (sound : 0 ≤ wear) :
    pad + plotH height labelH / 5 ≤ (xy values width height labelH index wear).2 ∧
      (xy values width height labelH index wear).2 ≤ pad + plotH height labelH := by
  have tall := (plotH_pos height labelH).le
  have top := div_yMax_le member
  have bottom : 0 ≤ wear / yMax values := div_nonneg sound (yMax_pos values).le
  simp only [xy]
  constructor
  · have fifth : 1 / 5 * plotH height labelH ≤ (1 - wear / yMax values) * plotH height labelH :=
      mul_le_mul_of_nonneg_right (by linarith) tall
    linarith
  · have whole : (1 - wear / yMax values) * plotH height labelH ≤ 1 * plotH height labelH :=
      mul_le_mul_of_nonneg_right (by linarith) tall
    linarith

/-- The place of an index between the two edges. -/
theorem xy_fst_eq (several : 1 < values.length) (index : ℕ) (wear : ℚ) :
    (xy values width height labelH index wear).1 =
      pad + index / (values.length - 1) * plotW width := by
  simp only [xy, if_pos several]

theorem xy_fst_mem (height labelH : ℚ) (wide : 2 * pad < width) {index : ℕ}
    (inside : index < values.length) (wear : ℚ) :
    pad ≤ (xy values width height labelH index wear).1 ∧
      (xy values width height labelH index wear).1 ≤ width - pad := by
  have room : 0 < plotW width := sub_pos.mpr wide
  have right : width - pad = pad + 1 * plotW width := by unfold plotW; ring
  by_cases several : 1 < values.length
  · have most : (1 : ℚ) < values.length := by exact_mod_cast several
    have length : (0 : ℚ) < values.length - 1 := by linarith
    have below : (index : ℚ) ≤ values.length - 1 := by
      have reached : (index : ℚ) + 1 ≤ values.length := by exact_mod_cast inside
      linarith
    have fraction : 0 ≤ (index : ℚ) / (values.length - 1) := by positivity
    have whole : (index : ℚ) / (values.length - 1) ≤ 1 := (div_le_one length).mpr below
    rw [xy_fst_eq several, right]
    exact ⟨le_add_of_nonneg_right (mul_nonneg fraction room.le),
      add_le_add_right (mul_le_mul_of_nonneg_right whole room.le) _⟩
  · -- a single point is in the middle
    simp only [xy, if_neg several]
    constructor <;> linarith

theorem xy_fst_lt (wide : 2 * pad < width) (several : 1 < values.length) {index index' : ℕ}
    (before : index < index') (wear wear' : ℚ) :
    (xy values width height labelH index wear).1 <
      (xy values width height labelH index' wear').1 := by
  have room : 0 < plotW width := sub_pos.mpr wide
  have most : (1 : ℚ) < values.length := by exact_mod_cast several
  have length : (0 : ℚ) < values.length - 1 := by linarith
  have less : (index : ℚ) < index' := by exact_mod_cast before
  rw [xy_fst_eq several, xy_fst_eq several]
  gcongr

end Scale

/-! ### The line -/

section Line

variable {points : Chart} {width height labelH : ℚ}

@[simp] theorem length_vertices :
    (vertices points width height labelH).length = points.length := by
  simp [vertices]

theorem getElem?_vertices (index : ℕ) : (vertices points width height labelH)[index]? =
    points[index]?.map fun point => xy (points.map (·.2)) width height labelH index point.2 := by
  simp only [vertices, List.getElem?_mapIdx, List.getElem?_map, Option.map_map]
  rfl

/-- A point between the edges, and between the upper fifth of the plot and its bottom. -/
structure Inside (width height labelH x y : ℚ) : Prop where
  across : pad ≤ x ∧ x ≤ width - pad
  down : pad + plotH height labelH / 5 ≤ y ∧ y ≤ pad + plotH height labelH

/-- A line of which every point has its place: inside the plot, each day to the right of the
one before it, more wear above less, from the left edge to the right one. The line and the
area below it stay inside. -/
structure ToScale (points : Chart) (width height labelH : ℚ) : Prop where
  inside : ∀ v ∈ vertices points width height labelH, Inside width height labelH v.1 v.2
  area : ∀ lastW x y, .lineTo x y ∈ draw points width height labelH lastW →
    Inside width height labelH x y
  rightwards : ((vertices points width height labelH).map (·.1)).Pairwise (· < ·)
  higher : ∀ (i j : ℕ) (p q : String × ℚ) (v w : ℚ × ℚ), points[i]? = some p → points[j]? = some q →
    (vertices points width height labelH)[i]? = some v →
    (vertices points width height labelH)[j]? = some w → (p.2 < q.2 ↔ w.2 < v.2)
  edges : 1 < points.length →
    (vertices points width height labelH).head?.map (·.1) = some pad ∧
      (vertices points width height labelH).getLast?.map (·.1) = some (width - pad)

/-- Wear that is not negative is drawn inside the plot. -/
theorem vertices_inside (sound : ∀ point ∈ points, 0 ≤ point.2) (wide : 2 * pad < width)
    {v : ℚ × ℚ} (member : v ∈ vertices points width height labelH) :
    Inside width height labelH v.1 v.2 := by
  obtain ⟨i, found⟩ := List.mem_iff_getElem?.mp member
  rw [getElem?_vertices] at found
  obtain ⟨point, at', rfl⟩ := Option.map_eq_some_iff.mp found
  have listed := List.mem_of_getElem? at'
  obtain ⟨below, -⟩ := List.getElem?_eq_some_iff.mp at'
  have inside : i < (points.map (·.2)).length := by simpa using below
  have wears : point.2 ∈ points.map (·.2) := List.mem_map_of_mem listed
  exact ⟨xy_fst_mem height labelH wide inside point.2,
    xy_snd_mem width height labelH i wears (sound point listed)⟩

theorem mem_line {v : List (ℚ × ℚ)} {x y : ℚ} (member : .lineTo x y ∈ line v) : (x, y) ∈ v := by
  cases v with
  | nil => exact absurd member List.not_mem_nil
  | cons first rest =>
    rcases List.mem_cons.mp member with own | later
    · cases own
    · obtain ⟨point, listed, same⟩ := List.mem_map.mp later
      obtain ⟨rfl, rfl⟩ := DrawCall.lineTo.inj same
      exact List.mem_cons_of_mem _ listed

/-- The area ends at the bottom, below the first and the last point. -/
theorem draw_inside (sound : ∀ point ∈ points, 0 ≤ point.2) (wide : 2 * pad < width)
    {lastW x y : ℚ} (member : .lineTo x y ∈ draw points width height labelH lastW) :
    Inside width height labelH x y := by
  have tall := plotH_pos height labelH
  unfold draw at member
  split at member
  case h_2 => exact absurd member List.not_mem_nil
  case h_1 firstDay firstWear lastDay lastWear first last =>
    have filled : 0 < (points.map (·.2)).length := by
      rw [List.length_map]
      exact List.length_pos_of_mem (List.mem_of_getLast? last)
    rcases List.mem_append.mp member with along | below
    · exact vertices_inside sound wide (mem_line along)
    · simp only [List.mem_cons, reduceCtorEq, false_or, DrawCall.lineTo.injEq, List.not_mem_nil,
        or_false] at below
      rcases below with ⟨rfl, rfl⟩ | ⟨rfl, rfl⟩
      · exact ⟨xy_fst_mem height labelH wide (by omega) _, by constructor <;> linarith⟩
      · exact ⟨xy_fst_mem height labelH wide filled _, by constructor <;> linarith⟩

/-- Wear that is not negative is drawn to scale, on every area that is wider than its edges. -/
theorem toScale (sound : ∀ point ∈ points, 0 ≤ point.2) (wide : 2 * pad < width) :
    ToScale points width height labelH where
  inside _ member := vertices_inside sound wide member
  area _ _ _ member := draw_inside sound wide member
  rightwards := by
    rw [List.pairwise_map, List.pairwise_iff_getElem]
    intro i j insideI insideJ before
    have several : 1 < (points.map (·.2)).length := by
      rw [length_vertices] at insideJ
      rw [List.length_map]
      omega
    simp only [vertices, List.getElem_mapIdx]
    exact xy_fst_lt wide several before _ _
  higher i j p q v w atI atJ drawnI drawnJ := by
    rw [getElem?_vertices, atI] at drawnI
    rw [getElem?_vertices, atJ] at drawnJ
    obtain rfl := Option.some.inj drawnI
    obtain rfl := Option.some.inj drawnJ
    exact xy_snd_lt_iff.symm
  edges several := by
    have filled : (1 : ℚ) < (points.map (·.2)).length := by
      rw [List.length_map]
      exact_mod_cast several
    have apart : ((points.map (·.2)).length : ℚ) - 1 ≠ 0 := by linarith
    have last : ((points.length - 1 : ℕ) : ℚ) = (points.map (·.2)).length - 1 := by
      rw [List.length_map]
      push_cast [several.le]
      ring
    have longer : 1 < (points.map (·.2)).length := by rwa [List.length_map]
    constructor
    · rw [List.head?_eq_getElem?, getElem?_vertices, List.getElem?_eq_getElem (by omega)]
      simp only [Option.map_some, xy_fst_eq longer]
      simp
    · rw [List.getLast?_eq_getElem?, length_vertices, getElem?_vertices,
        List.getElem?_eq_getElem (by omega)]
      simp only [Option.map_some, xy_fst_eq longer]
      rw [last, div_self apart, plotW]
      congr 1
      ring

end Line

/-- In every state of the battery page the chart of a card, on an area of any height and of a
width beyond the edges, is drawn to scale, and its days ascend from the first label to the
last. -/
theorem battery_charts_drawn (clock : ℕ → Date) (store : SqliteHistoryStore) (disk : Disk)
    (absent : disk store.path = none) (events : List BatteryEvent) (system : BatterySystem)
    (ran : runFrom (BatterySystem.step clock store) (BatterySystem.opened disk) events =
      some system) :
    ∀ card ∈ system.vm.cards, (card.history.map (·.1)).Pairwise (· < ·) ∧
      ∀ width height labelH : ℚ, 2 * pad < width →
        ToScale card.history width height labelH := by
  intro card member
  obtain ⟨past, call, history, -, -, reference, same⟩ :=
    (BatterySystem.chart_of_run absent ran).2 card member
  rw [same]
  exact ⟨knownWear_ascends reference, fun _ _ _ => toScale (knownWear_nonneg reference)⟩

theorem battery_charts_drawn_new :
    ∃ system, runFrom (BatterySystem.step BatterySystem.overnight ⟨"history.db"⟩)
        (BatterySystem.opened fun _ => none) BatterySystem.twoGathers = some system ∧
      system.vm.cards.length = 1 ∧
      system.recorded.map (·.date) = [BatterySystem.firstOfJuly, BatterySystem.secondOfJuly] ∧
      ∀ card ∈ system.vm.cards, (card.history.map (·.1)).Pairwise (· < ·) ∧
        ∀ width height labelH : ℚ, 2 * pad < width →
          ToScale card.history width height labelH :=
  ⟨_, rfl, rfl, rfl, battery_charts_drawn BatterySystem.overnight ⟨"history.db"⟩ (fun _ => none) rfl
    BatterySystem.twoGathers _ rfl⟩

end WearChart

end Lapcare.Pages
