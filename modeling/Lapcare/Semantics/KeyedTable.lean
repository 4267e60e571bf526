import Mathlib.Data.List.Induction
import Mathlib.Data.List.Sort

/-!
# Tables with a primary key

What SQL says of a table with a primary key: `INSERT OR REPLACE`, and a query of the rows
that a condition admits, from the greatest of a column downwards and no more than a limit.
The order of the rows is none of a table's contents.

## Main results

* `mem_foldl_insertOrReplace_iff` — a table holds the last row of each key
* `insertOrReplace_self`, `insertOrReplace_comm` — the same row again, and two rows
* `map_reverse_selectDesc` — a limited query, read backwards, ends an ascending list
-/

namespace Semantics

/-- Rows of which no two have the same key. -/
@[ext] structure Table {ρ κ : Type} (key : ρ → κ) where
  rows : List ρ
  unique : (rows.map key).Nodup

namespace Table

variable {ρ κ : Type} [DecidableEq κ] {key : ρ → κ}

def empty : Table key where
  rows := []
  unique := List.nodup_nil

/-- The rows with other keys, and the new row. -/
def replaced (key : ρ → κ) (rows : List ρ) (row : ρ) : List ρ :=
  rows.filter (key · ≠ key row) ++ [row]

theorem mem_replaced_iff {rows : List ρ} {row other : ρ} :
    other ∈ replaced key rows row ↔ other = row ∨ other ∈ rows ∧ key other ≠ key row := by
  simp [replaced, or_comm]

theorem replaced_unique {rows : List ρ} (unique : (rows.map key).Nodup) (row : ρ) :
    ((replaced key rows row).map key).Nodup := by
  rw [replaced, List.map_append, List.nodup_append]
  refine ⟨unique.sublist (List.filter_sublist.map key), List.nodup_singleton _, ?_⟩
  intro first member second own
  obtain ⟨other, kept, rfl⟩ := List.mem_map.1 member
  obtain rfl := List.mem_singleton.1 own
  simpa using (List.mem_filter.1 kept).2

/-- `INSERT OR REPLACE`. -/
def insertOrReplace (table : Table key) (row : ρ) : Table key where
  rows := replaced key table.rows row
  unique := replaced_unique table.unique row

/-- The same row again changes nothing. -/
theorem insertOrReplace_self (table : Table key) (row : ρ) :
    (table.insertOrReplace row).insertOrReplace row = table.insertOrReplace row := by
  ext1
  simp [insertOrReplace, replaced, List.filter_append, List.filter_filter]

/-- Rows with different keys can be inserted in either order. -/
theorem insertOrReplace_comm (table : Table key) {row row' : ρ} (apart : key row ≠ key row') :
    ((table.insertOrReplace row).insertOrReplace row').rows.Perm
      ((table.insertOrReplace row').insertOrReplace row).rows := by
  have both (first second : ρ) (apart : key first ≠ key second) :
      ((table.insertOrReplace first).insertOrReplace second).rows =
        table.rows.filter (fun other =>
          !decide (key other = key second) && !decide (key other = key first)) ++
          [first, second] := by
    simp [insertOrReplace, replaced, List.filter_append, List.filter_filter, apart]
  -- what is left of the table is the same, and the two rows swap
  have same : table.rows.filter (fun other =>
        !decide (key other = key row') && !decide (key other = key row)) =
      table.rows.filter (fun other =>
        !decide (key other = key row) && !decide (key other = key row')) := by
    simp only [Bool.and_comm]
  rw [both row row' apart, both row' row apart.symm, same]
  exact List.Perm.append_left _ (List.Perm.swap row' row [])

/-- Of each key the table holds the row that was inserted last. By induction on the
insertions, the last one first. -/
theorem mem_foldl_insertOrReplace_iff (log : List ρ) (row : ρ) :
    row ∈ (log.foldl insertOrReplace (empty : Table key)).rows ↔
      log.reverse.find? (key · = key row) = some row := by
  induction log using List.reverseRecOn with
  | nil => simp [empty]
  | append_singleton log last ih =>
    rw [List.foldl_append, List.reverse_append, List.reverse_singleton, List.singleton_append]
    change row ∈ replaced key _ last ↔ _
    rw [mem_replaced_iff, ih]
    -- the last row hides every earlier one of its key
    by_cases same : key last = key row
    · rw [List.find?_cons_of_pos (by simpa using same)]
      simp [same, eq_comm]
    · have different : row ≠ last := by
        rintro rfl
        exact same rfl
      rw [List.find?_cons_of_neg (by simpa using same)]
      simp [different, Ne.symm same]

end Table

/-! ### Queries -/

namespace Table

variable {ρ κ σ : Type} {key : ρ → κ} [LinearOrder σ]

/-- `SELECT … WHERE … ORDER BY column DESC`. -/
def descending (table : Table key) (admits : ρ → Bool) (column : ρ → σ) : List ρ :=
  (table.rows.filter admits).mergeSort fun row other => decide (column other ≤ column row)

/-- `SELECT … WHERE … ORDER BY column DESC LIMIT limit`. -/
def selectDesc (table : Table key) (admits : ρ → Bool) (column : ρ → σ) (limit : ℕ) : List ρ :=
  (table.descending admits column).take limit

variable {table : Table key} {admits : ρ → Bool} {column : ρ → σ}

theorem mem_descending_iff {row : ρ} :
    row ∈ table.descending admits column ↔ row ∈ table.rows ∧ admits row = true := by
  rw [descending, List.mem_mergeSort, List.mem_filter]

theorem mem_of_mem_selectDesc {limit : ℕ} {row : ρ}
    (member : row ∈ table.selectDesc admits column limit) :
    row ∈ table.rows ∧ admits row = true :=
  mem_descending_iff.1 (List.mem_of_mem_take member)

variable (once : ((table.rows.filter admits).map column).Nodup)

include once

/-- Read backwards, the admitted rows ascend. -/
theorem descending_reverse_ascends :
    ((table.descending admits column).reverse.map column).Pairwise (· < ·) := by
  have sorted : (table.descending admits column).Pairwise
      fun row other => column other ≤ column row := by
    have le := @List.pairwise_mergeSort _ (fun row other => decide (column other ≤ column row))
      (by intro a b c first second; simp only [decide_eq_true_eq] at *; exact second.trans first)
      (by intro a b; simpa using le_total _ _) (table.rows.filter admits)
    simpa [descending] using le
  have distinct : (table.descending admits column).Pairwise
      fun row other => column row ≠ column other :=
    List.pairwise_map.1 ((((List.mergeSort_perm _ _).map column).nodup_iff).2 once)
  rw [List.map_reverse, List.pairwise_reverse, List.pairwise_map]
  refine (sorted.and distinct).imp ?_
  intro first second both
  exact lt_of_le_of_ne both.1 both.2.symm

/-- The columns of a limited query, read backwards, are the end of the ascending list of
all admitted ones. -/
theorem map_reverse_selectDesc {values : List σ} (ascend : values.Pairwise (· < ·))
    (same : ∀ value, value ∈ values ↔
      ∃ row ∈ table.rows, admits row = true ∧ column row = value) (limit : ℕ) :
    (table.selectDesc admits column limit).reverse.map column =
      values.drop (values.length - limit) := by
  -- both lists ascend and have the same members
  have whole : (table.descending admits column).reverse.map column = values := by
    have ascends := descending_reverse_ascends once
    have perm : ((table.descending admits column).reverse.map column).Perm values := by
      apply (List.perm_ext_iff_of_nodup (ascends.imp ne_of_lt) (ascend.imp ne_of_lt)).2
      intro value
      rw [same]
      simp only [List.mem_map, List.mem_reverse, mem_descending_iff, and_assoc]
    exact perm.eq_of_pairwise' (ascends.imp le_of_lt) (ascend.imp le_of_lt)
  have length : values.length = (table.descending admits column).length := by
    rw [← whole, List.length_map, List.length_reverse]
  rw [selectDesc, List.reverse_take, List.map_drop, whole, length]

end Table

end Semantics
