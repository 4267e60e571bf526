import Mathlib.Data.List.Sort
import Mathlib.Order.Defs.LinearOrder

/-!
# Sorting by a key

A stable sort of items by a key: the items are the same, their keys ascend, and items of one
key stay in their order.

## Main results

* `isSortedOn_sortedOn` — a sorted list has the three properties
* `sortedOn_map` — items that are shown in another way, with the same key
-/

namespace Semantics

section SortedOn

variable {α κ : Type} [LinearOrder κ]

/-- The order of the keys, as the sort asks for it. -/
def keyLe (key : α → κ) (item other : α) : Bool :=
  decide (key item ≤ key other)

/-- A stable sort by a key. -/
def sortedOn (key : α → κ) (items : List α) : List α :=
  items.mergeSort (keyLe key)

/-- What a stable sort by a key makes of items. -/
structure IsSortedOn (key : α → κ) (items result : List α) : Prop where
  same : result.Perm items
  ascends : (result.map key).Pairwise (· ≤ ·)
  stable : ∀ k, result.filter (key · = k) = items.filter (key · = k)

theorem keyLe_trans (key : α → κ) (a b c : α) (first : keyLe key a b = true)
    (second : keyLe key b c = true) : keyLe key a c = true := by
  simp only [keyLe, decide_eq_true_eq] at *
  exact first.trans second

theorem keyLe_total (key : α → κ) (a b : α) : (keyLe key a b || keyLe key b a) = true := by
  simpa [keyLe] using le_total (key a) (key b)

/-- The items of one key are in order from the start, so the sort leaves their order alone. -/
theorem filter_sortedOn (key : α → κ) (items : List α) (k : κ) :
    (sortedOn key items).filter (key · = k) = items.filter (key · = k) := by
  have inOrder : (items.filter (key · = k)).Pairwise fun a b => keyLe key a b = true := by
    refine List.pairwise_of_forall_mem_list fun a member b member' => ?_
    have here : key a = k := by simpa using (List.mem_filter.mp member).2
    have there : key b = k := by simpa using (List.mem_filter.mp member').2
    simp [keyLe, here, there]
  have within : (items.filter (key · = k)).Sublist (sortedOn key items) :=
    List.sublist_mergeSort (keyLe_trans key) (keyLe_total key) inOrder (List.filter_sublist ..)
  have kept := within.filter (key · = k)
  rw [List.filter_filter] at kept
  simp only [Bool.and_self] at kept
  exact (kept.eq_of_length ((List.mergeSort_perm items _).filter _).length_eq.symm).symm

theorem isSortedOn_sortedOn (key : α → κ) (items : List α) :
    IsSortedOn key items (sortedOn key items) where
  same := List.mergeSort_perm ..
  ascends := by
    have ordered := List.pairwise_mergeSort (keyLe_trans key) (keyLe_total key) items
    rw [List.pairwise_map]
    simpa [sortedOn, keyLe] using ordered
  stable := filter_sortedOn key items

/-- Items that are shown in another way, with the same key, are sorted alike. -/
theorem sortedOn_map {β : Type} {key : α → κ} {shown : α → β} {key' : β → κ}
    (same : ∀ item, key' (shown item) = key item) (items : List α) :
    sortedOn key' (items.map shown) = (sortedOn key items).map shown := by
  refine (List.map_mergeSort fun a _ b _ => ?_).symm
  simp only [keyLe, same]

end SortedOn

end Semantics
