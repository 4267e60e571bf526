import Mathlib.Data.List.Basic

/-!
# Futures with callbacks

A future is not done and keeps what is to be called when it is, or it is done and keeps
nothing. Whoever adds a callback to one that is done has to call it.

## Main results

* `eraseIdx_of_getElem?` — taking one item out of a queue, at any position
* `filter_eraseIdx_of_neg`, `filter_eraseIdx_of_singleton` — what that does to the items of
  a kind
-/

namespace Semantics

structure Future (ω κ : Type) where
  outcome : Option ω := none
  callbacks : List κ := []

namespace Future

variable {ω κ : Type}

/-- `add_done_callback`, and what has to be called now. -/
def addDoneCallback (future : Future ω κ) (callback : κ) : Future ω κ × List κ :=
  match future.outcome with
  | some _ => (future, [callback])
  | none => ({ future with callbacks := future.callbacks ++ [callback] }, [])

/-- The future becomes done, once, and its callbacks are due. -/
def finish (future : Future ω κ) (outcome : ω) : Option (Future ω κ × List κ) :=
  match future.outcome with
  | some _ => none
  | none => some ({ outcome := some outcome, callbacks := [] }, future.callbacks)

theorem finish_eq_some_iff {future later : Future ω κ} {outcome : ω} {due : List κ} :
    future.finish outcome = some (later, due) ↔
      future.outcome = none ∧ later = { outcome := some outcome, callbacks := [] } ∧
        due = future.callbacks := by
  unfold finish
  cases future.outcome with
  | some earlier => simp
  | none => simp [eq_comm]

end Future

/-! ### Queues -/

section Queue

variable {α : Type} {queue : List α} {position : ℕ} {item : α}

/-- Taking an item out of a queue, wherever it stands. -/
theorem eraseIdx_of_getElem? (found : queue[position]? = some item) :
    ∃ before after, queue = before ++ item :: after ∧
      queue.eraseIdx position = before ++ after := by
  obtain ⟨bound, same⟩ := List.getElem?_eq_some_iff.1 found
  refine ⟨queue.take position, queue.drop (position + 1), ?_, ?_⟩
  · rw [← same, List.getElem_cons_drop, List.take_append_drop]
  · exact List.eraseIdx_eq_take_drop_succ queue position

variable {kind : α → Bool}

theorem filter_eraseIdx_of_neg (found : queue[position]? = some item)
    (other : kind item = false) :
    (queue.eraseIdx position).filter kind = queue.filter kind := by
  obtain ⟨before, after, rfl, erased⟩ := eraseIdx_of_getElem? found
  simp [erased, other]

theorem filter_eraseIdx_of_singleton (found : queue[position]? = some item)
    (own : kind item = true) {only : α} (alone : queue.filter kind = [only]) :
    item = only ∧ (queue.eraseIdx position).filter kind = [] := by
  obtain ⟨before, after, rfl, erased⟩ := eraseIdx_of_getElem? found
  rw [List.filter_append, List.filter_cons_of_pos own] at alone
  rw [erased, List.filter_append]
  cases front : before.filter kind with
  | nil =>
    rw [front, List.nil_append, List.cons.injEq] at alone
    rw [alone.2]
    exact ⟨alone.1, rfl⟩
  | cons first rest =>
    rw [front] at alone
    simp at alone

end Queue

end Semantics
