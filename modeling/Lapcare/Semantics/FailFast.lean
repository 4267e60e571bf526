import Mathlib.Data.List.Basic
import Mathlib.Data.List.ReduceOption

/-!
# Loops that stop at the first failure

`List.mapM` in `Except` is a loop that one failure ends. It succeeds exactly when every
turn does, and then it is `List.map`. A loop with a state, `List.foldlM`, goes through the states
of `List.foldl` as long as its turns succeed.
-/

namespace Semantics

variable {ε α β σ : Type}

/-- A loop whose turns do what a pure turn does, if they succeed, succeeds exactly if every turn
does in the state that the turns before it lead to. -/
theorem exists_foldlM_ok_iff {step : σ → α → Except ε σ} {turn : σ → α → σ}
    (pure : ∀ s x s', step s x = .ok s' → s' = turn s x) {xs : List α} {s : σ} :
    (∃ s', xs.foldlM step s = .ok s') ↔
      ∀ before x after, xs = before ++ x :: after →
        ∃ s', step (before.foldl turn s) x = .ok s' := by
  induction xs generalizing s with
  | nil => exact iff_of_true ⟨s, rfl⟩ fun before x after same => by simp at same
  | cons x xs ih =>
    rw [List.foldlM_cons]
    rcases head : step s x with e | later
    · refine iff_of_false (fun ⟨_, done⟩ => nomatch done) fun each => ?_
      obtain ⟨s', first⟩ := each [] x xs rfl
      exact nomatch head.symm.trans first
    · obtain rfl := pure s x later head
      refine ih.trans ⟨fun rest before y after same => ?_, fun each => ?_⟩
      · rcases before with _ | ⟨first, before⟩
        · obtain ⟨rfl, rfl⟩ := List.cons.inj same
          exact ⟨_, head⟩
        · obtain ⟨rfl, behind⟩ := List.cons.inj same
          exact rest before y after behind
      · intro before y after same
        exact each (x :: before) y after (congrArg (x :: ·) same)

theorem mapM_eq_map {f : α → Except ε β} {g : α → β} {xs : List α}
    (each : ∀ x ∈ xs, f x = .ok (g x)) : xs.mapM f = .ok (xs.map g) := by
  induction xs with
  | nil => rfl
  | cons x xs ih =>
    have rest := ih fun y member => each y (List.mem_cons_of_mem x member)
    rw [List.mapM_cons, each x List.mem_cons_self, rest]
    rfl

/-- What raises is one of the turns. -/
theorem mapM_error {f : α → Except ε β} {xs : List α} {e : ε}
    (raised : xs.mapM f = .error e) : ∃ x ∈ xs, f x = .error e := by
  induction xs with
  | nil => exact nomatch raised
  | cons x xs ih =>
    rw [List.mapM_cons] at raised
    rcases head : f x with e' | y
    · rw [head] at raised
      obtain rfl : e' = e := Except.error.inj raised
      exact ⟨x, List.mem_cons_self, head⟩
    · rcases tail : xs.mapM f with e' | ys
      · rw [head, tail] at raised
        obtain rfl : e' = e := Except.error.inj raised
        obtain ⟨z, member, failed⟩ := ih tail
        exact ⟨z, List.mem_cons_of_mem x member, failed⟩
      · rw [head, tail] at raised
        exact nomatch raised

/-- A loop that succeeds gave every turn a value. -/
theorem mapM_ok_mem {f : α → Except ε β} {xs : List α} {ys : List β}
    (done : xs.mapM f = .ok ys) : ∀ x ∈ xs, ∃ y, f x = .ok y := by
  induction xs generalizing ys with
  | nil => exact fun _ member => nomatch member
  | cons x xs ih =>
    rw [List.mapM_cons] at done
    rcases head : f x with e | y
    · rw [head] at done
      exact nomatch done
    · rcases tail : xs.mapM f with e | rest
      · rw [head, tail] at done
        exact nomatch done
      · intro z member
        rcases List.mem_cons.mp member with rfl | member
        · exact ⟨y, head⟩
        · exact ih tail z member

/-- One failure ends the loop. -/
theorem mapM_raises {f : α → Except ε β} {xs : List α} {x : α} {e : ε} (member : x ∈ xs)
    (failed : f x = .error e) : ∃ e', xs.mapM f = .error e' := by
  rcases outcome : xs.mapM f with e' | ys
  · exact ⟨e', rfl⟩
  · obtain ⟨y, succeeded⟩ := mapM_ok_mem outcome x member
    rw [failed] at succeeded
    exact nomatch succeeded

/-- A loop fails exactly if one of its turns does. -/
theorem mapM_error_iff {f : α → Except ε β} {xs : List α} :
    (∃ e, xs.mapM f = .error e) ↔ ∃ x ∈ xs, ∃ e, f x = .error e := by
  constructor
  · rintro ⟨e, raised⟩
    obtain ⟨x, member, failed⟩ := mapM_error raised
    exact ⟨x, member, e, failed⟩
  · rintro ⟨x, member, e, failed⟩
    exact mapM_raises member failed

/-- What a loop that succeeds returns. -/
theorem mem_mapM_ok_iff {f : α → Except ε β} {xs : List α} {ys : List β}
    (done : xs.mapM f = .ok ys) {y : β} : y ∈ ys ↔ ∃ x ∈ xs, f x = .ok y := by
  induction xs generalizing ys with
  | nil =>
    obtain rfl := Except.ok.inj done
    simp
  | cons x xs ih =>
    rw [List.mapM_cons] at done
    rcases head : f x with e | first
    · rw [head] at done
      exact nomatch done
    · rcases tail : xs.mapM f with e | rest
      · rw [head, tail] at done
        exact nomatch done
      · rw [head, tail] at done
        obtain rfl := Except.ok.inj done
        rw [List.mem_cons, ih tail, List.exists_mem_cons_iff, head, Except.ok.injEq, eq_comm]

/-- A loop succeeds exactly if every turn does. -/
theorem exists_mapM_ok_iff {f : α → Except ε β} {xs : List α} :
    (∃ ys, xs.mapM f = .ok ys) ↔ ∀ x ∈ xs, ∃ y, f x = .ok y := by
  constructor
  · rintro ⟨ys, done⟩
    exact mapM_ok_mem done
  · intro each
    rcases outcome : xs.mapM f with e | ys
    · obtain ⟨x, member, failed⟩ := mapM_error outcome
      obtain ⟨y, succeeded⟩ := each x member
      rw [failed] at succeeded
      exact nomatch succeeded
    · exact ⟨ys, rfl⟩

/-- A loop returns something of a kind exactly if every turn succeeds and some turn returns it. -/
theorem exists_mem_mapM_ok_iff {f : α → Except ε β} {xs : List α} {p : β → Prop} :
    (∃ ys, xs.mapM f = .ok ys ∧ ∃ y ∈ ys, p y) ↔
      (∀ x ∈ xs, ∃ y, f x = .ok y) ∧ ∃ x ∈ xs, ∃ y, f x = .ok y ∧ p y := by
  constructor
  · rintro ⟨ys, done, y, member, holds⟩
    obtain ⟨x, here, made⟩ := (mem_mapM_ok_iff done).mp member
    exact ⟨mapM_ok_mem done, x, here, y, made, holds⟩
  · rintro ⟨each, x, here, y, made, holds⟩
    obtain ⟨ys, done⟩ := exists_mapM_ok_iff.mpr each
    exact ⟨ys, done, y, (mem_mapM_ok_iff done).mpr ⟨x, here, made⟩, holds⟩

/-- The same of a loop whose turns return lists, all of which are kept. -/
theorem exists_mem_flatten_mapM_iff {f : α → Except ε (List β)} {xs : List α} {q : Prop}
    {p : β → Prop} :
    (∃ ys, (xs.mapM f).map List.flatten = .ok ys ∧ (q ∨ ∃ y ∈ ys, p y)) ↔
      (∀ x ∈ xs, ∃ ys, f x = .ok ys) ∧ (q ∨ ∃ x ∈ xs, ∃ ys, f x = .ok ys ∧ ∃ y ∈ ys, p y) := by
  constructor
  · rintro ⟨ys, done, reached⟩
    rcases outcome : xs.mapM f with e | lists
    · rw [outcome] at done
      exact nomatch done
    · rw [outcome] at done
      obtain rfl := Except.ok.inj done
      refine ⟨mapM_ok_mem outcome, reached.imp_right ?_⟩
      rintro ⟨y, member, holds⟩
      obtain ⟨list, inner, here⟩ := List.mem_flatten.mp member
      obtain ⟨x, own, made⟩ := (mem_mapM_ok_iff outcome).mp inner
      exact ⟨x, own, list, made, y, here, holds⟩
  · rintro ⟨each, reached⟩
    obtain ⟨lists, done⟩ := exists_mapM_ok_iff.mpr each
    refine ⟨lists.flatten, by rw [done]; rfl, reached.imp_right ?_⟩
    rintro ⟨x, own, list, made, y, here, holds⟩
    exact ⟨y, List.mem_flatten.mpr ⟨list, (mem_mapM_ok_iff done).mpr ⟨x, own, made⟩, here⟩, holds⟩

/-- Turns that pass their item over can be left out of a loop. -/
theorem mapM_filter_of_passed {f : α → Except ε (Option β)} {p : α → Bool} {xs : List α}
    (passed : ∀ x ∈ xs, p x = false → f x = .ok none) :
    (xs.mapM f).map List.reduceOption = ((xs.filter p).mapM f).map List.reduceOption := by
  induction xs with
  | nil => rfl
  | cons x xs ih =>
    have rest := ih fun y member => passed y (List.mem_cons_of_mem x member)
    rw [List.mapM_cons]
    cases kept : p x with
    | false =>
      rw [List.filter_cons_of_neg (by simp [kept]), passed x List.mem_cons_self kept, ← rest]
      rcases xs.mapM f with e | ys <;> rfl
    | true =>
      rw [List.filter_cons_of_pos kept, List.mapM_cons]
      rcases f x with e | y
      · rfl
      · -- the rest is kept behind the same first result
        have longer (outcome : Except ε (List (Option β))) :
            (outcome >>= fun ys => pure (y :: ys)).map List.reduceOption =
              (outcome.map List.reduceOption).map (y.toList ++ ·) := by
          rcases outcome with e | ys
          · rfl
          · cases y <;> rfl
        exact (longer _).trans ((congrArg _ rest).trans (longer _).symm)

/-- What is made of every item, if no item is passed over. -/
theorem filterMap_eq_map_iff {f : α → Option β} {g : α → β} {xs : List α} :
    xs.filterMap f = xs.map g ↔ ∀ x ∈ xs, f x = some (g x) := by
  induction xs with
  | nil => simp
  | cons x xs ih =>
    rw [List.forall_mem_cons, List.map_cons]
    cases made : f x with
    | none =>
      rw [List.filterMap_cons_none made]
      -- an item that is passed over makes the result too short
      refine ⟨fun same => ?_, fun both => nomatch both.1⟩
      have short := List.length_filterMap_le f xs
      rw [same, List.length_cons, List.length_map] at short
      omega
    | some y => rw [List.filterMap_cons_some made, ← ih, List.cons.injEq, Option.some.injEq]

end Semantics
