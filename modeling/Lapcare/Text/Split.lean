import Mathlib.Data.List.Basic

/-!
# Splitting at a separator

`sep in text` and `text.split(sep, maxsplit)` for a separator of several characters, found
from the left.

## Main results

* `cut_append` — a field without the separator's first character ends at the separator
* `splitMax_append` — the same for a split
-/

namespace Text

variable {α : Type} [DecidableEq α]

/-- What stands before and after the first occurrence of the separator. -/
def cut (sep : List α) : List α → Option (List α × List α)
  | [] => none
  | c :: rest =>
      if sep <+: c :: rest then some ([], (c :: rest).drop sep.length)
      else (cut sep rest).map fun parts => (c :: parts.1, parts.2)

/-- `text.split(sep, maxsplit)`. -/
def splitMax (sep : List α) : ℕ → List α → List (List α)
  | 0, text => [text]
  | maxsplit + 1, text =>
      match cut sep text with
      | none => [text]
      | some (field, rest) => field :: splitMax sep maxsplit rest

example : splitMax ": ".toList 2 "a: b:c: d: e".toList =
    ["a".toList, "b:c".toList, "d: e".toList] := by decide

section Cut

variable {c : α} {sep field : List α}

theorem cut_append (fresh : c ∉ field) (rest : List α) :
    cut (c :: sep) (field ++ (c :: sep ++ rest)) = some (field, rest) := by
  induction field with
  | nil =>
    have opens : c :: sep <+: c :: (sep ++ rest) := List.prefix_append (c :: sep) rest
    have dropped : (c :: (sep ++ rest)).drop (c :: sep).length = rest := List.drop_left
    rw [List.nil_append, List.cons_append, cut, if_pos opens, dropped]
  | cons d field ih =>
    have other : c ≠ d := fun same => fresh (same ▸ List.mem_cons_self)
    have later : ¬ c :: sep <+: d :: (field ++ (c :: sep ++ rest)) := by
      rw [List.cons_prefix_cons]
      exact fun opens => other opens.1
    rw [List.cons_append, cut, if_neg later, ih fun member => fresh (List.mem_cons_of_mem d member)]
    rfl

theorem cut_eq_none {text : List α} (fresh : c ∉ text) : cut (c :: sep) text = none := by
  induction text with
  | nil => rfl
  | cons d text ih =>
    have other : c ≠ d := fun same => fresh (same ▸ List.mem_cons_self)
    have later : ¬ c :: sep <+: d :: text := by
      rw [List.cons_prefix_cons]
      exact fun opens => other opens.1
    rw [cut, if_neg later, ih fun member => fresh (List.mem_cons_of_mem d member)]
    rfl

/-- What is cut at a separator is the field, the separator and what follows it. -/
theorem cut_eq_some {sep text field rest : List α} (found : cut sep text = some (field, rest)) :
    text = field ++ (sep ++ rest) := by
  induction text generalizing field with
  | nil => exact nomatch found
  | cons c text ih =>
    rw [cut] at found
    split_ifs at found with here
    · obtain ⟨behind, whole⟩ := here
      rw [← whole, List.drop_left] at found
      cases found
      exact whole.symm
    · obtain ⟨parts, later, same⟩ := Option.map_eq_some_iff.mp found
      cases same
      rw [ih later, List.cons_append]

theorem splitMax_append (fresh : c ∉ field) (maxsplit : ℕ) (rest : List α) :
    splitMax (c :: sep) (maxsplit + 1) (field ++ (c :: sep ++ rest)) =
      field :: splitMax (c :: sep) maxsplit rest := by
  rw [splitMax, cut_append fresh]

theorem splitMax_eq_singleton {text : List α} (fresh : c ∉ text) (maxsplit : ℕ) :
    splitMax (c :: sep) maxsplit text = [text] := by
  cases maxsplit with
  | zero => rfl
  | succ maxsplit => rw [splitMax, cut_eq_none fresh]

end Cut

/-- There is always a first field. -/
theorem splitMax_ne_nil (sep : List α) (maxsplit : ℕ) (text : List α) :
    splitMax sep maxsplit text ≠ [] := by
  cases maxsplit with
  | zero => exact List.cons_ne_nil _ _
  | succ maxsplit =>
    rw [splitMax]
    cases cut sep text with
    | none => exact List.cons_ne_nil _ _
    | some parts => exact List.cons_ne_nil _ _

end Text
