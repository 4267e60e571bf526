import Mathlib.Data.List.Basic
import Mathlib.Data.List.DropRight
import Mathlib.Data.List.Induction

/-!
# Where a word can occur

Occurrences of a word in a text that is put together from pieces. A word of a set of letters
never reaches beyond another character, so a piece between such characters either has the
whole word or nothing of it, and a piece with no long run of letters cannot have a long word.

## Main results

* `infix_append_cons_iff` — a word stands before another character or behind it
* `LongWord.fence_iff` — a fence of fixed text adds no occurrence
* `LongWord.flatMap_iff` — escaping what is no letter moves no occurrence
-/

namespace Text

section Occurrences

variable {α : Type} {letter : α → Bool}

theorem prefix_append_cons_iff {word : List α} (letters : ∀ d ∈ word, letter d = true) {c : α}
    (other : letter c = false) (front rest : List α) :
    word <+: front ++ c :: rest ↔ word <+: front := by
  induction front generalizing word with
  | nil =>
    cases word with
    | nil => simp
    | cons d word =>
      have apart : d ≠ c := by
        rintro rfl
        exact absurd (letters d List.mem_cons_self) (by simp [other])
      simp [apart]
  | cons first front ih =>
    cases word with
    | nil => simp
    | cons d word =>
      rw [List.cons_append, List.cons_prefix_cons, List.cons_prefix_cons,
        ih fun d member => letters d (List.mem_cons_of_mem _ member)]

/-- A word stands before a character that is no letter, or behind it. -/
theorem infix_append_cons_iff {word : List α} (letters : ∀ d ∈ word, letter d = true) {c : α}
    (other : letter c = false) (front rest : List α) :
    word <:+: front ++ c :: rest ↔ word <:+: front ∨ word <:+: rest := by
  induction front with
  | nil =>
    have start := prefix_append_cons_iff letters other [] rest
    rw [List.nil_append] at start
    rw [List.nil_append, List.infix_cons_iff, start, List.prefix_nil, List.infix_nil]
  | cons first front ih =>
    have start := prefix_append_cons_iff letters other (first :: front) rest
    rw [List.cons_append] at start
    rw [List.cons_append, List.infix_cons_iff, start, ih, List.infix_cons_iff, or_assoc]

theorem infix_cons_other_iff {word : List α} (letters : ∀ d ∈ word, letter d = true) {c : α}
    (other : letter c = false) (rest : List α) : word <:+: c :: rest ↔ word <:+: rest := by
  have behind := infix_append_cons_iff letters other [] rest
  rw [List.nil_append, List.infix_nil] at behind
  rw [behind]
  exact or_iff_right_of_imp fun empty => empty ▸ List.nil_infix

theorem infix_concat_other_iff {word : List α} (letters : ∀ d ∈ word, letter d = true) {c : α}
    (other : letter c = false) (front : List α) : word <:+: front ++ [c] ↔ word <:+: front := by
  rw [infix_append_cons_iff letters other front [], List.infix_nil]
  exact or_iff_left_of_imp fun empty => empty ▸ List.nil_infix

/-! ### Texts without long runs -/

variable (letter) in
/-- Every run of letters is shorter than `n`, where `run` letters stand before the text. -/
def brief (n : ℕ) : ℕ → List α → Bool
  | _, [] => true
  | run, c :: rest =>
      if letter c then run + 1 < n && brief n (run + 1) rest else brief n 0 rest

theorem brief_cons_of_letter {n run : ℕ} {c : α} (here : letter c = true) {rest : List α}
    (short : brief letter n run (c :: rest) = true) :
    run + 1 < n ∧ brief letter n (run + 1) rest = true := by
  simpa [brief, here] using short

theorem brief_cons_of_other {n run : ℕ} {c : α} (other : letter c = false) (rest : List α) :
    brief letter n run (c :: rest) = brief letter n 0 rest := by
  simp [brief, other]

theorem length_of_prefix_brief {n run : ℕ} {word text : List α}
    (letters : ∀ d ∈ word, letter d = true) (room : run < n)
    (short : brief letter n run text = true) (start : word <+: text) : run + word.length < n := by
  induction text generalizing word run with
  | nil =>
    rw [List.prefix_nil.1 start]
    exact room
  | cons c text ih =>
    cases word with
    | nil => exact room
    | cons d word =>
      obtain ⟨rfl, onward⟩ := List.cons_prefix_cons.1 start
      obtain ⟨room, short⟩ := brief_cons_of_letter (letters d List.mem_cons_self) short
      have bound := ih (fun e member => letters e (List.mem_cons_of_mem _ member)) room short onward
      rw [List.length_cons]
      omega

theorem length_of_infix_brief {n run : ℕ} {word text : List α}
    (letters : ∀ d ∈ word, letter d = true) (room : run < n)
    (short : brief letter n run text = true) (within : word <:+: text) : word.length < n := by
  induction text generalizing run with
  | nil =>
    rw [List.infix_nil.1 within]
    exact Nat.zero_lt_of_lt room
  | cons c text ih =>
    rcases List.infix_cons_iff.1 within with start | later
    · have := length_of_prefix_brief letters room short start
      omega
    · by_cases here : letter c = true
      · obtain ⟨room, short⟩ := brief_cons_of_letter here short
        exact ih room short later
      · rw [Bool.not_eq_true] at here
        rw [brief_cons_of_other here] at short
        exact ih (Nat.zero_lt_of_lt room) short later

/-! ### Fences -/

variable (letter) in
/-- A text that no run of letters enters or leaves, without a long run of its own. -/
def fence (n : ℕ) (text : List α) : Bool :=
  brief letter n 0 text && text.head?.any (!letter ·) && text.getLast?.any (!letter ·)

variable (letter) in
/-- A text that no run of letters leaves at its end, without a long run of its own. -/
def opening (n : ℕ) (text : List α) : Bool :=
  brief letter n 0 text && text.getLast?.all (!letter ·)

/-- A text without any letter is a fence. -/
theorem fence_of_others {n : ℕ} {text : List α} (filled : text ≠ [])
    (others : ∀ c ∈ text, letter c = false) : fence letter n text = true := by
  have short (run : ℕ) (text : List α) (others : ∀ c ∈ text, letter c = false) :
      brief letter n run text = true := by
    induction text generalizing run with
    | nil => rfl
    | cons c text ih =>
      rw [List.forall_mem_cons] at others
      rw [brief_cons_of_other others.1]
      exact ih 0 others.2
  have first := others _ (List.head_mem filled)
  have last := others _ (List.getLast_mem filled)
  simp [fence, short 0 text others, List.head?_eq_some_head filled,
    List.getLast?_eq_some_getLast filled, first, last]

variable (letter) in
/-- A word of at least `n` letters. -/
structure LongWord (n : ℕ) (word : List α) : Prop where
  letters : ∀ c ∈ word, letter c = true
  long : n ≤ word.length
  some : 0 < n

namespace LongWord

variable {n : ℕ} {word : List α} (long : LongWord letter n word)

include long

theorem ne_nil : word ≠ [] := by
  rintro rfl
  exact absurd (Nat.lt_of_lt_of_le long.some long.long) (by simp)

theorem not_infix_of_brief {text : List α} (short : brief letter n 0 text = true) :
    ¬ word <:+: text := by
  intro within
  have := length_of_infix_brief long.letters long.some short within
  have := long.long
  omega

theorem not_infix_of_short {text : List α} (short : text.length < n) : ¬ word <:+: text := by
  intro within
  have := within.length_le
  have := long.long
  omega

theorem opening_iff {text : List α} (opens : opening letter n text = true) (rest : List α) :
    word <:+: text ++ rest ↔ word <:+: rest := by
  obtain ⟨short, last⟩ := Bool.and_eq_true_iff.1 opens
  rcases List.eq_nil_or_concat' text with rfl | ⟨front, c, rfl⟩
  · rfl
  · have other : letter c = false := by simpa using last
    have absent : ¬ word <:+: front := fun within =>
      long.not_infix_of_brief short (within.trans (List.prefix_append front [c]).isInfix)
    rw [List.append_assoc, List.singleton_append, infix_append_cons_iff long.letters other]
    exact or_iff_right absent

/-- A fence adds no occurrence to what stands around it. -/
theorem fence_iff {text : List α} (fenced : fence letter n text = true) (front rest : List α) :
    word <:+: front ++ (text ++ rest) ↔ word <:+: front ∨ word <:+: rest := by
  simp only [fence, Bool.and_eq_true] at fenced
  obtain ⟨⟨short, first⟩, last⟩ := fenced
  cases text with
  | nil => simp at first
  | cons c text =>
    have other : letter c = false := by simpa using first
    have opens : opening letter n text = true := by
      rw [brief_cons_of_other other] at short
      rw [opening, short, Bool.true_and]
      cases text with
      | nil => rfl
      | cons d text =>
        rw [List.getLast?_cons_cons] at last
        simpa [List.getLast?_eq_some_getLast (List.cons_ne_nil d text)] using last
    rw [List.cons_append, infix_append_cons_iff long.letters other, long.opening_iff opens]

theorem fence_append_iff {text : List α} (fenced : fence letter n text = true) (rest : List α) :
    word <:+: text ++ rest ↔ word <:+: rest := by
  have behind := long.fence_iff fenced [] rest
  rw [List.nil_append, List.infix_nil] at behind
  rw [behind]
  exact or_iff_right long.ne_nil

theorem append_fence_iff {text : List α} (fenced : fence letter n text = true) (front : List α) :
    word <:+: front ++ text ↔ word <:+: front := by
  have before := long.fence_iff fenced front []
  rw [List.append_nil, List.infix_nil] at before
  rw [before]
  exact or_iff_left long.ne_nil

/-! ### Lines and escapes -/

/-- What stands between separators is searched piece by piece. -/
theorem intercalate_iff {c : α} (other : letter c = false) (lines : List (List α)) :
    word <:+: [c].intercalate lines ↔ ∃ line ∈ lines, word <:+: line := by
  induction lines with
  | nil => simpa using long.ne_nil
  | cons line lines ih =>
    cases lines with
    | nil => simp [List.intercalate]
    | cons next lines =>
      have split : [c].intercalate (line :: next :: lines) =
          line ++ c :: [c].intercalate (next :: lines) := by
        simp [List.intercalate]
      rw [split, infix_append_cons_iff long.letters other, ih,
        List.exists_mem_cons_iff (word <:+: ·) line]

/-- Pieces that end in a fence are searched one by one. -/
theorem flatMap_fence_iff {β : Type} {piece : β → List α}
    (ends : ∀ b, ∃ front last, piece b = front ++ last ∧ fence letter n last = true)
    (items : List β) : word <:+: items.flatMap piece ↔ ∃ b ∈ items, word <:+: piece b := by
  induction items with
  | nil => simpa using long.ne_nil
  | cons b items ih =>
    obtain ⟨front, last, split, fenced⟩ := ends b
    rw [List.flatMap_cons, List.exists_mem_cons_iff, split, List.append_assoc,
      long.fence_iff fenced, long.append_fence_iff fenced, ih]

omit long in
theorem prefix_flatMap_iff {escape : α → List α} (same : ∀ c, letter c = true → escape c = [c])
    (fenced : ∀ c, letter c = false → fence letter n (escape c) = true) {start : List α}
    (letters : ∀ c ∈ start, letter c = true) (text : List α) :
    start <+: text.flatMap escape ↔ start <+: text := by
  induction text generalizing start with
  | nil => rfl
  | cons c text ih =>
    cases start with
    | nil => simp
    | cons d start =>
      rw [List.flatMap_cons]
      by_cases here : letter c = true
      · rw [same c here, List.singleton_append, List.cons_prefix_cons, List.cons_prefix_cons,
          ih fun d member => letters d (List.mem_cons_of_mem _ member)]
      · rw [Bool.not_eq_true] at here
        have mine := letters d List.mem_cons_self
        have outside := fenced c here
        simp only [fence, Bool.and_eq_true] at outside
        -- the word would have to begin with what is no letter
        cases escaped : escape c with
        | nil => simp [escaped] at outside
        | cons e rest =>
          have other : letter e = false := by simpa [escaped] using outside.1.2
          have first : d ≠ e := by
            rintro rfl
            exact absurd mine (by simp [other])
          have second : d ≠ c := by
            rintro rfl
            exact absurd mine (by simp [here])
          simp [first, second]

/-- Escaping what is no letter neither makes nor breaks an occurrence. -/
theorem flatMap_iff {escape : α → List α} (same : ∀ c, letter c = true → escape c = [c])
    (fenced : ∀ c, letter c = false → fence letter n (escape c) = true) (text : List α) :
    word <:+: text.flatMap escape ↔ word <:+: text := by
  induction text with
  | nil => rfl
  | cons c text ih =>
    by_cases here : letter c = true
    · have start := prefix_flatMap_iff same fenced long.letters (c :: text)
      rw [List.flatMap_cons, same c here, List.singleton_append] at start
      rw [List.flatMap_cons, same c here, List.singleton_append, List.infix_cons_iff, start, ih,
        List.infix_cons_iff]
    · rw [Bool.not_eq_true] at here
      rw [List.flatMap_cons, long.fence_append_iff (fenced c here), ih,
        infix_cons_other_iff long.letters here]

end LongWord

/-- What is dropped at the ends of a text is no part of a word. -/
theorem infix_dropWhile_iff {word : List α} (letters : ∀ d ∈ word, letter d = true)
    {drop : α → Bool} (outside : ∀ c, drop c = true → letter c = false) (text : List α) :
    word <:+: text.dropWhile drop ↔ word <:+: text := by
  induction text with
  | nil => rfl
  | cons c text ih =>
    by_cases dropped : drop c = true
    · rw [List.dropWhile_cons_of_pos dropped, ih,
        infix_cons_other_iff letters (outside c dropped)]
    · rw [List.dropWhile_cons_of_neg dropped]

theorem infix_rdropWhile_iff {word : List α} (letters : ∀ d ∈ word, letter d = true)
    {drop : α → Bool} (outside : ∀ c, drop c = true → letter c = false) (text : List α) :
    word <:+: text.rdropWhile drop ↔ word <:+: text := by
  induction text using List.reverseRecOn with
  | nil => rfl
  | append_singleton text c ih =>
    by_cases dropped : drop c = true
    · rw [List.rdropWhile_concat_pos drop text c dropped, ih,
        infix_concat_other_iff letters (outside c dropped)]
    · rw [List.rdropWhile_concat_neg drop text c dropped]

end Occurrences

end Text
