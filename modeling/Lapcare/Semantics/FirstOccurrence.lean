import Mathlib.Data.List.Basic
import Mathlib.Data.List.Nodup

/-!
# First occurrences

Keyed entries of which only the first of each key counts, as a loop with a set of the
keys it has seen keeps them.

## Main results

* `firsts_append` — a list after another is read with the other's kept keys seen
* `firsts_append_eq_iff` — when a list in two parts keeps what another keeps
* `find?_perm_iff` — when the first item of a kind says the same in every order
-/

namespace Semantics

variable {κ β : Type} [DecidableEq κ]

/-- The entries whose key occurs for the first time and was not seen before. -/
def firsts : List κ → List (κ × β) → List (κ × β)
  | _, [] => []
  | seen, entry :: rest =>
      if entry.1 ∈ seen then firsts seen rest else entry :: firsts (seen ++ [entry.1]) rest

theorem firsts_cons_seen {seen : List κ} {entry : κ × β} (old : entry.1 ∈ seen)
    (rest : List (κ × β)) : firsts seen (entry :: rest) = firsts seen rest :=
  if_pos old

theorem firsts_cons_new {seen : List κ} {entry : κ × β} (fresh : entry.1 ∉ seen)
    (rest : List (κ × β)) :
    firsts seen (entry :: rest) = entry :: firsts (seen ++ [entry.1]) rest :=
  if_neg fresh

/-- Only which keys were seen matters. -/
theorem firsts_congr {seen seen' : List κ} (same : ∀ key, key ∈ seen ↔ key ∈ seen')
    (entries : List (κ × β)) : firsts seen entries = firsts seen' entries := by
  induction entries generalizing seen seen' with
  | nil => rfl
  | cons entry rest ih =>
    have wider : ∀ key, key ∈ seen ++ [entry.1] ↔ key ∈ seen' ++ [entry.1] := by
      intro key
      simp only [List.mem_append, same key]
    simp only [firsts, same entry.1, ih same, ih wider]

/-- A list after another is read with the other's kept keys seen. -/
theorem firsts_append (seen : List κ) (front rest : List (κ × β)) :
    firsts seen (front ++ rest) =
      firsts seen front ++ firsts (seen ++ (firsts seen front).map (·.1)) rest := by
  induction front generalizing seen with
  | nil => simp [firsts]
  | cons entry front ih =>
    by_cases old : entry.1 ∈ seen
    · rw [List.cons_append, firsts_cons_seen old, firsts_cons_seen old, ih]
    · rw [List.cons_append, firsts_cons_new old, firsts_cons_new old, ih, List.cons_append,
        List.map_cons, List.append_assoc, List.singleton_append]

/-- With more keys seen, their entries are no longer kept. -/
theorem firsts_filter (seen others : List κ) (entries : List (κ × β)) :
    firsts (seen ++ others) entries =
      (firsts seen entries).filter fun entry => entry.1 ∉ others := by
  induction entries generalizing seen with
  | nil => rfl
  | cons entry rest ih =>
    by_cases old : entry.1 ∈ seen
    · rw [firsts_cons_seen (List.mem_append_left _ old), firsts_cons_seen old, ih]
    rw [firsts_cons_new old]
    by_cases other : entry.1 ∈ others
    · -- as lists of keys these two differ, as sets they do not
      have absorbed : ∀ key, key ∈ seen ++ others ↔ key ∈ seen ++ [entry.1] ++ others := by
        intro key
        simp only [List.mem_append, List.mem_singleton]
        constructor
        · rintro (before | later)
          · exact .inl (.inl before)
          · exact .inr later
        · rintro ((before | rfl) | later)
          · exact .inl before
          · exact .inr other
          · exact .inr later
      rw [firsts_cons_seen (List.mem_append_right _ other), firsts_congr absorbed, ih,
        List.filter_cons_of_neg (by simpa using other)]
    · have moved : ∀ key, key ∈ seen ++ others ++ [entry.1] ↔
          key ∈ seen ++ [entry.1] ++ others := by
        intro key
        simp only [List.mem_append]
        tauto
      rw [firsts_cons_new (by simp [old, other]), firsts_congr moved, ih,
        List.filter_cons_of_pos (by simpa using other)]

theorem not_mem_seen_of_mem_firsts {seen : List κ} {entries : List (κ × β)} {entry : κ × β}
    (kept : entry ∈ firsts seen entries) : entry.1 ∉ seen := by
  induction entries generalizing seen with
  | nil => exact absurd kept List.not_mem_nil
  | cons first rest ih =>
    by_cases old : first.1 ∈ seen
    · rw [firsts_cons_seen old] at kept
      exact ih kept
    · rw [firsts_cons_new old] at kept
      rcases List.mem_cons.mp kept with rfl | later
      · exact old
      · intro before
        exact ih later (List.mem_append_left _ before)

/-- Every key is kept once. -/
theorem firsts_keys_nodup (seen : List κ) (entries : List (κ × β)) :
    ((firsts seen entries).map (·.1)).Nodup := by
  induction entries generalizing seen with
  | nil => exact List.nodup_nil
  | cons entry rest ih =>
    by_cases old : entry.1 ∈ seen
    · rw [firsts_cons_seen old]
      exact ih seen
    · rw [firsts_cons_new old, List.map_cons, List.nodup_cons]
      refine ⟨fun again => ?_, ih _⟩
      obtain ⟨other, kept, same⟩ := List.mem_map.mp again
      have fresh := not_mem_seen_of_mem_firsts kept
      exact fresh (by simp [same])

/-- An entry is kept exactly if it is the first one with its key. -/
theorem mem_firsts_iff {seen : List κ} {entries : List (κ × β)} {entry : κ × β} :
    entry ∈ firsts seen entries ↔
      entry.1 ∉ seen ∧ entries.find? (·.1 = entry.1) = some entry := by
  induction entries generalizing seen with
  | nil => simp [firsts]
  | cons first rest ih =>
    by_cases same : first.1 = entry.1
    · rw [List.find?_cons_of_pos (by simpa using same), Option.some.injEq]
      by_cases old : first.1 ∈ seen
      · rw [firsts_cons_seen old, ih, ← same]
        simp [old]
      · rw [firsts_cons_new old, List.mem_cons, ih, ← same]
        simp [old, eq_comm]
    · rw [List.find?_cons_of_neg (by simpa using same)]
      have different : entry ≠ first := fun equal => same (congrArg (·.1) equal.symm)
      by_cases old : first.1 ∈ seen
      · rw [firsts_cons_seen old, ih]
      · rw [firsts_cons_new old, List.mem_cons, ih]
        simp [different, Ne.symm same]

/-- What is kept after a prefix of what is kept. -/
theorem firsts_prefix_kept {seen : List κ} {entries front later : List (κ × β)}
    (kept : firsts seen entries = front ++ later) :
    firsts (seen ++ front.map (·.1)) entries = later := by
  have once := firsts_keys_nodup seen entries
  rw [kept, List.map_append, List.nodup_append] at once
  have drops : front.filter (fun entry => entry.1 ∉ front.map (·.1)) = [] := by
    rw [List.filter_eq_nil_iff]
    intro entry member
    simpa using ⟨entry.2, member⟩
  have keeps : later.filter (fun entry => entry.1 ∉ front.map (·.1)) = later := by
    rw [List.filter_eq_self]
    intro entry member
    have apart : entry.1 ∉ front.map (·.1) := by
      intro earlier
      exact once.2.2 entry.1 earlier entry.1 (List.mem_map_of_mem member) rfl
    simpa using apart
  rw [firsts_filter, kept, List.filter_append, drops, keeps, List.nil_append]

/-- Two lists keep the same entries exactly when what the front of one keeps is what the
other keeps first, and the rest agrees from there. -/
theorem firsts_append_eq_iff {seen : List κ} {front rest entries : List (κ × β)} :
    firsts seen (front ++ rest) = firsts seen entries ↔
      firsts seen front <+: firsts seen entries ∧
        firsts (seen ++ (firsts seen front).map (·.1)) rest =
          firsts (seen ++ (firsts seen front).map (·.1)) entries := by
  rw [firsts_append]
  constructor
  · intro same
    exact ⟨⟨_, same⟩, (firsts_prefix_kept same.symm).symm⟩
  · rintro ⟨⟨later, split⟩, same⟩
    rw [same, firsts_prefix_kept split.symm]
    exact split

/-- Two lists that begin with the same key. -/
theorem firsts_cons_eq_iff {seen : List κ} {key : κ} {value value' : β}
    {front rest : List (κ × β)} :
    firsts seen ((key, value) :: front) = firsts seen ((key, value') :: rest) ↔
      (key ∉ seen → value = value') ∧
        firsts (seen ++ [key]) front = firsts (seen ++ [key]) rest := by
  by_cases old : key ∈ seen
  · have absorbed : ∀ other, other ∈ seen ↔ other ∈ seen ++ [key] := by
      intro other
      simp only [List.mem_append, List.mem_singleton]
      constructor
      · exact .inl
      · rintro (before | rfl)
        · exact before
        · exact old
    rw [firsts_cons_seen old, firsts_cons_seen old, firsts_congr absorbed,
      firsts_congr absorbed rest]
    exact (and_iff_right fun fresh => absurd old fresh).symm
  · rw [firsts_cons_new old, firsts_cons_new old, List.cons.injEq, Prod.mk.injEq]
    simp [old]

/-! ### The first item of a kind -/

section FirstOfKind

variable {α γ : Type} {kind : α → Bool}

/-- In some order an item of the kind is the first one. -/
theorem exists_perm_find? {items : List α} {item : α} (member : item ∈ items)
    (own : kind item = true) :
    ∃ order : List α, order.Perm items ∧ order.find? kind = some item := by
  obtain ⟨before, after, rfl⟩ := List.append_of_mem member
  exact ⟨item :: (before ++ after), List.perm_middle.symm, List.find?_cons_of_pos own⟩

/-- What the first item of a kind says is the same in every order exactly if all items of
the kind say the same. -/
theorem find?_perm_iff {items : List α} {said : α → Option γ} :
    (∀ order : List α, order.Perm items →
        (order.find? kind).bind said = (items.find? kind).bind said) ↔
      ∀ first ∈ items, kind first = true → ∀ second ∈ items, kind second = true →
        said first = said second := by
  constructor
  · intro steady first member own second member' own'
    -- each of the two can be brought to the front
    obtain ⟨order, perm, found⟩ := exists_perm_find? member own
    obtain ⟨order', perm', found'⟩ := exists_perm_find? member' own'
    have leads := steady order perm
    have leads' := steady order' perm'
    rw [found, Option.bind_some] at leads
    rw [found', Option.bind_some] at leads'
    exact leads.trans leads'.symm
  · intro agree order perm
    cases found : order.find? kind with
    | none =>
      have nowhere : items.find? kind = none := by
        rw [List.find?_eq_none] at found ⊢
        intro item member
        exact found item (perm.mem_iff.2 member)
      rw [nowhere]
    | some first =>
      have member := perm.mem_iff.1 (List.mem_of_find?_eq_some found)
      have own := List.find?_some found
      have somewhere : (items.find? kind).isSome = true := List.find?_isSome.2 ⟨first, member, own⟩
      obtain ⟨second, found'⟩ := Option.isSome_iff_exists.1 somewhere
      rw [found', Option.bind_some, Option.bind_some]
      exact agree first member own second (List.mem_of_find?_eq_some found')
        (List.find?_some found')

end FirstOfKind

/-- Of two items next to each other that are not both of a kind, the order does not matter
for the first item of the kind. -/
theorem find?_swap {α : Type} {p : α → Bool} {x y : α} (apart : ¬ (p x = true ∧ p y = true))
    (before after : List α) :
    (before ++ x :: y :: after).find? p = (before ++ y :: x :: after).find? p := by
  rw [List.find?_append, List.find?_append]
  congr 1
  cases first : p x <;> cases second : p y
  · simp [first, second]
  · simp [first, second]
  · simp [first, second]
  · exact absurd ⟨first, second⟩ apart

/-! ### Tables in which every key occurs once -/

section Lookup

variable {ι : Type} [BEq ι] [LawfulBEq ι]

theorem lookup_eq_some_iff_mem {entries : List (ι × β)} (once : (entries.map (·.1)).Nodup)
    {key : ι} {value : β} :
    entries.lookup key = some value ↔ (key, value) ∈ entries := by
  induction entries with
  | nil => simp
  | cons entry entries ih =>
    obtain ⟨name, held⟩ := entry
    obtain ⟨fresh, later⟩ := List.nodup_cons.mp once
    rw [List.lookup_cons, List.mem_cons]
    by_cases here : key = name
    · subst here
      have absent : (key, value) ∉ entries := fun member =>
        fresh (List.mem_map_of_mem (f := (·.1)) member)
      simp [absent, eq_comm]
    · rw [beq_eq_false_iff_ne.mpr here]
      simp [here, ih later]

end Lookup

end Semantics
