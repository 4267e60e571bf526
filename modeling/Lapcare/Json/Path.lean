import Lapcare.Json.Printer

/-!
# Paths into a JSON document

A path descends through the members of objects and the items of arrays. Replacing the
value at one path is seen along that path and nowhere else.

## Main results

* `get?_set_of_diverge` — paths that part do not see each other's values
* `get?_set_append` — a path above the replaced value sees it replaced further down
-/

namespace Json

inductive Step
  | key (name : String)
  | index (i : ℕ)
  deriving DecidableEq

namespace Tree

variable {φ : Type}

/-- The value of a member, or an item. -/
def child? : Tree φ → Step → Option (Tree φ)
  | .obj members, .key name => members.lookup name
  | .arr items, .index i => items[i]?
  | _, _ => none

def modifyChild (f : Tree φ → Tree φ) : Tree φ → Step → Tree φ
  | .obj members, .key name =>
      .obj (members.map fun member => if member.1 = name then (member.1, f member.2) else member)
  | .arr items, .index i => .arr (items.modify i f)
  | node, _ => node

/-- The value at a path, if the path leads anywhere. -/
def get? : Tree φ → List Step → Option (Tree φ)
  | node, [] => some node
  | node, step :: path => (node.child? step).bind (·.get? path)

/-- Replace the value at a path, where the path leads. -/
def set : Tree φ → List Step → Tree φ → Tree φ
  | _, [], value => value
  | node, step :: path, value => node.modifyChild (·.set path value) step

/-- `node.get(k1).get(k2)…` along keys, where a missing member reads as `None` and
nothing but an object has members. -/
def at_ (node : Tree φ) (keys : List String) : Tree φ :=
  (node.get? (keys.map .key)).getD .null

/-- The items of an array. Nothing else has any. -/
def items : Tree φ → List (Tree φ)
  | .arr items => items
  | _ => []

/-! ### One step -/

theorem lookup_map_update {β : Type} (members : List (String × β)) (f : β → β)
    (name other : String) :
    (members.map fun member => if member.1 = name then (member.1, f member.2) else member).lookup
        other =
      if other = name then (members.lookup other).map f else members.lookup other := by
  induction members with
  | nil => split_ifs <;> rfl
  | cons member members ih =>
    obtain ⟨key, value⟩ := member
    by_cases here : other = key
    · subst here
      by_cases named : other = name
      · simp [named]
      · simp [named]
    · have skip (rest : List (String × β)) (value : β) :
          ((key, value) :: rest).lookup other = rest.lookup other := by
        rw [List.lookup_cons, beq_eq_false_iff_ne.mpr here]
      by_cases named : key = name
      · simp only [List.map_cons, if_pos named, skip, ih]
      · simp only [List.map_cons, if_neg named, skip, ih]

theorem child?_modifyChild (f : Tree φ → Tree φ) (node : Tree φ) (step other : Step) :
    (node.modifyChild f step).child? other =
      if other = step then (node.child? other).map f else node.child? other := by
  cases node with
  | obj members =>
    cases step with
    | key name =>
      cases other with
      | key other =>
        simp only [modifyChild, child?, lookup_map_update, Step.key.injEq]
      | index j => rfl
    | index i =>
      -- a step of the other kind changes nothing, and finds nothing
      split_ifs with same
      · subst same
        rfl
      · rfl
  | arr items =>
    cases step with
    | key name =>
      split_ifs with same
      · subst same
        rfl
      · rfl
    | index i =>
      cases other with
      | key other => rfl
      | index j =>
        simp only [modifyChild, child?, List.getElem?_modify, Step.index.injEq, eq_comm (a := i)]
        split_ifs <;> simp
  | null | bool _ | int _ | float _ | str _ =>
    split_ifs <;> rfl

/-! ### Paths -/

/-- Two paths part at some step. -/
def diverge : List Step → List Step → Bool
  | step :: path, other :: rest => step ≠ other || diverge path rest
  | _, _ => false

theorem get?_append (node : Tree φ) (path rest : List Step) :
    node.get? (path ++ rest) = (node.get? path).bind (·.get? rest) := by
  induction path generalizing node with
  | nil => rfl
  | cons step path ih =>
    rw [List.cons_append, get?, get?]
    cases node.child? step with
    | none => rfl
    | some child => exact ih child

/-- Paths that part do not see each other's values. By induction on the way they share. -/
theorem get?_set_of_diverge {path changed : List Step} (apart : diverge path changed = true)
    (node value : Tree φ) : (node.set changed value).get? path = node.get? path := by
  induction path generalizing changed node with
  | nil => exact absurd apart Bool.false_ne_true
  | cons step path ih =>
    cases changed with
    | nil => exact absurd apart Bool.false_ne_true
    | cons other changed =>
      rw [set, get?, get?, child?_modifyChild]
      by_cases shared : step = other
      · have later : diverge path changed = true := by simpa [diverge, shared] using apart
        rw [if_pos shared]
        cases node.child? step with
        | none => rfl
        | some child => exact ih later child
      · rw [if_neg shared]

/-- A path above the replaced value sees it replaced further down. -/
theorem get?_set_append (path rest : List Step) (node value : Tree φ) :
    (node.set (path ++ rest) value).get? path = (node.get? path).map (·.set rest value) := by
  induction path generalizing node with
  | nil => rfl
  | cons step path ih =>
    rw [List.cons_append, set, get?, get?, child?_modifyChild, if_pos rfl]
    cases node.child? step with
    | none => rfl
    | some child => exact ih child

/-- A replaced value is found again, where there was one. -/
theorem get?_set (path : List Step) (node value : Tree φ) :
    (node.set path value).get? path = (node.get? path).map fun _ => value := by
  have replaced := get?_set_append path [] node value
  rw [List.append_nil] at replaced
  exact replaced

/-! ### Paths of keys -/

theorem at_set_of_diverge {keys : List String} {path : List Step}
    (apart : diverge (keys.map .key) path = true) (node value : Tree φ) :
    (node.set path value).at_ keys = node.at_ keys := by
  rw [at_, get?_set_of_diverge apart]
  rfl

theorem at_set (keys : List String) (node value : Tree φ) :
    (node.set (keys.map .key) value).at_ keys = value ∨
      (node.set (keys.map .key) value).at_ keys = .null := by
  rw [at_, get?_set]
  cases node.get? (keys.map .key) with
  | none => exact .inr rfl
  | some old => exact .inl rfl

/-- The items at the end of a path of keys, after a value inside of one was replaced. -/
theorem items_at_set (keys : List String) (i : ℕ) (rest : List Step) (node value : Tree φ) :
    ((node.set (keys.map .key ++ .index i :: rest) value).at_ keys).items =
      (node.at_ keys).items.modify i (·.set rest value) := by
  rw [at_, at_, get?_set_append]
  cases node.get? (keys.map .key) with
  | none => simp [items]
  | some child => cases child <;> simp [set, modifyChild, items]

/-! ### Paths to what is read -/

/-- What is read along keys stands there, unless it is `None`. -/
theorem get?_of_at {node value : Tree φ} {keys : List String} (read : node.at_ keys = value)
    (some_ : value ≠ .null) : node.get? (keys.map .key) = some value := by
  unfold at_ at read
  cases found : node.get? (keys.map .key) with
  | none =>
    rw [found] at read
    exact absurd read.symm some_
  | some child =>
    rw [found] at read
    exact congrArg some read

/-- An item of an array stands below it. -/
theorem exists_get?_of_mem_items {node item : Tree φ} {keys : List String}
    (member : item ∈ (node.at_ keys).items) :
    ∃ i, node.get? (keys.map .key ++ [.index i]) = some item := by
  cases array : node.at_ keys with
  | arr items =>
    have listed : item ∈ items := by rwa [array] at member
    obtain ⟨i, inside, rfl⟩ := List.getElem_of_mem listed
    refine ⟨i, ?_⟩
    rw [get?_append, get?_of_at array (by simp), Option.bind_some]
    change (items[i]?).bind _ = _
    rw [List.getElem?_eq_getElem inside]
    rfl
  | null | bool _ | int _ | float _ | str _ | obj _ =>
    rw [array] at member
    cases member

end Tree

end Json
