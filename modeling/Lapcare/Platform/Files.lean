import Mathlib.Data.Finset.Sort
import Mathlib.Data.String.Basic

/-!
# Directory trees

What a program finds below a root directory, and what it changes by writing there. A path
is the list of its components. A directory that is there can be listed: this is a hypothesis,
`Tree.Listable`, on the trees that are taken for a `Root`.

## Main results

* `filterMap_sortedNames` — a directory that lacks only what a reader passes over reads alike
* `filterMap_sort_congr` — so do two directories with the same entries that are not passed over
* `below_write` — writing below a directory, seen from that directory
* `Within.below_eq` — a step that writes elsewhere is not seen from a directory
* `every_write_iff` — what holds of every file after a write
-/

namespace Lapcare.Platform

/-- The components of a path relative to a root directory. -/
abbrev RelPath := List String

/-- What stands below a root directory that is readable in this sense: every directory that is
there can be listed. `content` is the bytes of a file, `none` where reading one fails with an
`OSError`, and `entries` is the names in a directory, `none` where there is no directory. -/
@[ext] structure Root where
  content : RelPath → Option (List UInt8)
  entries : RelPath → Option (Finset String)

/-- What a program finds at the place of a directory. One that it may not search or not list
raises `PermissionError` from `is_dir` or from `iterdir`. -/
inductive DirState
  | absent
  | names (entries : Finset String)
  | denied

/-- What stands below any root directory. -/
structure Tree where
  content : RelPath → Option (List UInt8)
  listing : RelPath → DirState

namespace Tree

/-- What is hypothesized of a tree wherever it is taken for a `Root`. -/
def Listable (tree : Tree) : Prop :=
  ∀ dir, tree.listing dir ≠ .denied

/-- The tree without the directories that refuse to be listed. -/
def root (tree : Tree) : Root where
  content := tree.content
  entries dir :=
    match tree.listing dir with
    | .names entries => some entries
    | .absent | .denied => none

end Tree

/-- The entry of a directory below which a path leads, or which it is. -/
def entryBelow : RelPath → RelPath → Option String
  | [], path => path.head?
  | _ :: _, [] => none
  | d :: dir, c :: path => if d = c then entryBelow dir path else none

namespace Root

/-- An empty directory. -/
def empty : Root where
  content _ := none
  entries _ := none

/-- `path.is_dir()`, in a tree whose directories can be listed. -/
def isDir (root : Root) (dir : RelPath) : Bool :=
  (root.entries dir).isSome

/-- `sorted(path.iterdir())`, by name. -/
def sortedNames (root : Root) (dir : RelPath) : List String :=
  ((root.entries dir).getD ∅).sort

/-- The entries of a directory once a path leads through it. -/
def enter (root : Root) (path dir : RelPath) : Option (Finset String) :=
  match entryBelow dir path with
  | none => root.entries dir
  | some name => some (insert name ((root.entries dir).getD ∅))

/-- `path.mkdir(parents=True, exist_ok=True)`. -/
def mkdir (root : Root) (path : RelPath) : Root where
  content := root.content
  entries dir :=
    if dir = path then some ((root.entries dir).getD ∅)
    else root.enter path dir

/-- `path.write_bytes(data)`, after `path.parent.mkdir(parents=True, exist_ok=True)`. -/
def write (root : Root) (path : RelPath) (data : List UInt8) : Root where
  content := Function.update root.content path (some data)
  entries := root.enter path

/-- What a program finds that is given a directory of the tree as its root. -/
def below (base : RelPath) (root : Root) : Root where
  content path := root.content (base ++ path)
  entries dir := root.entries (base ++ dir)

end Root

open Root

theorem Tree.isDir_root {tree : Tree} (listable : tree.Listable) (dir : RelPath) :
    tree.root.isDir dir = true ↔ tree.listing dir ≠ .absent := by
  have allowed := listable dir
  rw [isDir, Tree.root]
  cases found : tree.listing dir with
  | absent => simp [found]
  | names entries => simp [found]
  | denied => exact absurd found allowed

@[simp] theorem entryBelow_append (base dir path : RelPath) :
    entryBelow (base ++ dir) (base ++ path) = entryBelow dir path := by
  induction base with
  | nil => rfl
  | cons first base ih => exact (if_pos rfl).trans ih

/-- A path that begins elsewhere leads to no entry of the directory. -/
theorem entryBelow_eq_none {dir path : RelPath} (nested : dir ≠ [])
    (elsewhere : dir.head? ≠ path.head?) : entryBelow dir path = none := by
  cases dir with
  | nil => exact absurd rfl nested
  | cons d dir =>
    cases path with
    | nil => rfl
    | cons c path => exact if_neg fun same => elsewhere (congrArg some same)

@[simp] theorem below_empty (base : RelPath) : below base empty = empty := rfl

/-- Writing below a directory, seen from that directory. -/
theorem below_write (base path : RelPath) (data : List UInt8) (root : Root) :
    below base (root.write (base ++ path) data) = (below base root).write path data := by
  refine Root.ext (funext fun other => ?_) (funext fun dir => ?_)
  · by_cases same : other = path
    · subst same
      simp [below, write]
    · have apart : base ++ other ≠ base ++ path :=
        fun joined => same (List.append_cancel_left joined)
      simp [below, write, Function.update_of_ne apart, Function.update_of_ne same]
  · simp only [below, write, enter, entryBelow_append]

/-! ### What a file and a directory hold after a write -/

section Write

variable (root : Root) (path : RelPath) (data : List UInt8)

theorem content_write (other : RelPath) :
    (root.write path data).content other = if other = path then some data else root.content other :=
  Function.update_apply ..

/-- The names that a write adds to a directory. -/
theorem mem_sortedNames_write (dir : RelPath) (name : String) :
    name ∈ (root.write path data).sortedNames dir ↔
      entryBelow dir path = some name ∨ name ∈ root.sortedNames dir := by
  simp only [sortedNames, write, enter, Finset.mem_sort]
  cases entryBelow dir path with
  | none => simp
  | some entered => simp [eq_comm]

end Write

/-! ### Reading a directory name by name -/

section Names

variable {root other : Root} {dir : RelPath}

theorem nodup_sortedNames (root : Root) (dir : RelPath) : (root.sortedNames dir).Nodup :=
  Finset.sort_nodup ..

/-- The names of a smaller directory, in the order in which a larger one has them. -/
theorem sortedNames_eq_filter
    (fewer : ∀ name ∈ root.sortedNames dir, name ∈ other.sortedNames dir) :
    root.sortedNames dir = (other.sortedNames dir).filter (· ∈ root.sortedNames dir) := by
  have same : (root.sortedNames dir).Perm
      ((other.sortedNames dir).filter (· ∈ root.sortedNames dir)) := by
    refine (List.perm_ext_iff_of_nodup (nodup_sortedNames root dir)
      ((nodup_sortedNames other dir).filter _)).2 fun name => ?_
    simp only [List.mem_filter, decide_eq_true_eq]
    exact ⟨fun member => ⟨fewer name member, member⟩, And.right⟩
  have sorted (root : Root) : (root.sortedNames dir).Pairwise (· ≤ ·) := Finset.pairwise_sort ..
  exact same.eq_of_pairwise' (sorted root) ((sorted other).filter _)

/-- A directory that lacks only names that a reader passes over reads like the full one. -/
theorem filterMap_sortedNames {β : Type} {read : String → Option β}
    (fewer : ∀ name ∈ root.sortedNames dir, name ∈ other.sortedNames dir)
    (present : ∀ name ∈ other.sortedNames dir, read name ≠ none → name ∈ root.sortedNames dir) :
    (root.sortedNames dir).filterMap read = (other.sortedNames dir).filterMap read := by
  rw [sortedNames_eq_filter fewer, List.filterMap_filter]
  refine List.filterMap_congr fun name member => ?_
  by_cases passed : read name = none
  · simp [passed]
  · simp [present name member passed]

/-- The entries of a directory, read among those of a larger one. -/
theorem filterMap_sort_eq {β : Type} {some_ all : Finset String} (within : some_ ⊆ all)
    (read : String → Option β) : some_.sort.filterMap read =
      all.sort.filterMap fun name => if name ∈ some_ then read name else none := by
  have sorted (names : Finset String) : names.sort.Pairwise (· ≤ ·) := Finset.pairwise_sort ..
  have same : some_.sort.Perm (all.sort.filter (· ∈ some_)) := by
    refine (List.perm_ext_iff_of_nodup (Finset.sort_nodup ..)
      ((Finset.sort_nodup ..).filter _)).2 fun name => ?_
    simp only [List.mem_filter, Finset.mem_sort, decide_eq_true_eq]
    exact ⟨fun member => ⟨within member, member⟩, And.right⟩
  rw [same.eq_of_pairwise' (sorted some_) ((sorted all).filter _), List.filterMap_filter]
  simp only [decide_eq_true_eq]

/-- Two directories in which a reader finds the same at every name read alike. -/
theorem filterMap_sort_congr {β : Type} {names names' : Finset String}
    {read read' : String → Option β}
    (same : ∀ name, (if name ∈ names then read name else none) =
      if name ∈ names' then read' name else none) :
    names.sort.filterMap read = names'.sort.filterMap read' := by
  have left : names ⊆ names ∪ names' := Finset.subset_union_left
  have right : names' ⊆ names ∪ names' := Finset.subset_union_right
  rw [filterMap_sort_eq left, filterMap_sort_eq right]
  exact List.filterMap_congr fun name _ => same name

end Names

/-! ### Steps that write below one entry of the root -/

/-- A step that changes nothing but what stands below the entry `top`, and the list of the
root's own entries. -/
structure Within (top : String) (step : Root → Root) : Prop where
  content : ∀ root path, path.head? ≠ some top → (step root).content path = root.content path
  entries : ∀ root dir, dir ≠ [] → dir.head? ≠ some top →
    (step root).entries dir = root.entries dir

section Within

variable {top : String}

theorem within_id : Within top id :=
  ⟨fun _ _ _ => rfl, fun _ _ _ _ => rfl⟩

theorem Within.comp {first second : Root → Root} (later : Within top second)
    (earlier : Within top first) : Within top (second ∘ first) where
  content root path elsewhere := by
    rw [Function.comp, later.content _ _ elsewhere, earlier.content _ _ elsewhere]
  entries root dir nested elsewhere := by
    rw [Function.comp, later.entries _ _ nested elsewhere, earlier.entries _ _ nested elsewhere]

theorem within_enter {path : RelPath} (here : path.head? = some top) (root : Root) {dir : RelPath}
    (nested : dir ≠ []) (elsewhere : dir.head? ≠ some top) :
    root.enter path dir = root.entries dir := by
  simp only [enter, entryBelow_eq_none nested (here ▸ elsewhere)]

theorem within_write {path : RelPath} (here : path.head? = some top) (data : List UInt8) :
    Within top (·.write path data) where
  content root other elsewhere := by
    have apart : other ≠ path := by
      rintro rfl
      exact elsewhere here
    exact Function.update_of_ne apart ..
  entries root _ nested elsewhere := within_enter here root nested elsewhere

theorem within_mkdir {path : RelPath} (here : path.head? = some top) :
    Within top (·.mkdir path) where
  content _ _ _ := rfl
  entries root dir nested elsewhere := by
    have apart : dir ≠ path := by
      rintro rfl
      exact elsewhere here
    exact (if_neg apart).trans (within_enter here root nested elsewhere)

theorem within_foldl {α : Type} {step : Root → α → Root} (each : ∀ item, Within top (step · item))
    (items : List α) : Within top (items.foldl step) := by
  induction items with
  | nil => exact within_id
  | cons item items ih => exact ih.comp (each item)

/-- A step that writes below another entry is not seen from a directory. -/
theorem Within.below_eq {step : Root → Root} (within : Within top step) {base : RelPath}
    (nested : base ≠ []) (elsewhere : base.head? ≠ some top) (root : Root) :
    below base (step root) = below base root := by
  have first (path : RelPath) : (base ++ path).head? ≠ some top := by
    rwa [List.head?_append_of_ne_nil _ nested]
  have filled (dir : RelPath) : base ++ dir ≠ [] := by simp [nested]
  refine Root.ext (funext fun path => ?_) (funext fun dir => ?_)
  · exact within.content root _ (first path)
  · exact within.entries root _ (filled dir) (first dir)

/-- A tree without files below one entry of its root. -/
def Untouched (top : String) (root : Root) : Prop :=
  ∀ path, path.head? = some top → root.content path = none

theorem untouched_empty : Untouched top empty :=
  fun _ _ => rfl

theorem Within.untouched {other : String} {step : Root → Root} (within : Within other step)
    (elsewhere : top ≠ other) {root : Root} (untouched : Untouched top root) :
    Untouched top (step root) := by
  intro path here
  rw [within.content _ _ (by simpa [here] using elsewhere), untouched path here]

end Within

/-! ### All files of a tree -/

/-- What holds of the path and the data of every file. -/
def Every (p : RelPath → List UInt8 → Prop) (root : Root) : Prop :=
  ∀ path data, root.content path = some data → p path data

theorem every_empty (p : RelPath → List UInt8 → Prop) : Every p empty :=
  fun _ _ stored => nomatch stored

/-- Writing a file that is new, or that had the same data, adds one file to look at. -/
theorem every_write_iff {p : RelPath → List UInt8 → Prop} {root : Root} {path : RelPath}
    {data : List UInt8} (kept : root.content path = none ∨ root.content path = some data) :
    Every p (root.write path data) ↔ p path data ∧ Every p root := by
  have elsewhere {other : RelPath} (apart : other ≠ path) :
      (root.write path data).content other = root.content other := by
    rw [content_write, if_neg apart]
  constructor
  · intro every
    refine ⟨every path data (by rw [content_write, if_pos rfl]), fun other held stored => ?_⟩
    by_cases same : other = path
    · subst same
      -- the data that was there is the data that was written
      rcases kept with new | same
      · rw [new] at stored
        exact nomatch stored
      · rw [same] at stored
        cases stored
        exact every other data (by rw [content_write, if_pos rfl])
    · exact every other held (by rwa [elsewhere same])
  · rintro ⟨here, every⟩ other held stored
    by_cases same : other = path
    · subst same
      rw [content_write, if_pos rfl] at stored
      cases stored
      exact here
    · rw [elsewhere same] at stored
      exact every other held stored

end Lapcare.Platform
