import Lapcare.Core.BatteryAnalysis
import Lapcare.Core.Errors
import Lapcare.Platform.CodePoints
import Lapcare.Semantics.FirstOccurrence
import Lapcare.Semantics.KeyedTable
import Mathlib.Data.Finset.Sort
import Mathlib.Logic.Function.Basic

/-!
# Wear history

`platform/history.py`: one row per day and battery in an SQLite database, `INSERT OR
REPLACE` for a snapshot, and for a battery the most recent rows, presented ascending. Every
operation opens a connection of its own, so of a store only its path matters. What is bound
to a statement has to fit SQLite's integers, or to be encoded as UTF-8.

The reference is the log of what was recorded: a battery's history is the last snapshot of
each of its latest days.

## Main results

* `history_of_log` — a history is the last snapshots of the latest recorded days
* `wear_history_faithful` — every recording returns, histories are those of the log, a
  repeated recording changes nothing, and those of different keys commute
* `huge_limit_raises`, `surrogate_raises` — a limit that SQLite cannot hold raises, and so does
  a name with a surrogate
-/

namespace Lapcare.Platform

open Lapcare.Core Semantics Text

/-- `PRIMARY KEY (day, battery_name)`. -/
def primaryKey (row : WearSnapshot) : String × String := (row.day, row.batteryName)

/-- The table `wear_history`, with the columns of a snapshot. -/
abbrev WearTable := Table primaryKey

/-- The databases under their paths. -/
abbrev Disk := String → Option WearTable

/-- What a connection to a path sees: `CREATE TABLE IF NOT EXISTS`. -/
def Disk.connect (disk : Disk) (path : String) : WearTable := (disk path).getD Table.empty

structure SqliteHistoryStore where
  path : String

def FitsInteger (n : Int) : Prop := -2 ^ 63 ≤ n ∧ n < 2 ^ 63

instance : DecidablePred FitsInteger := fun _ => inferInstanceAs (Decidable (_ ∧ _))

/-- Binding an `int` to a statement. -/
def bindInteger (n : Int) : Except PyException Int :=
  if FitsInteger n then .ok n
  else .error (.foreign "OverflowError" "Python int too large to convert to SQLite INTEGER")

def bindNullable : Option Int → Except PyException (Option Int)
  | none => .ok none
  | some n => (bindInteger n).map some

/-- Binding a `str`. -/
def bindText (text : List CodePoint) : Except PyException String :=
  match text.mapM CodePoint.char? with
  | none => .error (.foreign "UnicodeEncodeError" "surrogates not allowed")
  | some chars => .ok (String.ofList chars)

/-- Binding the columns of a snapshot, in their order. Its texts have no surrogates. -/
def bindRow (snapshot : WearSnapshot) : Except PyException WearSnapshot := do
  let cycleCount ← bindNullable snapshot.cycleCount
  let capacityFull ← bindNullable snapshot.capacityFull
  let capacityDesign ← bindNullable snapshot.capacityDesign
  return { snapshot with
    cycleCount := cycleCount, capacityFull := capacityFull, capacityDesign := capacityDesign }

namespace SqliteHistoryStore

variable (store : SqliteHistoryStore) (disk : Disk)

def recordWear (snapshot : WearSnapshot) : Except PyException Unit × Disk :=
  let table := disk.connect store.path
  match bindRow snapshot with
  | .error error => (.error error, Function.update disk store.path (some table))
  | .ok row => (.ok (), Function.update disk store.path (some (table.insertOrReplace row)))

/-- SQL reads a negative limit as none. -/
def wearHistory (batteryName : String) (limit : Int := 365) :
    Except PyException (List WearSnapshot) × Disk :=
  let table := disk.connect store.path
  let rows := do
    let limit ← bindInteger limit
    let own (row : WearSnapshot) := decide (row.batteryName = batteryName)
    return if limit < 0 then table.descending own WearSnapshot.day
      else table.selectDesc own WearSnapshot.day limit.toNat
  -- `DESC` and `LIMIT` select the most recent rows; they are presented ascending.
  (rows.map List.reverse, Function.update disk store.path (some table))

/-- `record_wear` of a battery with any name, which is bound before the numbers. -/
def recordNamed (name : List CodePoint) (snapshot : WearSnapshot) :
    Except PyException Unit × Disk :=
  match bindText name with
  | .error error =>
      (.error error, Function.update disk store.path (some (disk.connect store.path)))
  | .ok batteryName => store.recordWear disk { snapshot with batteryName }

/-- `wear_history` of such a battery. -/
def historyNamed (name : List CodePoint) (limit : Int := 365) :
    Except PyException (List WearSnapshot) × Disk :=
  match bindText name with
  | .error error =>
      (.error error, Function.update disk store.path (some (disk.connect store.path)))
  | .ok batteryName => store.wearHistory disk batteryName limit

end SqliteHistoryStore

/-! ### The log of what was recorded -/

/-- A call of `record_wear` with a snapshot that `snapshot_from_wear` made, of a battery
whose integers SQLite can hold. -/
structure Recording where
  store : SqliteHistoryStore
  wear : BatteryWear
  day : Option Date
  today : Date
  fits : ∀ n ∈ wear.cycleCount.toList ++ wear.capacityFull.toList ++ wear.capacityDesign.toList,
    FitsInteger n

namespace Recording

variable (call : Recording)

def date : Date := call.day.getD call.today

def snapshot : WearSnapshot := snapshotFromWear call.today call.wear call.day

def run (disk : Disk) : Except PyException Unit × Disk :=
  call.store.recordWear disk call.snapshot

end Recording

/-- The databases after some recordings. -/
def recordAll (calls : List Recording) (disk : Disk) : Disk :=
  calls.foldl (fun disk call => (call.run disk).2) disk

/-- The days on which a battery was recorded. -/
def recordedDays (calls : List Recording) (battery : String) : Finset Date :=
  ((calls.filter (·.wear.name = battery)).map Recording.date).toFinset

/-- The `n` latest of them, ascending; all of them if they are fewer. -/
def latestDays (calls : List Recording) (battery : String) (n : ℕ) : List Date :=
  let days := (recordedDays calls battery).sort
  days.drop (days.length - n)

/-- The snapshot that was recorded last for a battery on a day. -/
def lastSnapshot (calls : List Recording) (battery : String) (date : Date) :
    Option WearSnapshot :=
  (calls.reverse.find? fun call => call.date = date ∧ call.wear.name = battery).map
    Recording.snapshot

/-- What a history of a battery has to be. -/
structure IsHistory (calls : List Recording) (battery : String) (n : ℕ)
    (history : List WearSnapshot) : Prop where
  latest : history.map some = (latestDays calls battery n).map (lastSnapshot calls battery)
  days : history.map WearSnapshot.day = (latestDays calls battery n).map Date.isoformat
  ascends : (history.map WearSnapshot.day).Pairwise (· < ·)
  own : ∀ row ∈ history, row.batteryName = battery

/-- There is no other such list. -/
theorem IsHistory.unique {calls : List Recording} {battery : String} {n : ℕ}
    {history history' : List WearSnapshot} (first : IsHistory calls battery n history)
    (second : IsHistory calls battery n history') : history = history' :=
  List.map_injective_iff.2 (Option.some_injective _) (first.latest.trans second.latest.symm)

/-! ### One recording -/

theorem bindInteger_of_fits {n : Int} (fits : FitsInteger n) : bindInteger n = .ok n :=
  if_pos fits

theorem bindNullable_of_fits {n : Option Int} (fits : ∀ m ∈ n.toList, FitsInteger m) :
    bindNullable n = .ok n := by
  cases n with
  | none => rfl
  | some m =>
    have own : FitsInteger m := fits m (by simp)
    rw [bindNullable, bindInteger_of_fits own]
    rfl

namespace Recording

theorem bindRow_snapshot (call : Recording) : bindRow call.snapshot = .ok call.snapshot := by
  have cycles : bindNullable call.snapshot.cycleCount = .ok call.snapshot.cycleCount :=
    bindNullable_of_fits fun m member => call.fits m (by simp_all [snapshot, snapshotFromWear])
  have full : bindNullable call.snapshot.capacityFull = .ok call.snapshot.capacityFull :=
    bindNullable_of_fits fun m member => call.fits m (by simp_all [snapshot, snapshotFromWear])
  have design : bindNullable call.snapshot.capacityDesign = .ok call.snapshot.capacityDesign :=
    bindNullable_of_fits fun m member => call.fits m (by simp_all [snapshot, snapshotFromWear])
  rw [bindRow, cycles, full, design]
  rfl

theorem run_eq (call : Recording) (disk : Disk) :
    call.run disk = (.ok (), Function.update disk call.store.path
      (some ((disk.connect call.store.path).insertOrReplace call.snapshot))) := by
  rw [run, SqliteHistoryStore.recordWear, bindRow_snapshot]

theorem connect_run {call : Recording} {path : String} (here : call.store.path = path)
    (disk : Disk) : (call.run disk).2.connect path =
      (disk.connect path).insertOrReplace call.snapshot := by
  subst here
  rw [run_eq]
  simp only [Disk.connect, Function.update_self, Option.getD_some]

end Recording

/-! ### A run of recordings -/

section Log

variable {path battery : String} {calls : List Recording}

/-- The table holds what the recordings put into it, one after the other. -/
theorem connect_recordAll (here : ∀ call ∈ calls, call.store.path = path) (disk : Disk) :
    (recordAll calls disk).connect path =
      (calls.map Recording.snapshot).foldl Table.insertOrReplace (disk.connect path) := by
  induction calls generalizing disk with
  | nil => rfl
  | cons call calls ih =>
    have rest := ih (fun other member => here other (List.mem_cons_of_mem _ member))
    rw [recordAll, List.foldl_cons, ← recordAll, rest,
      Recording.connect_run (here call List.mem_cons_self), List.map_cons, List.foldl_cons]

/-- The key of a snapshot says the day, since no two dates have the same text. -/
theorem primaryKey_snapshot_eq_iff {call : Recording} {date : Date} :
    primaryKey call.snapshot = (date.isoformat, battery) ↔
      call.date = date ∧ call.wear.name = battery := by
  rw [primaryKey, Prod.mk.injEq]
  exact and_congr_left' Date.isoformat_injective.eq_iff

theorem lastSnapshot_eq (date : Date) : lastSnapshot calls battery date =
    (calls.map Recording.snapshot).reverse.find?
      fun row => primaryKey row = (date.isoformat, battery) := by
  have same : (fun call : Recording =>
        decide (call.date = date ∧ call.wear.name = battery)) =
      (fun row => decide (primaryKey row = (date.isoformat, battery))) ∘
        Recording.snapshot := by
    funext call
    simp only [Function.comp_apply, primaryKey_snapshot_eq_iff]
  rw [← List.map_reverse, List.find?_map, lastSnapshot, same]

/-- A row of the table after recordings into a new database. -/
theorem mem_rows_iff (here : ∀ call ∈ calls, call.store.path = path) {disk : Disk}
    (absent : disk path = none) (row : WearSnapshot) :
    row ∈ ((recordAll calls disk).connect path).rows ↔
      (calls.map Recording.snapshot).reverse.find? (primaryKey · = primaryKey row) =
        some row := by
  rw [connect_recordAll here, Disk.connect, absent]
  exact Table.mem_foldl_insertOrReplace_iff _ row

theorem mem_recordedDays_iff {date : Date} :
    date ∈ recordedDays calls battery ↔
      ∃ call ∈ calls, call.date = date ∧ call.wear.name = battery := by
  simp only [recordedDays, List.mem_toFinset, List.mem_map, List.mem_filter, decide_eq_true_eq]
  constructor
  · rintro ⟨call, ⟨member, own⟩, rfl⟩
    exact ⟨call, member, rfl, own⟩
  · rintro ⟨call, member, rfl, own⟩
    exact ⟨call, ⟨member, own⟩, rfl⟩

/-- The days in the rows of a battery are its recorded days. -/
theorem mem_days_iff (here : ∀ call ∈ calls, call.store.path = path) {disk : Disk}
    (absent : disk path = none) (day : String) :
    day ∈ ((recordedDays calls battery).sort).map Date.isoformat ↔
      ∃ row ∈ ((recordAll calls disk).connect path).rows,
        decide (row.batteryName = battery) = true ∧ row.day = day := by
  simp only [List.mem_map, Finset.mem_sort, mem_recordedDays_iff, mem_rows_iff here absent,
    decide_eq_true_eq]
  constructor
  · rintro ⟨date, ⟨call, member, dated, named⟩, rfl⟩
    -- a recorded day has a last recording, and its snapshot is the row
    have some : ((calls.map Recording.snapshot).reverse.find?
        fun row => primaryKey row = (date.isoformat, battery)).isSome := by
      rw [List.find?_isSome]
      refine ⟨call.snapshot, by simpa using ⟨call, member, rfl⟩, ?_⟩
      exact decide_eq_true (primaryKey_snapshot_eq_iff.2 ⟨dated, named⟩)
    obtain ⟨row, found⟩ := Option.isSome_iff_exists.1 some
    have key : primaryKey row = (date.isoformat, battery) := by
      simpa using List.find?_some found
    exact ⟨row, by rwa [key], congrArg Prod.snd key, congrArg Prod.fst key⟩
  · rintro ⟨row, found, rfl, rfl⟩
    -- a row was recorded, and its day is the date of that recording
    have member := List.mem_of_find?_eq_some found
    simp only [List.mem_reverse, List.mem_map] at member
    obtain ⟨call, member, rfl⟩ := member
    exact ⟨call.date, ⟨call, member, rfl, rfl⟩, rfl⟩

/-- Of one battery a table has one row a day. -/
theorem days_nodup (table : WearTable) (battery : String) :
    ((table.rows.filter fun row => row.batteryName = battery).map WearSnapshot.day).Nodup := by
  have unique := (List.pairwise_map.1 table.unique).sublist
    (List.filter_sublist (p := fun row => decide (row.batteryName = battery)))
  apply List.pairwise_map.2
  refine unique.imp_of_mem ?_
  intro row other member member' apart same
  have own : row.batteryName = battery := by simpa using (List.mem_filter.1 member).2
  have own' : other.batteryName = battery := by simpa using (List.mem_filter.1 member').2
  exact apart (Prod.ext same (own.trans own'.symm))

theorem sorted_days (days : Finset Date) :
    (days.sort.map Date.isoformat).Pairwise (· < ·) :=
  List.pairwise_map.2 (days.sortedLT_sort.pairwise.imp Date.isoformat_lt_iff.2)

/-- Whoever reads a database after recordings gets the reference history. -/
theorem history_of_log (here : ∀ call ∈ calls, call.store.path = path) {disk : Disk}
    (absent : disk path = none) (battery : String) (n : ℕ) :
    IsHistory calls battery n ((((recordAll calls disk).connect path).selectDesc
      (fun row => decide (row.batteryName = battery)) WearSnapshot.day n).reverse) := by
  generalize produced : (((recordAll calls disk).connect path).selectDesc
    (fun row => decide (row.batteryName = battery)) WearSnapshot.day n).reverse = history
  -- the query admits the rows of the battery
  have rows (row : WearSnapshot) (member : row ∈ history) :
      row ∈ ((recordAll calls disk).connect path).rows ∧ row.batteryName = battery := by
    subst produced
    simpa using Table.mem_of_mem_selectDesc (List.mem_reverse.1 member)
  have days : history.map WearSnapshot.day =
      (latestDays calls battery n).map Date.isoformat := by
    subst produced
    rw [Table.map_reverse_selectDesc (days_nodup _ battery)
      (sorted_days (recordedDays calls battery)) (mem_days_iff here absent) n, latestDays,
      List.length_map, List.map_drop]
  refine ⟨?_, days, ?_, fun row member => (rows row member).2⟩
  · -- a row is the last snapshot of its key, and days have their own texts
    let last (day : String) := (calls.map Recording.snapshot).reverse.find?
      fun row => primaryKey row = (day, battery)
    have own : history.map some = history.map (last ∘ WearSnapshot.day) := by
      apply List.map_congr_left
      intro row member
      have found := (mem_rows_iff here absent row).1 (rows row member).1
      have key : primaryKey row = (row.day, battery) :=
        Prod.ext rfl (rows row member).2
      rw [key] at found
      exact found.symm
    rw [own, ← List.map_map, days, List.map_map]
    apply List.map_congr_left
    intro date member
    exact (lastSnapshot_eq date).symm
  · rw [days, latestDays, List.map_drop]
    exact (sorted_days _).sublist (List.drop_sublist _ _)

theorem wearHistory_eq (store : SqliteHistoryStore) (disk : Disk) (battery : String) {n : ℕ}
    (small : n < 2 ^ 63) : (store.wearHistory disk battery n).1 =
      .ok (((disk.connect store.path).selectDesc
        (fun row => decide (row.batteryName = battery)) WearSnapshot.day n).reverse) := by
  have fits : FitsInteger n := by
    constructor <;> omega
  have positive : ¬ ((n : Int) < 0) := by omega
  simp only [SqliteHistoryStore.wearHistory, bindInteger_of_fits fits]
  simp [Except.bind, bind, pure, Except.pure, Except.map, positive]

/-! ### Repeated and exchanged recordings -/

theorem run_run (call : Recording) (disk : Disk) :
    (call.run (call.run disk).2).2 = (call.run disk).2 := by
  rw [call.run_eq (call.run disk).2, Recording.connect_run rfl, call.run_eq disk,
    Table.insertOrReplace_self, Function.update_idem]

/-- The last snapshot of a key does not see the order of two recordings unless both are of
that key. -/
theorem lastSnapshot_swap {first second : Recording}
    (apart : primaryKey first.snapshot ≠ primaryKey second.snapshot)
    (before after : List Recording) (battery : String) (date : Date) :
    lastSnapshot (before ++ first :: second :: after) battery date =
      lastSnapshot (before ++ second :: first :: after) battery date := by
  -- the two are not both of the key that is looked up
  have both : ¬ (decide (first.date = date ∧ first.wear.name = battery) = true ∧
      decide (second.date = date ∧ second.wear.name = battery) = true) := by
    rintro ⟨own, own'⟩
    have key := primaryKey_snapshot_eq_iff.2 (of_decide_eq_true own)
    exact apart (key.trans (primaryKey_snapshot_eq_iff.2 (of_decide_eq_true own')).symm)
  have around (one other : Recording) : (before ++ one :: other :: after).reverse =
      after.reverse ++ other :: one :: before.reverse := by
    simp
  rw [lastSnapshot, lastSnapshot, around, around,
    find?_swap fun own => both own.symm]

theorem recordedDays_swap (first second : Recording) (before after : List Recording)
    (battery : String) : recordedDays (before ++ first :: second :: after) battery =
      recordedDays (before ++ second :: first :: after) battery := by
  have perm : (before ++ first :: second :: after).Perm (before ++ second :: first :: after) :=
    (List.Perm.swap second first after).append_left before
  ext date
  simp only [mem_recordedDays_iff, perm.mem_iff]

theorem IsHistory.congr {calls calls' : List Recording} {battery : String} {n : ℕ}
    {history : List WearSnapshot}
    (days : recordedDays calls battery = recordedDays calls' battery)
    (last : ∀ date, lastSnapshot calls battery date = lastSnapshot calls' battery date)
    (reference : IsHistory calls battery n history) : IsHistory calls' battery n history := by
  have latest : latestDays calls battery n = latestDays calls' battery n := by
    rw [latestDays, latestDays, days]
  have same : lastSnapshot calls battery = lastSnapshot calls' battery := funext last
  refine ⟨?_, ?_, reference.ascends, reference.own⟩
  · rw [← latest, ← same]
    exact reference.latest
  · rw [← latest]
    exact reference.days

end Log

/-- What makes the databases at a path a log of the recordings: every recording returns, a
history is that of the log, the same recording again changes nothing, and two recordings of
different keys leave the same rows in either order, and the same histories after any
further ones. -/
structure IsLog (path : String) (disk : Disk) : Prop where
  returns : ∀ (call : Recording) (disk : Disk), (call.run disk).1 = .ok ()
  history : ∀ calls : List Recording, (∀ call ∈ calls, call.store.path = path) →
    ∀ store : SqliteHistoryStore, store.path = path → ∀ (battery : String) (n : ℕ), n < 2 ^ 63 →
      ∃ history, (store.wearHistory (recordAll calls disk) battery n).1 = .ok history ∧
        IsHistory calls battery n history
  repeats : ∀ (call : Recording) (disk : Disk),
    (call.run (call.run disk).2).2 = (call.run disk).2
  rows_commute : ∀ (first second : Recording) (disk : Disk), first.store.path = path →
    second.store.path = path → primaryKey first.snapshot ≠ primaryKey second.snapshot →
      ((recordAll [first, second] disk).connect path).rows.Perm
        ((recordAll [second, first] disk).connect path).rows
  histories_commute : ∀ (before after : List Recording) (first second : Recording),
    (∀ call ∈ before ++ first :: second :: after, call.store.path = path) →
    primaryKey first.snapshot ≠ primaryKey second.snapshot →
    ∀ store : SqliteHistoryStore, store.path = path → ∀ (battery : String) (n : ℕ), n < 2 ^ 63 →
      (store.wearHistory (recordAll (before ++ first :: second :: after) disk) battery n).1 =
        (store.wearHistory (recordAll (before ++ second :: first :: after) disk) battery n).1

theorem rows_commute {path : String} {first second : Recording}
    (here : first.store.path = path) (here' : second.store.path = path)
    (apart : primaryKey first.snapshot ≠ primaryKey second.snapshot) (disk : Disk) :
    ((recordAll [first, second] disk).connect path).rows.Perm
      ((recordAll [second, first] disk).connect path).rows := by
  have both (one other : Recording) (here : one.store.path = path)
      (here' : other.store.path = path) : (recordAll [one, other] disk).connect path =
        ((disk.connect path).insertOrReplace one.snapshot).insertOrReplace other.snapshot := by
    apply connect_recordAll
    simp [here, here']
  rw [both first second here here', both second first here' here]
  exact Table.insertOrReplace_comm _ apart

/-- A store on a path where no database was yet is a log. -/
theorem wear_history_faithful (path : String) (disk : Disk) (absent : disk path = none) :
    IsLog path disk := by
  have history (calls : List Recording) (here : ∀ call ∈ calls, call.store.path = path)
      (store : SqliteHistoryStore) (own : store.path = path) (battery : String) (n : ℕ)
      (small : n < 2 ^ 63) :
      ∃ history, (store.wearHistory (recordAll calls disk) battery n).1 = .ok history ∧
        IsHistory calls battery n history := by
    subst own
    exact ⟨_, wearHistory_eq store _ battery small, history_of_log here absent battery n⟩
  refine ⟨?_, history, run_run, ?_, ?_⟩
  · intro call disk
    rw [call.run_eq]
  · intro first second disk here here' apart
    exact rows_commute here here' apart disk
  · intro before after first second here apart store own battery n small
    -- both logs have reference histories, and they are the same list
    have here' : ∀ call ∈ before ++ second :: first :: after, call.store.path = path := by
      intro call member
      apply here
      exact ((List.Perm.swap first second after).append_left before).mem_iff.1 member
    obtain ⟨one, read, reference⟩ := history _ here store own battery n small
    obtain ⟨other, read', reference'⟩ := history _ here' store own battery n small
    have moved := reference.congr (recordedDays_swap first second before after battery)
      (lastSnapshot_swap apart before after battery)
    rw [read, read', moved.unique reference']

/-- A new database in a directory without one. -/
theorem wear_history_new : IsLog "history.db" (fun _ => none) :=
  wear_history_faithful "history.db" (fun _ => none) rfl

/-- A limit that SQLite cannot hold raises, whatever was recorded. -/
theorem huge_limit_raises (store : SqliteHistoryStore) (disk : Disk) (battery : String) {n : ℕ}
    (huge : 2 ^ 63 ≤ n) : (store.wearHistory disk battery n).1 =
      .error (.foreign "OverflowError" "Python int too large to convert to SQLite INTEGER") := by
  have unfit : ¬ FitsInteger n := by
    rintro ⟨-, less⟩
    omega
  simp only [SqliteHistoryStore.wearHistory, bindInteger, if_neg unfit]
  rfl

/-! ### Names -/

section Names

variable (store : SqliteHistoryStore) (disk : Disk)

theorem bindText_text (name : String) :
    bindText (name.toList.map CodePoint.ofChar) = .ok name := by
  rw [bindText, mapM_char?_text]
  exact congrArg Except.ok String.ofList_toList

/-- A name that UTF-8 can encode is recorded as itself. -/
theorem recordNamed_text (name : String) (snapshot : WearSnapshot) :
    store.recordNamed disk (name.toList.map CodePoint.ofChar) snapshot =
      store.recordWear disk { snapshot with batteryName := name } := by
  rw [SqliteHistoryStore.recordNamed, bindText_text]

theorem historyNamed_text (name : String) (limit : Int) :
    store.historyNamed disk (name.toList.map CodePoint.ofChar) limit =
      store.wearHistory disk name limit := by
  rw [SqliteHistoryStore.historyNamed, bindText_text]

/-- Of any other name neither is anything recorded nor a history read. -/
theorem surrogate_raises {name : List CodePoint} (surrogate : name.mapM CodePoint.char? = none)
    (snapshot : WearSnapshot) (limit : Int) :
    (store.recordNamed disk name snapshot).1 =
        .error (.foreign "UnicodeEncodeError" "surrogates not allowed") ∧
      ((store.recordNamed disk name snapshot).2.connect store.path).rows =
        (disk.connect store.path).rows ∧
      (store.historyNamed disk name limit).1 =
        .error (.foreign "UnicodeEncodeError" "surrogates not allowed") := by
  have unbound :
      bindText name = .error (.foreign "UnicodeEncodeError" "surrogates not allowed") := by
    rw [bindText, surrogate]
  simp only [SqliteHistoryStore.recordNamed, SqliteHistoryStore.historyNamed, unbound]
  simp [Disk.connect]

end Names

/-- `BAT\xe9`, as Python reads this name from a directory. -/
def latinName : List CodePoint :=
  "BAT".toList.map CodePoint.ofChar ++ [0xDCE9]

/-- So not every limit is answered, even where nothing was recorded, and not every battery is
recorded. -/
theorem not_every_call_answered :
    (¬ ∀ (calls : List Recording), (∀ call ∈ calls, call.store.path = "history.db") →
      ∀ (battery : String) (n : ℕ),
        ∃ history, (SqliteHistoryStore.wearHistory ⟨"history.db"⟩
          (recordAll calls fun _ => none) battery n).1 = .ok history ∧
            IsHistory calls battery n history) ∧
      (SqliteHistoryStore.recordNamed ⟨"history.db"⟩ (fun _ => none) latinName
        (snapshotFromWear ⟨2026, 7, 1, by decide, by decide, by decide⟩ { name := "" })).1 =
          .error (.foreign "UnicodeEncodeError" "surrogates not allowed") := by
  refine ⟨fun answered => ?_, (surrogate_raises _ _ (by decide) _ 365).1⟩
  obtain ⟨history, read, -⟩ := answered [] (fun _ member => (nomatch member)) "BAT0" (2 ^ 63)
  rw [huge_limit_raises _ _ _ le_rfl] at read
  cases read

end Lapcare.Platform
