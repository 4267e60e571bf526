import Lapcare.Pages.BatterySystem
import Lapcare.Providers.SystemFiles

/-!
# What the charts of the battery page show

Several gathers record and read in any order. Each card keeps the chart that its own gather
read, and that is the history of the log of recordings as it stood when this battery had
just been recorded.

## Main results

* `battery_charts_faithful` — every chart is the history of the log at some moment
* `battery_chart_ends_today` — a chart ends with the wear that its card states
-/

namespace Lapcare.Pages

open Lapcare.Core Platform Semantics Text

/-- `wear_history` without a limit of its own. -/
def historyLimit : ℕ := 365

/-- What the store said of a battery when `wear` had just been recorded, after `earlier`. -/
def ShownFor (earlier calls : List Recording) (wear : BatteryWear) (chart : Chart) : Prop :=
  ∃ past call history, earlier <+: past ∧ past ++ [call] <+: calls ∧ call.wear = wear ∧
    IsHistory (past ++ [call]) wear.name historyLimit history ∧ chart = knownWear history

theorem ShownFor.append {earlier calls : List Recording} {wear : BatteryWear} {chart : Chart}
    (shown : ShownFor earlier calls wear chart) (more : List Recording) :
    ShownFor earlier (calls ++ more) wear chart := by
  obtain ⟨past, call, history, since, along, own, reference, same⟩ := shown
  exact ⟨past, call, history, since, along.trans (List.prefix_append _ _), own, reference, same⟩

/-! ### One turn of the loop -/

section Turn

variable {clock : ℕ → Date} {store : SqliteHistoryStore}

/-- Where an integer does not fit, nothing is bound. -/
theorem bindNullable_of_unfit {n : Option Int} (unfit : ¬ ∀ m ∈ n.toList, FitsInteger m) :
    ∃ e, bindNullable n = .error e := by
  cases n with
  | none => exact absurd (by simp) unfit
  | some m =>
    have own : ¬ FitsInteger m := by simpa using unfit
    exact ⟨_, by rw [bindNullable, bindInteger, if_neg own]; rfl⟩

/-- A snapshot that SQLite cannot hold is not recorded. -/
theorem recordWear_of_unfit {today : Date} {wear : BatteryWear} (disk : Disk)
    (unfit : recordingOf store today wear = none) :
    ∃ e, store.recordWear disk (snapshotFromWear today wear) =
      (.error e, Function.update disk store.path (some (disk.connect store.path))) := by
  have some : ¬ ∀ n ∈ wear.cycleCount.toList ++ wear.capacityFull.toList ++
      wear.capacityDesign.toList, FitsInteger n := by
    intro fits
    rw [recordingOf, dif_pos fits] at unfit
    cases unfit
  have raised : ∃ e, bindRow (snapshotFromWear today wear) = .error e := by
    unfold bindRow
    -- the first column that does not fit raises
    by_cases cycles : ∀ n ∈ wear.cycleCount.toList, FitsInteger n
    · by_cases full : ∀ n ∈ wear.capacityFull.toList, FitsInteger n
      · have design : ¬ ∀ n ∈ wear.capacityDesign.toList, FitsInteger n := by
          intro design
          apply some
          intro n member
          rcases List.mem_append.mp member with member | member
          · rcases List.mem_append.mp member with member | member
            · exact cycles n member
            · exact full n member
          · exact design n member
        obtain ⟨e, raised⟩ := bindNullable_of_unfit design
        refine ⟨e, ?_⟩
        simp only [snapshotFromWear, bindNullable_of_fits cycles, bindNullable_of_fits full, raised]
        rfl
      · obtain ⟨e, raised⟩ := bindNullable_of_unfit full
        refine ⟨e, ?_⟩
        simp only [snapshotFromWear, bindNullable_of_fits cycles, raised]
        rfl
    · obtain ⟨e, raised⟩ := bindNullable_of_unfit cycles
      refine ⟨e, ?_⟩
      simp only [snapshotFromWear, raised]
      rfl
  obtain ⟨e, raised⟩ := raised
  exact ⟨e, by rw [SqliteHistoryStore.recordWear, raised]⟩

theorem connect_update (disk : Disk) (path : String) (table : WearTable) :
    Disk.connect (Function.update disk path (some table)) path = table := by
  simp only [Disk.connect, Function.update_self, Option.getD_some]

/-- Reading a history leaves the rows as they are. -/
theorem connect_wearHistory (disk : Disk) (battery : String) (limit : Int) :
    (store.wearHistory disk battery limit).2.connect store.path = disk.connect store.path :=
  connect_update ..

/-- A turn raises and records nothing, or it records the wear of this battery and reads the
history of it back. -/
theorem turn_cases (recorder : Recorder) (wear : BatteryWear) :
    (∃ e disk, recorder.turn clock store wear =
        (.error e, { recorder with disk := disk, readings := recorder.readings + 1 }) ∧
      disk.connect store.path = recorder.disk.connect store.path) ∨
    ∃ call disk, call.store = store ∧ call.wear = wear ∧
      call.date = clock recorder.readings ∧
      disk.connect store.path =
        (recorder.disk.connect store.path).insertOrReplace call.snapshot ∧
      recorder.turn clock store wear = (.ok (), {
        disk := disk
        readings := recorder.readings + 1
        histories := (wear.name, knownWear ((disk.connect store.path).selectDesc
          (fun row => decide (row.batteryName = wear.name)) WearSnapshot.day
          historyLimit).reverse) :: recorder.histories
        recorded := recorder.recorded ++ [call] }) := by
  cases recording : recordingOf store (clock recorder.readings) wear with
  | none =>
    obtain ⟨e, raised⟩ := recordWear_of_unfit recorder.disk recording
    refine .inl ⟨e, _, by rw [Recorder.turn, raised], ?_⟩
    exact connect_update ..
  | some call =>
    have own : call.store = store ∧ call.wear = wear ∧ call.date = clock recorder.readings ∧
        call.snapshot = snapshotFromWear (clock recorder.readings) wear := by
      unfold recordingOf at recording
      split_ifs at recording
      cases recording
      exact ⟨rfl, rfl, rfl, rfl⟩
    obtain ⟨here, worn, dated, snapshot⟩ := own
    have recorded := call.run_eq recorder.disk
    rw [Recording.run, snapshot, here] at recorded
    let disk : Disk := Function.update recorder.disk store.path
      (some ((recorder.disk.connect store.path).insertOrReplace call.snapshot))
    have table : disk.connect store.path =
        (recorder.disk.connect store.path).insertOrReplace call.snapshot := connect_update ..
    have small : historyLimit < 2 ^ 63 := by decide
    have read : store.wearHistory disk wear.name = (.ok ((disk.connect store.path).selectDesc
        (fun row => decide (row.batteryName = wear.name)) WearSnapshot.day
        historyLimit).reverse, (store.wearHistory disk wear.name).2) :=
      Prod.ext (wearHistory_eq store disk wear.name small) rfl
    have kept : (store.wearHistory disk wear.name).2.connect store.path =
        disk.connect store.path := connect_wearHistory ..
    refine .inr ⟨call, (store.wearHistory disk wear.name).2, here, worn, dated, ?_, ?_⟩
    · rw [kept, table]
    · rw [kept, Recorder.turn, recorded, ← snapshot]
      dsimp only
      rw [read]
      simp only [recording, Option.toList_some]

end Turn

/-! ### The whole loop -/

section Loop

variable {clock : ℕ → Date} {store : SqliteHistoryStore} {before : Disk}

/-- The recordings follow the readings of the clock. -/
structure Timed (clock : ℕ → Date) (readings : ℕ) (calls : List Recording) : Prop where
  ascends : calls.Pairwise (·.date ≤ ·.date)
  read : ∀ call ∈ calls, ∃ i < readings, call.date = clock i

theorem Timed.later {readings : ℕ} {calls : List Recording} (timed : Timed clock readings calls) :
    Timed clock (readings + 1) calls where
  ascends := timed.ascends
  read call member := by
    obtain ⟨i, earlier, dated⟩ := timed.read call member
    exact ⟨i, earlier.trans (Nat.lt_succ_self _), dated⟩

theorem Timed.concat (forward : Monotone clock) {readings : ℕ} {calls : List Recording}
    (timed : Timed clock readings calls) {call : Recording} (dated : call.date = clock readings) :
    Timed clock (readings + 1) (calls ++ [call]) where
  ascends := by
    rw [List.pairwise_append]
    refine ⟨timed.ascends, List.pairwise_singleton _ _, ?_⟩
    intro earlier member last own
    obtain rfl := List.mem_singleton.mp own
    obtain ⟨i, before, was⟩ := timed.read earlier member
    rw [was, dated]
    exact forward before.le
  read other member := by
    rcases List.mem_append.mp member with member | own
    · exact timed.later.read other member
    · obtain rfl := List.mem_singleton.mp own
      exact ⟨readings, Nat.lt_succ_self _, dated⟩

/-- `calls` is the log of what the database at the store's path holds. -/
structure LogOf (store : SqliteHistoryStore) (before disk : Disk) (calls : List Recording) :
    Prop where
  own : ∀ call ∈ calls, call.store = store
  table : disk.connect store.path = (recordAll calls before).connect store.path

theorem LogOf.of_connect {disk disk' : Disk} {calls : List Recording}
    (log : LogOf store before disk calls)
    (same : disk'.connect store.path = disk.connect store.path) :
    LogOf store before disk' calls where
  own := log.own
  table := same.trans log.table

theorem LogOf.concat {disk disk' : Disk} {calls : List Recording} {call : Recording}
    (log : LogOf store before disk calls) (here : call.store = store)
    (inserted : disk'.connect store.path =
      (disk.connect store.path).insertOrReplace call.snapshot) :
    LogOf store before disk' (calls ++ [call]) where
  own other member := by
    rcases List.mem_append.mp member with member | own
    · exact log.own other member
    · obtain rfl := List.mem_singleton.mp own
      exact here
  table := by
    have path : call.store.path = store.path := congrArg _ here
    rw [inserted, log.table, recordAll, recordAll, List.foldl_append, List.foldl_cons,
      List.foldl_nil, Recording.connect_run path]

/-- What holds of the loop after it went through `done`, when it began after `earlier`. -/
structure LoopKeeps (clock : ℕ → Date) (store : SqliteHistoryStore) (before : Disk)
    (earlier : List Recording) (done : List BatteryWear) (recorder : Recorder) : Prop where
  grown : earlier <+: recorder.recorded
  log : LogOf store before recorder.disk recorder.recorded
  timed : Monotone clock → Timed clock recorder.readings recorder.recorded
  shown : ∀ name chart, (name, chart) ∈ recorder.histories →
    ∃ wear ∈ done, wear.name = name ∧ ShownFor earlier recorder.recorded wear chart
  named : ∀ wear ∈ done, ∃ chart, (wear.name, chart) ∈ recorder.histories

variable {earlier : List Recording}

/-- A turn that raises leaves the log as it was, and one that returns extends it. -/
theorem LoopKeeps.turn (absent : before store.path = none) {done : List BatteryWear}
    {recorder : Recorder} (keeps : LoopKeeps clock store before earlier done recorder)
    (wear : BatteryWear) :
    (∃ e later, recorder.turn clock store wear = (.error e, later) ∧
        LoopKeeps clock store before earlier done later) ∨
      ∃ later, recorder.turn clock store wear = (.ok (), later) ∧
        LoopKeeps clock store before earlier (done ++ [wear]) later := by
  rcases turn_cases recorder wear with ⟨e, disk, raised, kept⟩ |
    ⟨call, disk, here, worn, dated, inserted, returned⟩
  · exact .inl ⟨e, _, raised, keeps.grown, keeps.log.of_connect kept, fun forward =>
      (keeps.timed forward).later, keeps.shown, keeps.named⟩
  · have log := keeps.log.concat here inserted
    refine .inr ⟨_, returned, keeps.grown.trans (List.prefix_append _ _), log, fun forward =>
      (keeps.timed forward).concat forward dated, ?_, ?_⟩
    · intro name chart member
      rcases List.mem_cons.mp member with own | was
      · -- the history was read when this battery had just been recorded
        obtain ⟨rfl, rfl⟩ := Prod.mk.inj own
        refine ⟨wear, by simp, rfl, recorder.recorded, call, _, keeps.grown, List.prefix_rfl, worn,
          ?_, rfl⟩
        rw [log.table]
        exact history_of_log (fun other member => congrArg _ (log.own other member)) absent
          wear.name historyLimit
      · obtain ⟨other, member, own, shown⟩ := keeps.shown name chart was
        exact ⟨other, List.mem_append_left _ member, own, shown.append _⟩
    · intro other member
      rcases List.mem_append.mp member with member | own
      · obtain ⟨chart, assigned⟩ := keeps.named other member
        exact ⟨chart, List.mem_cons_of_mem _ assigned⟩
      · obtain rfl := List.mem_singleton.mp own
        exact ⟨_, List.mem_cons_self⟩

/-- By induction on the batteries that are left. -/
theorem LoopKeeps.loop (absent : before store.path = none) {done : List BatteryWear}
    {recorder : Recorder} (keeps : LoopKeeps clock store before earlier done recorder)
    (rest : List BatteryWear) :
    ∃ reached, LoopKeeps clock store before earlier reached (recorder.loop clock store rest).2 ∧
      ((recorder.loop clock store rest).1 = .ok () → reached = done ++ rest) := by
  induction rest generalizing done recorder with
  | nil => exact ⟨done, keeps, fun _ => (List.append_nil done).symm⟩
  | cons wear rest ih =>
    rcases keeps.turn absent wear with ⟨e, later, raised, kept⟩ | ⟨later, returned, kept⟩
    · rw [Recorder.loop, raised]
      refine ⟨done, kept, fun returned => ?_⟩
      cases returned
    · rw [Recorder.loop, returned]
      obtain ⟨reached, keepsOn, whole⟩ := ih kept
      refine ⟨reached, keepsOn, fun done => ?_⟩
      rw [whole done, List.append_assoc, List.singleton_append]

end Loop

/-! ### The whole page -/

/-- Every battery of the data has a chart that some battery of its name was shown for, when the
gather had recorded it. -/
def DataShown (earlier calls : List Recording) (data : BatteryData) : Prop :=
  ∀ wear ∈ data.wearList, ∃ other ∈ data.wearList, other.name = wear.name ∧
    ShownFor earlier calls other (data.historyOf wear.name)

namespace BatterySystem

section Faithful

variable (clock : ℕ → Date) (store : SqliteHistoryStore) (disk : Disk)

/-- In the run along `events`, the gather of `data` had its status answered at `asked`, recorded
the batteries and ended, which left the page at `ended`. -/
structure Brought (events : List BatteryEvent) (asked ended : BatterySystem) (data : BatteryData) :
    Prop where
  along : ∃ front position answer back, events = front ++ .statusRead position answer :: back ∧
    runFrom (step clock store) (opened disk) front = some asked ∧
    asked.step clock store (.statusRead position answer) = some ended
  last : ended.ended = asked.ended ++ [.ok data]

/-- The data comes from a gather of this run, which shows what it recorded. -/
def GatheredIn (events : List BatteryEvent) (system : BatterySystem) (data : BatteryData) : Prop :=
  ∃ asked ended, Brought clock store disk events asked ended data ∧
    ended.recorded <+: system.recorded ∧ DataShown asked.recorded ended.recorded data

/-- What every state of the page keeps, if every wear list that was read is admitted. -/
structure Faithful (admits : List BatteryWear → Prop) (events : List BatteryEvent)
    (system : BatterySystem) : Prop where
  log : LogOf store disk system.disk system.recorded
  timed : Monotone clock → Timed clock system.readings system.recorded
  waiting : ∀ wearList ∈ system.waiting, admits wearList
  ended : ∀ data, .ok data ∈ system.ended →
    admits data.wearList ∧ GatheredIn clock store disk events system data
  cards : ∀ card ∈ system.vm.cards, ∃ data, card ∈ data.wearList.map data.card ∧
    admits data.wearList ∧ GatheredIn clock store disk events system data

end Faithful

/-- An event that reads an admitted wear list, or none. -/
def ReadsAdmitted (admits : List BatteryWear → Prop) : BatteryEvent → Prop
  | .wearRead (.ok wearList) => admits wearList
  | _ => True

variable {clock : ℕ → Date} {store : SqliteHistoryStore} {disk : Disk}
  {admits : List BatteryWear → Prop} {system later : BatterySystem} {events : List BatteryEvent}

theorem GatheredIn.step {data : BatteryData}
    (gathered : GatheredIn clock store disk events system data)
    (event : BatteryEvent) (grown : system.recorded <+: later.recorded) :
    GatheredIn clock store disk (events ++ [event]) later data := by
  obtain ⟨asked, ended, ⟨⟨front, position, answer, back, rfl, reached, taken⟩, last⟩, kept,
    shown⟩ := gathered
  refine ⟨asked, ended, ⟨⟨front, position, answer, back ++ [event], ?_, reached, taken⟩, last⟩,
    kept.trans grown, shown⟩
  rw [List.append_assoc, List.cons_append]

theorem faithful_opened : Faithful clock store disk admits [] (opened disk) where
  log := ⟨fun _ member => absurd member List.not_mem_nil, rfl⟩
  timed _ := ⟨.nil, fun _ member => absurd member List.not_mem_nil⟩
  waiting _ member := absurd member List.not_mem_nil
  ended _ member := absurd member List.not_mem_nil
  cards _ member := absurd member List.not_mem_nil

/-- The lookup of a name finds an assignment to it. -/
theorem lookup_mem {histories : List (String × Chart)} {name : String} {chart : Chart}
    (assigned : (name, chart) ∈ histories) :
    (name, (histories.lookup name).getD []) ∈ histories := by
  cases found : histories.lookup name with
  | none =>
    have missing := List.lookup_eq_none_iff.mp found (name, chart) assigned
    simp at missing
  | some other =>
    obtain ⟨front, back, rfl, -⟩ := List.lookup_eq_some_iff.mp found
    simp

/-- A gather that finishes extends the log, and its data is shown. -/
theorem finish_spec (system : BatterySystem) (absent : disk store.path = none)
    (log : LogOf store disk system.disk system.recorded)
    (timed : Monotone clock → Timed clock system.readings system.recorded)
    (wearList : List BatteryWear) (status : Except PyException (Option (List BatteryStatus)))
    (finished : system.finish clock store wearList status = later) :
    system.recorded <+: later.recorded ∧ LogOf store disk later.disk later.recorded ∧
      (Monotone clock → Timed clock later.readings later.recorded) ∧
      ((∃ e, later.ended = system.ended ++ [.error e]) ∨
        ∃ data, later.ended = system.ended ++ [.ok data] ∧ data.wearList = wearList ∧
          DataShown system.recorded later.recorded data) := by
  subst finished
  cases status with
  | error e => exact ⟨List.prefix_rfl, log, timed, .inl ⟨e, rfl⟩⟩
  | ok statusList =>
    let start : Recorder :=
      { disk := system.disk, readings := system.readings, recorded := system.recorded }
    have initial : LoopKeeps clock store disk system.recorded [] start :=
      ⟨List.prefix_rfl, log, timed, fun _ _ member => absurd member List.not_mem_nil,
        fun _ member => absurd member List.not_mem_nil⟩
    obtain ⟨reached, keeps, whole⟩ := initial.loop absent wearList
    refine ⟨keeps.grown, keeps.log, keeps.timed, ?_⟩
    cases done : (start.loop clock store wearList).1 with
    | error e =>
      refine .inl ⟨e, ?_⟩
      change system.ended ++ [(start.loop clock store wearList).1.map _] = _
      rw [done]
      rfl
    | ok =>
      have all : reached = wearList := whole done
      rw [all] at keeps
      let histories := (start.loop clock store wearList).2.histories
      refine .inr ⟨{ wearList, statusList, histories }, ?_, rfl, fun wear member => ?_⟩
      · change system.ended ++ [(start.loop clock store wearList).1.map _] = _
        rw [done]
        rfl
      · obtain ⟨chart, assigned⟩ := keeps.named wear member
        exact keeps.shown _ _ (lookup_mem assigned)

section Earlier

variable (faithful : Faithful clock store disk admits events system) (event : BatteryEvent)
  (grown : system.recorded <+: later.recorded)

include faithful grown

/-- What ended before a step is still of a gather of the run. -/
theorem Faithful.ended_before {data : BatteryData} (member : .ok data ∈ system.ended) :
    admits data.wearList ∧ GatheredIn clock store disk (events ++ [event]) later data :=
  (faithful.ended data member).imp_right (GatheredIn.step · event grown)

/-- So is what the page showed. -/
theorem Faithful.card_before {card : BatteryCard} (member : card ∈ system.vm.cards) :
    ∃ data, card ∈ data.wearList.map data.card ∧ admits data.wearList ∧
      GatheredIn clock store disk (events ++ [event]) later data := by
  obtain ⟨data, listed, admitted, gathered⟩ := faithful.cards card member
  exact ⟨data, listed, admitted, gathered.step event grown⟩

end Earlier

/-- A step that touches neither the databases nor a gather that has its wear list. -/
theorem Faithful.of_same (faithful : Faithful clock store disk admits events system)
    (event : BatteryEvent)
    (databases : later.disk = system.disk ∧ later.readings = system.readings ∧
      later.recorded = system.recorded)
    (gathers : later.waiting = system.waiting ∧ later.ended = system.ended)
    (cards : later.vm.cards = system.vm.cards) :
    Faithful clock store disk admits (events ++ [event]) later := by
  obtain ⟨disk, readings, recorded⟩ := databases
  obtain ⟨waiting, ended⟩ := gathers
  have grown : system.recorded <+: later.recorded := recorded ▸ List.prefix_rfl
  refine ⟨?_, ?_, ?_, fun data member => ?_, fun card member => ?_⟩
  · rw [disk, recorded]
    exact faithful.log
  · rw [readings, recorded]
    exact faithful.timed
  · rw [waiting]
    exact faithful.waiting
  · rw [ended] at member
    exact faithful.ended_before event grown member
  · rw [cards] at member
    exact faithful.card_before event grown member

theorem complete_cards (vm : BatteryViewModel) (outcome : Except PyException BatteryData) :
    (vm.complete outcome).cards = vm.cards ∨
      ∃ data, outcome = .ok data ∧ (vm.complete outcome).cards = data.wearList.map data.card := by
  cases outcome with
  | error e => exact .inl rfl
  | ok data =>
    unfold BatteryViewModel.complete BatteryViewModel.apply
    dsimp only
    by_cases nothing : data.wearList = []
    · rw [if_pos nothing]
      exact .inl rfl
    · rw [if_neg nothing]
      exact .inr ⟨data, rfl, rfl⟩

theorem Faithful.step (absent : disk store.path = none)
    (reached : runFrom (step clock store) (opened disk) events = some system) {event : BatteryEvent}
    (reads : ReadsAdmitted admits event)
    (faithful : Faithful clock store disk admits events system)
    (taken : system.step clock store event = some later) :
    Faithful clock store disk admits (events ++ [event]) later := by
  cases event with
  | load =>
    obtain rfl := Option.some.inj taken
    exact faithful.of_same _ ⟨rfl, rfl, rfl⟩ ⟨rfl, rfl⟩ rfl
  | statusChanged =>
    obtain rfl := Option.some.inj taken
    unfold BatteryViewModel.onStatusChanged
    split_ifs <;> exact faithful.of_same _ ⟨rfl, rfl, rfl⟩ ⟨rfl, rfl⟩ rfl
  | timerFired =>
    obtain ⟨-, rfl⟩ := step_timerFired_iff.mp taken
    exact faithful.of_same _ ⟨rfl, rfl, rfl⟩ ⟨rfl, rfl⟩ rfl
  | wearRead answer =>
    obtain ⟨-, ⟨e, rfl, rfl⟩ | ⟨wearList, rfl, rfl⟩⟩ := step_wearRead_iff.mp taken
    · refine ⟨faithful.log, faithful.timed, faithful.waiting, fun data member => ?_,
        fun card member => faithful.card_before _ List.prefix_rfl member⟩
      exact faithful.ended_before _ List.prefix_rfl (by simpa using member)
    · refine ⟨faithful.log, faithful.timed, fun other member => ?_,
        fun data member => faithful.ended_before _ List.prefix_rfl member,
        fun card member => faithful.card_before _ List.prefix_rfl member⟩
      rcases List.mem_append.mp member with member | own
      · exact faithful.waiting other member
      · obtain rfl := List.mem_singleton.mp own
        exact reads
  | statusRead position answer =>
    obtain ⟨wearList, found, finished⟩ := step_statusRead_iff.mp taken
    have own := faithful.waiting wearList (List.mem_of_getElem? found)
    obtain ⟨grown, log, timed, outcome⟩ := finish_spec
      { system with waiting := system.waiting.eraseIdx position } absent faithful.log
      faithful.timed wearList (statusOrNone answer) finished
    change system.recorded <+: later.recorded at grown
    refine ⟨log, timed, fun other member => ?_, fun data member => ?_, fun card member => ?_⟩
    · have same : later.waiting = system.waiting.eraseIdx position := by
        subst finished
        cases statusOrNone answer <;> rfl
      exact faithful.waiting other (List.mem_of_mem_eraseIdx (same ▸ member))
    · rcases outcome with ⟨e, ended⟩ | ⟨brought, ended, same, shown⟩
      · rw [ended, List.mem_append] at member
        exact faithful.ended_before _ grown (by simpa using member)
      · rcases List.mem_append.mp (ended ▸ member) with member | new
        · exact faithful.ended_before _ grown member
        · -- the data of this gather
          obtain rfl := Except.ok.inj (List.mem_singleton.mp new)
          refine ⟨same ▸ own, system, later, ⟨?_, ended⟩, List.prefix_rfl, shown⟩
          exact ⟨events, position, answer, [], rfl, reached, taken⟩
    · have same : later.vm = system.vm := by
        subst finished
        cases statusOrNone answer <;> rfl
      exact faithful.card_before _ grown (same ▸ member)
  | callback position =>
    obtain ⟨outcome, found, rfl⟩ := step_callback_iff.mp taken
    refine ⟨faithful.log, faithful.timed, faithful.waiting, fun data member => ?_,
      fun card member => ?_⟩
    · exact faithful.ended_before _ List.prefix_rfl (List.mem_of_mem_eraseIdx member)
    · rcases complete_cards system.vm outcome with same | ⟨data, rfl, cards⟩
      · exact faithful.card_before _ List.prefix_rfl (same ▸ member)
      · -- the cards are those of the data that this gather brought home
        obtain ⟨admitted, gathered⟩ :=
          faithful.ended_before (.callback position) List.prefix_rfl (List.mem_of_getElem? found)
        exact ⟨data, cards ▸ member, admitted, gathered⟩

theorem faithful_of_run (absent : disk store.path = none)
    (reads : ∀ event ∈ events, ReadsAdmitted admits event)
    (ran : runFrom (step clock store) (opened disk) events = some system) :
    Faithful clock store disk admits events system :=
  invariant_along (fun _ _ _ _ reached admitted faithful taken =>
    Faithful.step absent reached admitted faithful taken) faithful_opened reads ran

/-- A card with the recording of its battery, which its gather made between two states of the
page: the card states the wear that was recorded, and its chart is the history as it was read
just after. -/
structure Recorded (asked ended : BatterySystem) (data : BatteryData) (past : List Recording)
    (call : Recording) (card : BatteryCard) : Prop where
  made : asked.recorded <+: past ∧ past ++ [call] <+: ended.recorded
  listed : call.wear ∈ data.wearList
  name : call.wear.name = card.name
  chart : ∃ history, IsHistory (past ++ [call]) card.name historyLimit history ∧
    card.history = knownWear history

/-- The chart of a card was read when a battery of its name had just been recorded. -/
theorem recorded_of_gathered {data : BatteryData} {card : BatteryCard}
    (listed : card ∈ data.wearList.map data.card)
    (gathered : GatheredIn clock store disk events system data) :
    ∃ asked ended past call, Brought clock store disk events asked ended data ∧
      ended.recorded <+: system.recorded ∧ Recorded asked ended data past call card := by
  obtain ⟨wear, member, rfl⟩ := List.mem_map.mp listed
  obtain ⟨asked, ended, brought, kept, shown⟩ := gathered
  obtain ⟨other, own, named, past, call, history, since, along, rfl, reference, same⟩ :=
    shown wear member
  have texts : (data.card wear).name = wear.name ∧
      (data.card wear).history = data.historyOf wear.name := by
    unfold BatteryData.card
    cases data.statusOf wear.name <;> exact ⟨rfl, rfl⟩
  rw [named] at reference
  exact ⟨asked, ended, past, call, brought, kept, ⟨since, along⟩, own, named.trans texts.1.symm,
    history, texts.1 ▸ reference, texts.2.trans same⟩

/-- A chart is the known wear of the history that the log had, when a battery of its name had
just been recorded. -/
theorem chart_of_run (absent : disk store.path = none)
    (ran : runFrom (step clock store) (opened disk) events = some system) :
    LogOf store disk system.disk system.recorded ∧
      ∀ card ∈ system.vm.cards, ∃ past call history, past ++ [call] <+: system.recorded ∧
        call.wear.name = card.name ∧
        IsHistory (past ++ [call]) card.name historyLimit history ∧
        card.history = knownWear history := by
  have reads : ∀ event ∈ events, ReadsAdmitted (fun _ => True) event := by
    intro event member
    unfold ReadsAdmitted
    split <;> trivial
  have faithful := faithful_of_run absent reads ran
  refine ⟨faithful.log, fun card member => ?_⟩
  obtain ⟨data, listed, -, gathered⟩ := faithful.cards card member
  obtain ⟨asked, ended, past, call, -, kept, recorded⟩ := recorded_of_gathered listed gathered
  obtain ⟨history, reference, same⟩ := recorded.chart
  exact ⟨past, call, history, recorded.made.2.trans kept, recorded.name, reference, same⟩

/-- Whatever gathers overlap, the database holds the log of what was recorded, and the chart
of a card is the known wear of its battery's history, as the log had it when this battery had
just been recorded. -/
theorem battery_charts_faithful (clock : ℕ → Date) (store : SqliteHistoryStore) (disk : Disk)
    (absent : disk store.path = none) (events : List BatteryEvent) (system : BatterySystem)
    (ran : runFrom (step clock store) (opened disk) events = some system) :
    LogOf store disk system.disk system.recorded ∧
      ∀ card ∈ system.vm.cards, ∃ past call history, past ++ [call] <+: system.recorded ∧
        call.wear.name = card.name ∧
        IsHistory (past ++ [call]) card.name historyLimit history ∧
        card.history = knownWear history :=
  chart_of_run absent ran

end BatterySystem

/-! ### The last point of a chart -/

/-- The greatest member of an ascending list is its last. -/
theorem getLast?_eq_of_ascends {α : Type} [LinearOrder α] {values : List α}
    (ascends : values.Pairwise (· < ·)) {greatest : α} (member : greatest ∈ values)
    (bound : ∀ value ∈ values, value ≤ greatest) : values.getLast? = some greatest := by
  obtain ⟨front, back, rfl⟩ := List.append_of_mem member
  -- nothing that follows can be greater
  have nothing : back = [] := by
    rw [List.eq_nil_iff_forall_not_mem]
    intro value behind
    have later := (List.pairwise_cons.mp (List.pairwise_append.mp ascends).2.1).1 value behind
    exact absurd (bound value (by simp [behind])) (not_le.mpr later)
  rw [nothing]
  simp

/-- A recording that is not older than the others of its battery ends the history. -/
theorem getLast?_of_newest {past : List Recording} {call : Recording} {n : ℕ}
    {history : List WearSnapshot} (reference : IsHistory (past ++ [call]) call.wear.name n history)
    (some_days : 0 < n) (newest : ∀ other ∈ past, other.date ≤ call.date) :
    history.getLast? = some call.snapshot := by
  let days := (recordedDays (past ++ [call]) call.wear.name).sort
  have ascends : days.Pairwise (· < ·) :=
    (recordedDays (past ++ [call]) call.wear.name).sortedLT_sort.pairwise
  have last : days.getLast? = some call.date := by
    apply getLast?_eq_of_ascends ascends
    · rw [Finset.mem_sort, mem_recordedDays_iff]
      exact ⟨call, by simp, rfl, rfl⟩
    · intro date member
      rw [Finset.mem_sort, mem_recordedDays_iff] at member
      obtain ⟨other, listed, rfl, -⟩ := member
      rcases List.mem_append.mp listed with earlier | own
      · exact newest other earlier
      · rw [List.mem_singleton.mp own]
  have latest : (latestDays (past ++ [call]) call.wear.name n).getLast? = some call.date := by
    have filled : days ≠ [] := by
      intro empty
      rw [empty] at last
      cases last
    have length := List.length_pos_iff.mpr filled
    change (days.drop (days.length - n)).getLast? = _
    rw [List.getLast?_drop, if_neg (by omega), last]
  have own : lastSnapshot (past ++ [call]) call.wear.name call.date = some call.snapshot := by
    rw [lastSnapshot, List.reverse_append, List.reverse_singleton, List.singleton_append,
      List.find?_cons_of_pos (by simp)]
    rfl
  have ends := congrArg List.getLast? reference.latest
  rw [List.getLast?_map, List.getLast?_map, latest, Option.map_some, own] at ends
  obtain ⟨row, found, same⟩ := Option.map_eq_some_iff.mp ends
  rw [found, Option.some.inj same]

/-- The days of a chart ascend. -/
theorem knownWear_ascends {calls : List Recording} {battery : String} {n : ℕ}
    {history : List WearSnapshot} (reference : IsHistory calls battery n history) :
    ((knownWear history).map (·.1)).Pairwise (· < ·) := by
  have rows := List.pairwise_map.mp reference.ascends
  rw [List.pairwise_map, knownWear]
  refine List.Pairwise.filterMap _ (fun row row' less point known point' known' => ?_) rows
  obtain ⟨wear, -, rfl⟩ := Option.map_eq_some_iff.mp known
  obtain ⟨wear', -, rfl⟩ := Option.map_eq_some_iff.mp known'
  exact less

theorem wearPercent_nonneg {full design : Option Int} {wear : ℚ}
    (known : wearPercent full design = some wear) : 0 ≤ wear := by
  unfold wearPercent at known
  split at known
  · split_ifs at known
    obtain rfl := Option.some.inj known
    exact le_max_right _ _
  · cases known

/-- What was recorded is clamped at zero. -/
theorem knownWear_nonneg {calls : List Recording} {battery : String} {n : ℕ}
    {history : List WearSnapshot} (reference : IsHistory calls battery n history) :
    ∀ point ∈ knownWear history, 0 ≤ point.2 := by
  intro point member
  obtain ⟨row, listed, known⟩ := List.mem_filterMap.mp member
  obtain ⟨wear, worn, rfl⟩ := Option.map_eq_some_iff.mp known
  -- the row is the snapshot of a recording
  have found : some row ∈ (latestDays calls battery n).map (lastSnapshot calls battery) := by
    rw [← reference.latest]
    exact List.mem_map_of_mem listed
  obtain ⟨date, -, last⟩ := List.mem_map.mp found
  obtain ⟨call, -, rfl⟩ := Option.map_eq_some_iff.mp last
  exact wearPercent_nonneg worn

/-- A known wear that ends a history ends its chart. -/
theorem getLast?_knownWear {history : List WearSnapshot} {row : WearSnapshot}
    (last : history.getLast? = some row) {wear : ℚ} (known : row.wearPercent = some wear) :
    (knownWear history).getLast? = some (row.day, wear) := by
  obtain ⟨front, rfl⟩ := List.getLast?_eq_some_iff.mp last
  simp [knownWear, known]

namespace BatterySystem

/-- The batteries of a list have names of their own. -/
def NamedApart (wearList : List BatteryWear) : Prop :=
  (wearList.map BatteryWear.name).Nodup

/-- So do those that sysfs lists, which have the names of their directories. -/
theorem namedApart_listBatteries (builtins : Providers.Builtins) (root : Root) :
    NamedApart (Providers.listBatteries builtins root) := by
  unfold NamedApart Providers.listBatteries
  split_ifs
  · rw [List.map_filterMap]
    refine (nodup_sortedNames root Providers.powerSupplyDir).filterMap ?_
    intro name name' shown here there
    have own {entry : String}
        (named : shown ∈ (Providers.readBattery builtins root entry).map BatteryWear.name) :
        entry = shown := by
      simp only [Providers.readBattery] at named
      split_ifs at named
      · exact Option.some.inj named
      · cases named
    rw [own here, own there]
  · exact List.nodup_nil

/-- A card states the wear that its gather recorded, and if there is one, its chart ends with
this wear on the day of the recording. -/
structure EndsWith (call : Recording) (card : BatteryCard) : Prop where
  worn : card.wearText =
    BatteryCard.wornText (wearPercent call.wear.capacityFull call.wear.capacityDesign)
  last : ∀ wear, wearPercent call.wear.capacityFull call.wear.capacityDesign = some wear →
    card.history.getLast? = some (call.date.isoformat, wear)

/-- While the clock does not go back and batteries have names of their own, every card belongs to
a gather of this run, and ends with what this gather recorded of this battery. -/
theorem battery_chart_ends_today (clock : ℕ → Date) (forward : Monotone clock)
    (store : SqliteHistoryStore) (disk : Disk) (absent : disk store.path = none)
    (events : List BatteryEvent) (apart : ∀ event ∈ events, ReadsAdmitted NamedApart event)
    (system : BatterySystem)
    (ran : runFrom (step clock store) (opened disk) events = some system) :
    ∀ card ∈ system.vm.cards, ∃ data asked ended past call,
      Brought clock store disk events asked ended data ∧ card ∈ data.wearList.map data.card ∧
      Recorded asked ended data past call card ∧ EndsWith call card := by
  intro card member
  have faithful := faithful_of_run absent apart ran
  obtain ⟨data, listed, named, gathered⟩ := faithful.cards card member
  obtain ⟨asked, ended, past, call, brought, kept, recorded⟩ :=
    recorded_of_gathered listed gathered
  refine ⟨data, asked, ended, past, call, brought, listed, recorded, ?_, fun wear known => ?_⟩
  · obtain ⟨wear, among, rfl⟩ := List.mem_map.mp listed
    -- the recording is of this battery, not of another of its name
    have texts : (data.card wear).name = wear.name ∧ (data.card wear).wearText =
        BatteryCard.wornText (wearPercent wear.capacityFull wear.capacityDesign) := by
      unfold BatteryData.card
      cases data.statusOf wear.name <;> exact ⟨rfl, rfl⟩
    have own : call.wear = wear :=
      List.inj_on_of_nodup_map named recorded.listed among (recorded.name.trans texts.1)
    rw [own, texts.2]
  · obtain ⟨history, reference, same⟩ := recorded.chart
    have along := recorded.made.2.trans kept
    have ascends := (faithful.timed forward).ascends.sublist along.sublist
    have newest : ∀ earlier ∈ past, earlier.date ≤ call.date := fun earlier listed =>
      (List.pairwise_append.mp ascends).2.2 earlier listed call (by simp)
    rw [← recorded.name] at reference
    rw [same]
    exact getLast?_knownWear (getLast?_of_newest reference (by decide) newest) known

/-- A battery that has `full` of fifty watt-hours left. -/
def wornBattery (full : Int) : BatteryWear :=
  { name := "BAT0", capacityFull := some full, capacityDesign := some 50000000 }

/-- The first reading of the clock is on the first of July, all others on the second. -/
def overnight (reading : ℕ) : Date := if reading = 0 then firstOfJuly else secondOfJuly

/-- One gather without UPower, up to its callback. -/
def oneGather (full : Int) : List BatteryEvent :=
  [.wearRead (.ok [wornBattery full]), .statusRead 0 (.error (.lapcare (.lapcareError ""))),
    .callback 0]

/-- Two gathers, between which the battery lost some of its capacity. -/
def twoGathers : List BatteryEvent := oneGather 40000000 ++ .load :: oneGather 39000000

theorem monotone_overnight : Monotone overnight := by
  refine monotone_nat_of_le_succ fun reading => ?_
  cases reading with
  | zero => exact (by decide : firstOfJuly ≤ secondOfJuly)
  | succ => exact le_refl secondOfJuly

theorem battery_charts_faithful_new :
    ∃ system, runFrom (step overnight ⟨"history.db"⟩) (opened fun _ => none)
        twoGathers = some system ∧ system.vm.cards.length = 1 ∧
      system.recorded.map (·.date) = [firstOfJuly, secondOfJuly] ∧
      LogOf ⟨"history.db"⟩ (fun _ => none) system.disk system.recorded ∧
        ∀ card ∈ system.vm.cards, ∃ past call history, past ++ [call] <+: system.recorded ∧
          call.wear.name = card.name ∧
          IsHistory (past ++ [call]) card.name historyLimit history ∧
          card.history = knownWear history :=
  ⟨_, rfl, rfl, rfl, battery_charts_faithful overnight ⟨"history.db"⟩ (fun _ => none) rfl
    twoGathers _ rfl⟩

theorem battery_chart_ends_today_new :
    ∃ system, runFrom (step overnight ⟨"history.db"⟩) (opened fun _ => none)
        twoGathers = some system ∧ system.vm.cards.length = 1 ∧
      system.recorded.map (·.date) = [firstOfJuly, secondOfJuly] ∧
      ∀ card ∈ system.vm.cards, ∃ data asked ended past call,
        Brought overnight ⟨"history.db"⟩ (fun _ => none) twoGathers asked ended data ∧
        card ∈ data.wearList.map data.card ∧ Recorded asked ended data past call card ∧
        EndsWith call card := by
  have apart : ∀ event ∈ twoGathers, ReadsAdmitted NamedApart event := by
    intro event member
    simp only [twoGathers, oneGather, List.cons_append, List.nil_append, List.mem_cons,
      List.not_mem_nil, or_false] at member
    rcases member with rfl | rfl | rfl | rfl | rfl | rfl | rfl
    all_goals first | exact List.nodup_singleton _ | trivial
  exact ⟨_, rfl, rfl, rfl, battery_chart_ends_today overnight monotone_overnight ⟨"history.db"⟩
    (fun _ => none) rfl twoGathers apart _ rfl⟩

end BatterySystem

end Lapcare.Pages
