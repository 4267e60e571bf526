import Lapcare.Core.Degradation
import Lapcare.Pages.Dashboard
import Lapcare.Pages.Storage

/-!
# The privilege rule

Reading SMART data may prompt for authorization. The two loops that do so, one in the
diagnostics run and one on the storage page, read along the device list and stop at the
first denial or missing helper. What is not asked to read storage never does.
-/

namespace Lapcare.Pages

open Lapcare.Core Semantics Semantics.Logged

/-! ### Reading along a device list -/

/-- The device that a `read_smart` call names. -/
def smartName? : ProviderCall → Option String
  | .readSmart name _ => some name
  | _ => none

/-- An answer that every further device would get as well. -/
def endsReading : ProviderCall → Prop
  | .readSmart _ (.error (.lapcare (.privilegedActionDenied _))) => True
  | .readSmart _ (.error (.lapcare (.providerUnavailable _ _ _))) => True
  | _ => False

/-- `calls` are `read_smart` calls for a prefix of `names`, in order, and none of them
follows a denial or a missing helper. -/
structure ReadsAlong (names : List String) (calls : List ProviderCall) : Prop where
  inOrder : calls.map smartName? <+: names.map some
  noneAfter : calls.Pairwise fun earlier _ => ¬ endsReading earlier

theorem readsAlong_nil (names : List String) : ReadsAlong names [] :=
  ⟨List.nil_prefix, .nil⟩

theorem endsReading_raises {name : String} {answer : Except PyException SmartReport}
    (ends : endsReading (.readSmart name answer)) : ∃ e, answer = .error e := by
  rcases answer with e | report
  · exact ⟨e, rfl⟩
  · exact ends.elim

/-- Every listed device has at most its own call. -/
theorem oneCall_readSmart (provider : StorageProvider) :
    OneCall some smartName? endsReading fun name => provider.readSmart name :=
  fun _ _ => ⟨_, rfl, rfl, endsReading_raises⟩

/-! ### The loop of the diagnostics run -/

/-- The devices that an answer of `list_devices` names. -/
def listedNames : Except PyException (List StorageDevice) → List String
  | .ok devices => devices.map (·.name)
  | .error _ => []

/-- Either no storage call at all, or one listing and then reads along it. -/
def Disciplined (calls : List ProviderCall) : Prop :=
  calls = [] ∨ ∃ answer reads, calls = .listDevices answer :: reads ∧
    ReadsAlong (listedNames answer) reads

/-- The reads of a run follow the listing they were made for. -/
theorem traces_readReports (provider : StorageProvider) :
    Traces (fun _ calls => Disciplined calls) (readReports provider) := by
  have listed : Traces (fun outcome calls => calls = [.listDevices outcome])
      provider.listDevices :=
    traces_perform fun _ => rfl
  have read (devices : List StorageDevice) :
      Traces (fun _ calls => ReadsAlong (devices.map (·.name)) calls)
        (devices.mapM fun device => provider.readSmart device.name) := by
    intro log
    have one : OneCall (fun device : StorageDevice => some device.name) smartName? endsReading
        fun device => provider.readSmart device.name :=
      fun device log => oneCall_readSmart provider device.name log
    obtain ⟨entries, appended, names, noneAfter⟩ := one.mapM devices log
    refine ⟨entries, appended, ?_, noneAfter⟩
    rw [List.map_map]
    exact names
  refine listed.bind read (fun e calls started => ?_) fun devices _ calls reads started along => ?_
  · exact .inr ⟨.error e, [], started, readsAlong_nil _⟩
  · refine .inr ⟨.ok devices, reads, ?_, along⟩
    rw [started, List.singleton_append]

theorem traces_gatherReports (includeStorageHealth : Bool) (provider : StorageProvider) :
    Traces (fun _ calls => Disciplined calls)
      (gatherReports includeStorageHealth (some provider)) := by
  cases includeStorageHealth with
  | false => exact traces_pure (.inl rfl)
  | true =>
    have read : Traces (fun _ calls => Disciplined calls)
        ((fun reports => (some reports, "not-requested")) <$> readReports provider) :=
      (traces_readReports provider).map fun _ _ along => along
    refine read.tryCatch (fun _ _ along => along) fun e calls along => ?_
    -- no `except` arm calls the provider again
    rcases e with error | ⟨className, detail⟩
    · cases error <;> exact traces_pure ⟨rfl, along⟩
    · exact fun log => ⟨[], by simp, rfl, along⟩

/-! ### The run -/

/-- The storage calls among `calls`. -/
def storageCalls (calls : List ProviderCall) : List ProviderCall :=
  calls.filter (·.from? .storage)

theorem storageCalls_eq_self {calls : List ProviderCall} (along : Disciplined calls) :
    storageCalls calls = calls := by
  rw [storageCalls, List.filter_eq_self]
  rcases along with rfl | ⟨answer, reads, rfl, along⟩
  · exact fun _ member => nomatch member
  · intro call member
    rw [ProviderCall.from?_eq_true_iff]
    rcases List.mem_cons.mp member with rfl | member
    · rfl
    · -- a read has a name, and only `read_smart` calls do
      have named : smartName? call ∈ (listedNames answer).map some :=
        along.inOrder.subset (List.mem_map_of_mem member)
      obtain ⟨name, -, same⟩ := List.mem_map.mp named
      cases call <;> first | rfl | exact nomatch same

/-- The computation makes no storage call. -/
def Silent {α : Type} (m : Gather α) : Prop :=
  Logs (fun call => call.source ≠ .storage) m

theorem silent_of_block {α : Type} {source : Source} {m : Gather α} (block : Block source m)
    (other : source ≠ .storage) : Silent m :=
  block.logs.mono fun _ here same => other (here.symm.trans same)

theorem Silent.traces {α : Type} {m : Gather α} (silent : Silent m) :
    Traces (fun _ calls => storageCalls calls = []) m := by
  refine Logs.traces silent |>.mono fun _ calls others => ?_
  rw [storageCalls, List.filter_eq_nil_iff]
  intro call member
  rw [ProviderCall.from?_eq_true_iff]
  exact others call member

/-- What follows the storage block of a run. -/
theorem silent_rest (sources : Sources) (wears : Option (List BatteryWear))
    (gathered : Option (List SmartReport) × String) :
    Silent (do
      let pending ← gatherPending sources.firmware
      let temps ← gatherTemps sources.thermal
      let usages ← gatherUsages sources.disk
      return (⟨wears, gathered.1, gathered.2, pending, temps, usages⟩ : Inputs)) := by
  have pending := silent_of_block (block_gatherPending sources.firmware) (by decide)
  have temps := silent_of_block (block_gatherTemps sources.thermal) (by decide)
  have usages := silent_of_block (block_gatherUsages sources.disk) (by decide)
  exact pending.bind fun _ => temps.bind fun _ => usages.bind fun _ => logs_pure _

/-- A run that may not read storage makes no storage call. -/
theorem silent_run (sources : Sources) (includeStorageHealth : Bool)
    (unasked : gatherReports includeStorageHealth sources.storage =
      pure (none, "not-requested")) :
    Silent (run sources includeStorageHealth) := by
  have wears := silent_of_block (block_gatherWears sources.batteryWear) (by decide)
  have reports : Silent (gatherReports includeStorageHealth sources.storage) := by
    rw [unasked]
    exact logs_pure _
  exact (wears.bind fun _ => reports.bind fun _ => silent_rest sources _ _).map _

/-- In a run that may read storage, only the storage block calls its provider. -/
theorem traces_run (sources : Sources) (provider : StorageProvider) :
    Traces (fun _ calls => Disciplined (storageCalls calls))
      (run { sources with storage := some provider } true) := by
  have wears := (silent_of_block (block_gatherWears sources.batteryWear) (by decide)).traces
  have reports := traces_gatherReports true provider
  have gathered : Traces (fun _ calls => Disciplined (storageCalls calls))
      (gatherInputs { sources with storage := some provider } true) := by
    refine wears.bind
      (fun kept => reports.bind (r := fun _ calls => Disciplined (storageCalls calls))
        (fun found => (silent_rest sources kept found).traces) ?_ ?_) ?_ ?_
    · intro e calls along
      rwa [storageCalls_eq_self along]
    · intro found outcome calls more along nothing
      rw [storageCalls, List.filter_append]
      change Disciplined (storageCalls calls ++ storageCalls more)
      rw [nothing, List.append_nil, storageCalls_eq_self along]
      exact along
    · exact fun _ _ nothing => .inl nothing
    · intro kept outcome calls more nothing along
      rw [storageCalls, List.filter_append]
      change Disciplined (storageCalls calls ++ storageCalls more)
      rw [nothing, List.nil_append]
      exact along
  exact gathered.map fun _ _ along => along

/-! ### The loop of the storage page -/

/-- What ends the reading makes its turn raise. -/
theorem turnOutcome_raises {name : String} {answer : Except PyException SmartReport}
    (ends : endsReading (.readSmart name answer)) :
    ∃ e, StorageViewModel.turnOutcome name answer = .error e := by
  rcases answer with e | report
  · rcases e with error | ⟨className, detail⟩
    · cases error with
      | privilegedActionDenied | providerUnavailable => exact ⟨_, rfl⟩
      | lapcareError | providerTimeout | providerParseError | firmwareInstallFailed =>
        exact False.elim ends
    · exact False.elim ends
  · exact False.elim ends

theorem oneCall_gatherOne (provider : StorageProvider) :
    OneCall some smartName? endsReading (StorageViewModel.gatherOne provider) := by
  intro name log
  rw [StorageViewModel.exec_gatherOne]
  exact ⟨_, rfl, rfl, turnOutcome_raises⟩

/-- A health action reads along the cards. -/
theorem traces_completeHealth (vm : StorageViewModel) (provider : StorageProvider) :
    Traces (fun _ calls => ReadsAlong (vm.cards.map (·.name)) calls)
      (vm.completeHealth provider) := by
  unfold StorageViewModel.completeHealth StorageViewModel.readHealth
  split_ifs with idle
  · exact traces_pure (readsAlong_nil _)
  · have gather : Traces (fun _ calls => ReadsAlong (vm.cards.map (·.name)) calls)
        (StorageViewModel.gatherHealth provider (vm.cards.map (·.name))) := by
      intro log
      obtain ⟨entries, appended, names, noneAfter⟩ :=
        (oneCall_gatherOne provider).mapM (vm.cards.map (·.name)) log
      exact ⟨entries, appended, names, noneAfter⟩
    refine Traces.tryCatch (q := fun _ calls => ReadsAlong (vm.cards.map (·.name)) calls)
      (gather.map fun _ _ along => along) (fun _ _ along => along) fun e calls along => ?_
    exact traces_pure ⟨rfl, along⟩

/-! ### The rule -/

/-- No unsolicited prompt and no prompt storm: a run without storage, or without the
request to include it, makes no storage call, and the dashboard's is one. A run with it
makes one listing and reads along it, and a health action on a page with any history
reads along the inventory that the page shows. -/
theorem privilege_rule :
    (∀ sources : Sources, ∀ includeStorageHealth,
      Traces (fun _ calls => storageCalls calls = [])
        (run { sources with storage := none } includeStorageHealth)) ∧
    (∀ sources : Sources, Traces (fun _ calls => storageCalls calls = []) (run sources false)) ∧
    (∀ (vm : DashboardViewModel) (ports : DashboardPorts),
      Traces (fun _ calls => storageCalls calls = []) (vm.load ports).2) ∧
    (∀ (sources : Sources) (provider : StorageProvider),
      Traces (fun _ calls => Disciplined (storageCalls calls))
        (run { sources with storage := some provider } true)) ∧
    (∀ (provider : StorageProvider) (events : List StorageEvent),
      Traces
        (fun _ calls =>
          ReadsAlong ((events.foldl StorageEvent.inventory []).map (·.name)) calls)
        ((events.foldl (StorageViewModel.on provider) {}).completeHealth provider)) := by
  refine ⟨fun sources includeStorageHealth => ?_, fun sources => ?_, fun vm ports => ?_,
    traces_run, fun provider events => ?_⟩
  · exact (silent_run _ includeStorageHealth rfl).traces
  · refine (silent_run sources false ?_).traces
    cases sources.storage <;> rfl
  · exact (silent_run ports.sources false rfl).traces
  · -- a health action asks for the cards, which are the inventory of the page
    rw [← StorageViewModel.run_cards_name provider events]
    exact traces_completeHealth _ provider

end Lapcare.Pages
