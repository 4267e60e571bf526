import Lapcare.Pages.BatterySystem
import Lapcare.Pages.StorageRows

/-!
# The storage page in its environment

The view-model with the listings and the health actions around it. Listings and actions end, and
report, in any order, and the provider may answer every call in its own way.

## Main results

* `storage_page_settles` — health actions exclude each other, and no page stays loading or busy
-/

namespace Lapcare.Pages

open Lapcare.Core Semantics

/-- What a callback brings to the page. -/
inductive StorageOutcome
  | inventory (outcome : Except PyException (List StorageDevice))
  | health (outcome : Except PyException (List HealthResult))

def StorageOutcome.isHealth : StorageOutcome → Bool
  | .inventory _ => false
  | .health _ => true

@[simp] theorem StorageOutcome.isHealth_inventory
    (outcome : Except PyException (List StorageDevice)) :
    (inventory outcome).isHealth = false := rfl

@[simp] theorem StorageOutcome.isHealth_health (outcome : Except PyException (List HealthResult)) :
    (health outcome).isHealth = true := rfl

/-- The callback: one of the four that were submitted. A size without a text ends `_apply` before
it assigns anything. -/
def StorageViewModel.complete (vm : StorageViewModel) : StorageOutcome → StorageViewModel
  | .inventory (.ok devices) =>
      if ∀ device ∈ devices, SizeFits device.sizeBytes then vm.apply devices else vm
  | .inventory (.error e) => vm.loadFailed e
  | .health (.ok results) => vm.healthDone results
  | .health (.error e) => vm.healthFailed e

structure StorageSystem where
  vm : StorageViewModel := {}
  /-- The listings that run. -/
  inventories : List (Gather (List StorageDevice)) := []
  /-- The health actions that run. -/
  actions : List (Gather (List HealthResult)) := []
  ended : List StorageOutcome := []

/-- What can happen next. What ends has found the provider with `calls` behind it. -/
inductive StorageStep
  | load
  | inventoryEnds (position : ℕ) (calls : List ProviderCall)
  | readHealth
  | actionEnds (position : ℕ) (calls : List ProviderCall)
  | callback (position : ℕ)

namespace StorageSystem

section Step

variable (storage : StorageProvider)

/-- One event, when it can happen. -/
def step (system : StorageSystem) : StorageStep → Option StorageSystem
  | .load =>
      let (vm, gather) := system.vm.load storage
      some { system with vm, inventories := system.inventories ++ [gather] }
  | .inventoryEnds position calls =>
      match system.inventories[position]? with
      | none => none
      | some gather =>
          some { system with
            inventories := system.inventories.eraseIdx position
            ended := system.ended ++ [.inventory (Logged.exec gather calls).1] }
  | .readHealth =>
      let (vm, submitted) := system.vm.readHealth storage
      some { system with vm, actions := system.actions ++ submitted.toList }
  | .actionEnds position calls =>
      match system.actions[position]? with
      | none => none
      | some gather =>
          some { system with
            actions := system.actions.eraseIdx position
            ended := system.ended ++ [.health (Logged.exec gather calls).1] }
  | .callback position =>
      match system.ended[position]? with
      | none => none
      | some outcome =>
          some { system with
            ended := system.ended.eraseIdx position
            vm := system.vm.complete outcome }

/-- The page as its view leaves it: loaded once. -/
def opened : StorageSystem where
  vm := (({} : StorageViewModel).load storage).1
  inventories := [storage.listDevices]

end Step

section Inversion

variable {storage : StorageProvider} {system later : StorageSystem} {position : ℕ}
  {calls : List ProviderCall}

theorem step_inventoryEnds_iff :
    system.step storage (.inventoryEnds position calls) = some later ↔
      ∃ gather, system.inventories[position]? = some gather ∧
        { system with
          inventories := system.inventories.eraseIdx position
          ended := system.ended ++ [.inventory (Logged.exec gather calls).1] } = later := by
  rw [step]
  cases system.inventories[position]? <;> simp

theorem step_actionEnds_iff :
    system.step storage (.actionEnds position calls) = some later ↔
      ∃ gather, system.actions[position]? = some gather ∧
        { system with
          actions := system.actions.eraseIdx position
          ended := system.ended ++ [.health (Logged.exec gather calls).1] } = later := by
  rw [step]
  cases system.actions[position]? <;> simp

theorem step_callback_iff :
    system.step storage (.callback position) = some later ↔
      ∃ outcome, system.ended[position]? = some outcome ∧
        { system with
          ended := system.ended.eraseIdx position
          vm := system.vm.complete outcome } = later := by
  rw [step]
  cases system.ended[position]? <;> simp

/-- A request is turned down, or the page is busy with an action on its cards. -/
theorem step_readHealth_iff :
    system.step storage .readHealth = some later ↔
      ((system.vm.busyText ≠ "" ∨ system.vm.cards = []) ∧ system = later) ∨
        (system.vm.busyText = "" ∧ system.vm.cards ≠ [] ∧
          { system with
            vm := { system.vm with busyText := "Reading storage health…" }
            actions := system.actions ++ [StorageViewModel.gatherHealth storage
              (system.vm.cards.map (·.name))] } = later) := by
  rw [step, StorageViewModel.readHealth]
  by_cases refused : system.vm.busyText ≠ "" ∨ system.vm.cards = []
  · have idle : ¬ (system.vm.busyText = "" ∧ system.vm.cards ≠ []) := by
      rintro ⟨free, shown⟩
      exact refused.elim (absurd free) shown
    rw [if_pos refused]
    simp only [Option.toList_none, List.append_nil, Option.some.injEq]
    tauto
  · obtain ⟨free, shown⟩ := not_or.mp refused
    rw [if_neg refused]
    simp only [Option.toList_some, Option.some.injEq]
    tauto

end Inversion

/-! ### One action at a time -/

/-- The health actions that were not reported yet. -/
def healthUnderWay (system : StorageSystem) : ℕ :=
  system.actions.length + system.ended.countP (·.isHealth)

/-- The listings that were not reported yet. -/
def listingsUnderWay (system : StorageSystem) : ℕ :=
  system.inventories.length + system.ended.countP (!·.isHealth)

/-- The page is busy with the one action under way, or there is none. Ready, and while an action
is under way, it has cards. -/
structure Counted (system : StorageSystem) : Prop where
  busy : system.vm.busyText = "" ∧ system.healthUnderWay = 0 ∨
    system.vm.busyText = "Reading storage health…" ∧ system.healthUnderWay = 1
  ready : system.vm.state = .ready → system.vm.cards ≠ []
  acting : system.healthUnderWay ≠ 0 → system.vm.cards ≠ []

section Counted

variable {storage : StorageProvider} {system later : StorageSystem} {position : ℕ}

theorem counted_opened : (opened storage).Counted where
  busy := .inl ⟨rfl, rfl⟩
  ready state := by cases state
  acting some_ := absurd rfl some_

/-- The outcome that is taken away is one of its kind less. -/
theorem countP_eraseIdx_succ {ended : List StorageOutcome} {outcome : StorageOutcome}
    (kind : StorageOutcome → Bool) (found : ended[position]? = some outcome) :
    (ended.eraseIdx position).countP kind + (if kind outcome then 1 else 0) =
      ended.countP kind := by
  obtain ⟨inside, rfl⟩ := List.getElem?_eq_some_iff.mp found
  have split := List.take_append_drop position ended
  rw [List.drop_eq_getElem_cons inside] at split
  rw [List.eraseIdx_eq_take_drop_succ]
  conv_rhs => rw [← split]
  rw [List.countP_append, List.countP_append, List.countP_cons]
  omega

theorem apply_cards_ne_nil {vm : StorageViewModel} {devices : List StorageDevice}
    (ready : (vm.apply devices).state = .ready ∨ vm.cards ≠ []) :
    (vm.apply devices).cards ≠ [] := by
  unfold StorageViewModel.apply at ready ⊢
  split_ifs at ready ⊢ with nothing
  · rcases ready with unavailable | shown
    · cases unavailable
    · exact shown
  · simpa using nothing

theorem loadFailed_state (vm : StorageViewModel) (e : PyException) :
    (vm.loadFailed e).state ≠ .loading ∧ (vm.loadFailed e).state ≠ .ready := by
  change (vm.toPageViewModel.handleError e).state ≠ _ ∧ (vm.toPageViewModel.handleError e).state ≠ _
  rcases vm.toPageViewModel.handleError_state e with is | is <;> rw [is] <;> simp

/-- A listing does not touch the action under way. -/
theorem counted_inventory {outcome : Except PyException (List StorageDevice)}
    (counted : system.Counted) (found : system.ended[position]? = some (.inventory outcome)) :
    { system with
      ended := system.ended.eraseIdx position
      vm := system.vm.complete (.inventory outcome) : StorageSystem }.Counted := by
  have actions := countP_eraseIdx_succ (·.isHealth) found
  have same : system.actions.length + (system.ended.eraseIdx position).countP (·.isHealth) =
      system.healthUnderWay := by
    simpa [healthUnderWay] using actions
  have text : (system.vm.complete (.inventory outcome)).busyText = system.vm.busyText := by
    cases outcome with
    | error e => rfl
    | ok devices =>
      unfold StorageViewModel.complete StorageViewModel.apply
      dsimp only
      split_ifs <;> rfl
  refine ⟨?_, fun state => ?_, fun some_ => ?_⟩
  · dsimp only [healthUnderWay]
    rw [text, same]
    exact counted.busy
  · cases outcome with
    | error e => exact absurd state (loadFailed_state system.vm e).2
    | ok devices =>
      unfold StorageViewModel.complete at state ⊢
      dsimp only at state ⊢
      split_ifs at state ⊢ with fits
      · exact apply_cards_ne_nil (.inl state)
      · exact counted.ready state
  · dsimp only [healthUnderWay] at some_
    rw [same] at some_
    cases outcome with
    | error e => exact counted.acting some_
    | ok devices =>
      unfold StorageViewModel.complete
      dsimp only
      split_ifs with fits
      · exact apply_cards_ne_nil (.inr (counted.acting some_))
      · exact counted.acting some_

/-- The callback of an action is that of the one under way. -/
theorem counted_health {outcome : Except PyException (List HealthResult)}
    (counted : system.Counted) (found : system.ended[position]? = some (.health outcome)) :
    { system with
      ended := system.ended.eraseIdx position
      vm := system.vm.complete (.health outcome) : StorageSystem }.Counted := by
  have actions := countP_eraseIdx_succ (·.isHealth) found
  simp only [StorageOutcome.isHealth_health, if_true] at actions
  have under : system.healthUnderWay ≠ 0 := by
    unfold healthUnderWay
    omega
  have none_ : system.actions.length +
      (system.ended.eraseIdx position).countP (·.isHealth) = 0 := by
    rcases counted.busy with ⟨-, idle⟩ | ⟨-, one⟩
    · exact absurd idle under
    · unfold healthUnderWay at one
      omega
  have shown := counted.acting under
  have idle : (system.vm.complete (.health outcome)).busyText = "" := by cases outcome <;> rfl
  have cards : (system.vm.complete (.health outcome)).cards ≠ [] := by
    cases outcome with
    | error e => exact shown
    | ok results => simpa [StorageViewModel.complete, StorageViewModel.healthDone] using shown
  exact ⟨.inl ⟨idle, none_⟩, fun _ => cards, fun _ => cards⟩

theorem counted_step {event : StorageStep} (counted : system.Counted)
    (taken : system.step storage event = some later) : later.Counted := by
  have busy := counted.busy
  cases event with
  | load =>
    obtain rfl := Option.some.inj taken
    refine ⟨busy, fun state => ?_, counted.acting⟩
    cases state
  | inventoryEnds position calls =>
    obtain ⟨gather, found, rfl⟩ := step_inventoryEnds_iff.mp taken
    refine ⟨?_, counted.ready, ?_⟩
    · simpa [healthUnderWay] using busy
    · simpa [healthUnderWay] using counted.acting
  | readHealth =>
    rcases step_readHealth_iff.mp taken with ⟨-, rfl⟩ | ⟨free, shown, rfl⟩
    · exact counted
    · have idle : system.healthUnderWay = 0 := by
        rcases busy with ⟨-, idle⟩ | ⟨text, -⟩
        · exact idle
        · rw [free] at text
          exact absurd text (by decide)
      refine ⟨.inr ⟨rfl, ?_⟩, fun _ => shown, fun _ => shown⟩
      simp only [healthUnderWay, List.length_append, List.length_singleton] at idle ⊢
      omega
  | actionEnds position calls =>
    obtain ⟨gather, found, rfl⟩ := step_actionEnds_iff.mp taken
    have fewer := BatterySystem.length_eraseIdx_succ found
    have same : (system.actions.eraseIdx position).length +
        (system.ended ++ [StorageOutcome.health (Logged.exec gather calls).1]).countP
          (·.isHealth) = system.healthUnderWay := by
      simp only [healthUnderWay, List.countP_append, List.countP_singleton,
        StorageOutcome.isHealth_health, if_true]
      omega
    refine ⟨?_, counted.ready, ?_⟩
    · dsimp only [healthUnderWay]
      rw [same]
      exact busy
    · dsimp only [healthUnderWay]
      rw [same]
      exact counted.acting
  | callback position =>
    obtain ⟨outcome, found, rfl⟩ := step_callback_iff.mp taken
    cases outcome with
    | inventory outcome => exact counted_inventory counted found
    | health outcome => exact counted_health counted found

end Counted

/-! ### Listings that can be shown -/

/-- Whatever the provider lists, the sizes have texts. -/
def Sized (storage : StorageProvider) : Prop :=
  ∀ calls devices, storage.devices calls = .ok devices →
    ∀ device ∈ devices, SizeFits device.sizeBytes

/-- Loading, the page waits for a listing, and what was listed can be shown. -/
structure Awaits (storage : StorageProvider) (system : StorageSystem) : Prop where
  loading : system.vm.state = .loading → system.listingsUnderWay ≠ 0
  inventories : ∀ gather ∈ system.inventories, gather = storage.listDevices
  ended : ∀ devices, .inventory (.ok devices) ∈ system.ended →
    ∀ device ∈ devices, SizeFits device.sizeBytes

section Awaits

variable {storage : StorageProvider} {system later : StorageSystem} {position : ℕ}

theorem awaits_opened : (opened storage).Awaits storage where
  loading _ := Nat.one_ne_zero
  inventories _ member := List.mem_singleton.mp member
  ended _ member := absurd member List.not_mem_nil

/-- A listing that can be shown ends the loading, and so does one that failed. -/
theorem complete_inventory_state {vm : StorageViewModel}
    {outcome : Except PyException (List StorageDevice)}
    (fits : ∀ devices, outcome = .ok devices → ∀ device ∈ devices, SizeFits device.sizeBytes) :
    (vm.complete (.inventory outcome)).state ≠ .loading := by
  cases outcome with
  | error e => exact (loadFailed_state vm e).1
  | ok devices =>
    unfold StorageViewModel.complete StorageViewModel.apply
    dsimp only
    rw [if_pos (fits devices rfl)]
    split_ifs <;> exact nofun

theorem awaits_step (sized : Sized storage) {event : StorageStep}
    (awaits : system.Awaits storage) (taken : system.step storage event = some later) :
    later.Awaits storage := by
  cases event with
  | load =>
    obtain rfl := Option.some.inj taken
    refine ⟨fun _ => by simp [listingsUnderWay], fun gather member => ?_, awaits.ended⟩
    rcases List.mem_append.mp member with before | own
    · exact awaits.inventories gather before
    · exact List.mem_singleton.mp own
  | inventoryEnds position calls =>
    obtain ⟨gather, found, rfl⟩ := step_inventoryEnds_iff.mp taken
    obtain rfl := awaits.inventories gather (List.mem_of_getElem? found)
    refine ⟨fun _ => by simp [listingsUnderWay], fun gather member =>
      awaits.inventories gather (List.mem_of_mem_eraseIdx member), fun devices member => ?_⟩
    rcases List.mem_append.mp member with before | own
    · exact awaits.ended devices before
    · have listed := StorageOutcome.inventory.inj (List.mem_singleton.mp own)
      exact sized _ devices listed.symm
  | readHealth =>
    rcases step_readHealth_iff.mp taken with ⟨-, rfl⟩ | ⟨-, -, rfl⟩
    · exact awaits
    · exact ⟨awaits.loading, awaits.inventories, awaits.ended⟩
  | actionEnds position calls =>
    obtain ⟨gather, found, rfl⟩ := step_actionEnds_iff.mp taken
    refine ⟨fun state => ?_, awaits.inventories, fun devices member => ?_⟩
    · simpa [listingsUnderWay] using awaits.loading state
    · exact awaits.ended devices (by simpa using member)
  | callback position =>
    obtain ⟨outcome, found, rfl⟩ := step_callback_iff.mp taken
    refine ⟨fun state => ?_, awaits.inventories, fun devices member =>
      awaits.ended devices (List.mem_of_mem_eraseIdx member)⟩
    cases outcome with
    | inventory outcome =>
      refine absurd state (complete_inventory_state fun devices listed => ?_)
      exact awaits.ended devices (listed ▸ List.mem_of_getElem? found)
    | health outcome =>
      have listings := countP_eraseIdx_succ (!·.isHealth) found
      simp only [StorageOutcome.isHealth_health, Bool.not_true, Bool.false_eq_true, if_false,
        Nat.add_zero] at listings
      cases outcome with
      | error e =>
        dsimp only [listingsUnderWay]
        rw [listings]
        exact awaits.loading state
      | ok results => cases state

end Awaits

/-! ### Nothing stays -/

/-- What goes on without the user. -/
def Proceeds : StorageStep → Prop
  | .load | .readHealth => False
  | .inventoryEnds _ _ | .actionEnds _ _ | .callback _ => True

/-- The steps that are left: what runs has to end and to report. -/
def backlog (system : StorageSystem) : ℕ :=
  2 * system.inventories.length + 2 * system.actions.length + system.ended.length

section Settles

variable {storage : StorageProvider} {system later : StorageSystem}

theorem backlog_step {event : StorageStep} (proceeds : Proceeds event)
    (taken : system.step storage event = some later) : later.backlog < system.backlog := by
  cases event with
  | load | readHealth => exact proceeds.elim
  | inventoryEnds position calls =>
    obtain ⟨gather, found, rfl⟩ := step_inventoryEnds_iff.mp taken
    have fewer := BatterySystem.length_eraseIdx_succ found
    simp only [backlog, List.length_append, List.length_singleton]
    omega
  | actionEnds position calls =>
    obtain ⟨gather, found, rfl⟩ := step_actionEnds_iff.mp taken
    have fewer := BatterySystem.length_eraseIdx_succ found
    simp only [backlog, List.length_append, List.length_singleton]
    omega
  | callback position =>
    obtain ⟨outcome, found, rfl⟩ := step_callback_iff.mp taken
    have fewer := BatterySystem.length_eraseIdx_succ found
    simp only [backlog]
    omega

/-- Whatever runs can end, and whatever ended can report. -/
theorem drains (storage : StorageProvider) (system : StorageSystem) :
    Drains (step storage) Proceeds backlog system where
  enabled pending := by
    by_cases inventories : system.inventories = []
    · by_cases actions : system.actions = []
      · have ended : system.ended ≠ [] := by
          intro none_
          simp [backlog, inventories, actions, none_] at pending
        obtain ⟨outcome, rest, same⟩ := List.exists_cons_of_ne_nil ended
        exact ⟨.callback 0, _, trivial, step_callback_iff.mpr ⟨outcome, by simp [same], rfl⟩⟩
      · obtain ⟨gather, rest, same⟩ := List.exists_cons_of_ne_nil actions
        exact ⟨.actionEnds 0 [], _, trivial,
          step_actionEnds_iff.mpr ⟨gather, by simp [same], rfl⟩⟩
    · obtain ⟨gather, rest, same⟩ := List.exists_cons_of_ne_nil inventories
      exact ⟨.inventoryEnds 0 [], _, trivial,
        step_inventoryEnds_iff.mpr ⟨gather, by simp [same], rfl⟩⟩
  falls _ _ proceeds taken := backlog_step proceeds taken

theorem Counted.rests (counted : system.Counted) (awaits : system.Awaits storage)
    (drained : system.backlog = 0) :
    system.vm.busyText = "" ∧ system.vm.state ≠ .loading := by
  unfold backlog at drained
  have inventories : system.inventories.length = 0 := by omega
  have actions : system.actions.length = 0 := by omega
  have ended : system.ended = [] := by
    apply List.eq_nil_of_length_eq_zero
    omega
  constructor
  · rcases counted.busy with ⟨free, -⟩ | ⟨-, one⟩
    · exact free
    · simp [healthUnderWay, actions, ended] at one
  · intro loading
    refine awaits.loading loading ?_
    simp [listingsUnderWay, inventories, ended]

/-- Over any provider whose sizes have texts, in every run: the page is busy exactly while one
health action is under way, and no second one is, whatever listings come in between; a ready page
has cards. All pending work comes to an end in whatever order it goes on, whatever the provider
answers, and then the page is neither busy nor loading. -/
theorem storage_page_settles (storage : StorageProvider) (sized : Sized storage)
    (events : List StorageStep) (system : StorageSystem)
    (ran : runFrom (step storage) (opened storage) events = some system) :
    (system.vm.busyText = "" ∧ system.healthUnderWay = 0 ∨
      system.vm.busyText = "Reading storage health…" ∧ system.healthUnderWay = 1) ∧
    (system.vm.state = .ready → system.vm.cards ≠ []) ∧
    (system.vm.state = .loading → system.listingsUnderWay ≠ 0) ∧
    Drains (step storage) Proceeds backlog system ∧
    ∀ more later, runFrom (step storage) system more = some later → later.backlog = 0 →
      later.vm.busyText = "" ∧ later.vm.state ≠ .loading := by
  have counts : ∀ s event s', s.Counted → step storage s event = some s' → s'.Counted :=
    fun _ _ _ => counted_step
  have waits : ∀ s event s', s.Awaits storage → step storage s event = some s' →
      s'.Awaits storage := fun _ _ _ => awaits_step sized
  have counted : system.Counted := invariant_runFrom counts counted_opened ran
  have awaits : system.Awaits storage := invariant_runFrom waits awaits_opened ran
  refine ⟨counted.busy, counted.ready, awaits.loading, drains storage system,
    fun more later went drained => ?_⟩
  exact (invariant_runFrom counts counted went).rests (invariant_runFrom waits awaits went) drained

/-- A drive that cannot be read, and a listing that comes while it is. -/
theorem storage_page_settles_unreadable :
    let storage := driveAnswering readFailed
    let events := [StorageStep.inventoryEnds 0 [], .callback 0, .readHealth, .load,
      .inventoryEnds 0 [], .callback 0]
    ∃ system, runFrom (step storage) (opened storage) events = some system ∧
      system.vm.busyText ≠ "" ∧
      (system.vm.busyText = "" ∧ system.healthUnderWay = 0 ∨
        system.vm.busyText = "Reading storage health…" ∧ system.healthUnderWay = 1) ∧
      (system.vm.state = .ready → system.vm.cards ≠ []) ∧
      (system.vm.state = .loading → system.listingsUnderWay ≠ 0) ∧
      Drains (step storage) Proceeds backlog system ∧
      ∀ more later, runFrom (step storage) system more = some later → later.backlog = 0 →
        later.vm.busyText = "" ∧ later.vm.state ≠ .loading := by
  have sized : Sized (driveAnswering readFailed) := by
    rintro calls devices listed device member
    obtain rfl := Except.ok.inj listed
    obtain rfl := List.mem_singleton.mp member
    decide +kernel
  exact ⟨_, rfl, by decide, storage_page_settles (driveAnswering readFailed) sized
    [.inventoryEnds 0 [], .callback 0, .readHealth, .load, .inventoryEnds 0 [], .callback 0] _ rfl⟩

end Settles

end StorageSystem

end Lapcare.Pages
