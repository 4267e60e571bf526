import Lapcare.Pages.StorageSystem
import Lapcare.Providers.BlockDevices

/-!
# Whose health the storage page shows

The storage page over sysfs, `pkexec` and the helper. What a card says of its device is from one
listing of `/sys/block`, and what it says of its health from `smartctl` on the block device of its
name, which the user authorized.

## Main results

* `storage_health_attributed` — every card is a disk, with health that `smartctl` told of it
* `health_action_ends` — what the page shows after a health action, in terms of the machine
-/

namespace Lapcare.Pages

open Lapcare.Core Semantics Platform Providers Text

/-- A card without what a health action says. -/
def StorageCard.blank (card : StorageCard) : StorageCard :=
  { card with healthSummary := "", healthFailed := false, healthRows := [], healthNote := "" }

/-- The card says nothing of the health. -/
structure StorageCard.Silent (card : StorageCard) : Prop where
  summary : card.healthSummary = ""
  failed : card.healthFailed = false
  rows : card.healthRows = []

namespace StorageViewModel

@[simp] theorem blank_withHealth (results : List HealthResult) (card : StorageCard) :
    (withHealth results card).blank = card.blank := by
  unfold withHealth
  split <;> rfl

/-- What is found for a name was brought home for it. -/
theorem mem_of_byName {results : List HealthResult} {name note : String} {report : SmartReport}
    (found : byName results name = (some report, note)) :
    (name, some report, note) ∈ results := by
  unfold byName at found
  split at found
  · rename_i here
    cases found
    have same := List.find?_some here
    obtain rfl : _ = name := of_decide_eq_true same
    exact List.mem_reverse.mp (List.mem_of_find?_eq_some here)
  · cases found

/-- After an action a card says of the health what it said before, or shows a report that was
brought home for it. -/
theorem withHealth_shows (results : List HealthResult) (card : StorageCard) :
    (∃ report note, (card.name, some report, note) ∈ results ∧
        (withHealth results card).Shows report) ∨
      withHealth results card = { card with healthNote := (byName results card.name).2 } := by
  rcases found : byName results card.name with ⟨_ | report, note⟩
  · right
    rw [withHealth, found]
  · left
    refine ⟨report, note, mem_of_byName found, ?_⟩
    rw [withHealth, found]
    exact shows_report rfl rfl rfl

/-- A report that an action brings home was read for its name, after `calls` and what the action
called for the names before it. -/
theorem read_of_gatherHealth {storage : StorageProvider} {names : List String}
    {calls : List ProviderCall} {results : List HealthResult}
    (done : (Logged.exec (gatherHealth storage names) calls).1 = .ok results)
    {name note : String} {report : SmartReport} (member : (name, some report, note) ∈ results) :
    ∃ front back, names = front ++ name :: back ∧ storage.smart
      ((Logged.exec (gatherHealth storage front) calls).2.filter (·.from? .storage)) name =
        .ok report := by
  obtain ⟨front, other, back, rfl, turned⟩ := Logged.exists_of_mem_exec_mapM done member
  rw [exec_gatherOne] at turned
  change StorageViewModel.turnOutcome other (storage.smart
    ((Logged.exec (gatherHealth storage front) calls).2.filter (·.from? .storage)) other) = _
    at turned
  rcases answer : storage.smart
      ((Logged.exec (gatherHealth storage front) calls).2.filter (·.from? .storage)) other with
    (error | ⟨className, detail⟩) | read
  · rw [answer] at turned
    cases error <;> cases turned
  · rw [answer] at turned
    cases turned
  · rw [answer] at turned
    cases turned
    exact ⟨front, back, rfl, answer⟩

end StorageViewModel

/-! ### Where cards come from -/

namespace StorageSystem

section Attributed

variable (loads : String → Loads) (builtins : Builtins)
  (machines : List ProviderCall → StorageMachine) (events : List StorageStep)

/-- The machine after these calls, as far as the provider received them. -/
def machineAfter (calls : List ProviderCall) : StorageMachine :=
  machines (calls.filter (·.from? .storage))

/-- One of the events is a listing that found this disk. -/
def ListedDisk (disk : StorageDevice) : Prop :=
  ∃ position calls, .inventoryEnds position calls ∈ events ∧
    IsDisk builtins (machineAfter machines calls).root disk

/-- The card is made of a disk that was listed. -/
def OfDisk (card : StorageCard) : Prop :=
  ∃ disk, ListedDisk builtins machines events disk ∧ card.blank = StorageCard.ofDevice disk

/-- One of the events is an action in which the report was authorized, and told of the device of
this name, when the action had read the devices in `front`. -/
def ReadOf (name : String) (report : SmartReport) : Prop :=
  ∃ position calls, .actionEnds position calls ∈ events ∧ ∃ front helper,
    (machineAfter machines (Logged.exec (StorageViewModel.gatherHealth
      (storageSmartPkexec loads builtins machines) front) calls).2).authorized = some helper ∧
      Told loads helper name report

/-- The card says nothing of the health, or what was told of its own device. -/
def OwnHealth (card : StorageCard) : Prop :=
  card.Silent ∨ ∃ report, ReadOf loads builtins machines events card.name report ∧ card.Shows report

/-- What a callback brings is from machines. -/
def Honest : StorageOutcome → Prop
  | .inventory (.ok devices) => ∀ disk ∈ devices, ListedDisk builtins machines events disk
  | .health (.ok results) => ∀ name report note, (name, some report, note) ∈ results →
      ReadOf loads builtins machines events name report
  | .inventory (.error _) | .health (.error _) => True

/-- Everything that the page shows, or that is on its way to it, is from machines. -/
structure Attributed (system : StorageSystem) : Prop where
  cards : ∀ card ∈ system.vm.cards,
    OfDisk builtins machines events card ∧ OwnHealth loads builtins machines events card
  inventories : ∀ gather ∈ system.inventories,
    gather = (storageSmartPkexec loads builtins machines).listDevices
  actions : ∀ gather ∈ system.actions, ∃ names,
    gather = StorageViewModel.gatherHealth (storageSmartPkexec loads builtins machines) names
  ended : ∀ outcome ∈ system.ended, Honest loads builtins machines events outcome

variable {loads : String → Loads} {builtins : Builtins}
  {machines : List ProviderCall → StorageMachine} {events : List StorageStep}
  {system later : StorageSystem}

theorem attributed_opened : (opened (storageSmartPkexec loads builtins machines)).Attributed
    loads builtins machines events where
  cards _ member := absurd member List.not_mem_nil
  inventories _ member := List.mem_singleton.mp member
  actions _ member := absurd member List.not_mem_nil
  ended _ member := absurd member List.not_mem_nil

theorem honest_listing {position : ℕ} {calls : List ProviderCall}
    (among : .inventoryEnds position calls ∈ events) :
    Honest loads builtins machines events (.inventory
      (Logged.exec (storageSmartPkexec loads builtins machines).listDevices calls).1) := by
  change Honest loads builtins machines events
    (.inventory (listBlockDevices builtins (machineAfter machines calls).root))
  cases listing : listBlockDevices builtins (machineAfter machines calls).root with
  | error e => trivial
  | ok devices =>
    intro disk member
    exact ⟨position, calls, among, (mem_listDevices_iff listing disk).mp member⟩

theorem honest_action (names : List String) {position : ℕ} {calls : List ProviderCall}
    (among : .actionEnds position calls ∈ events) :
    Honest loads builtins machines events (.health (Logged.exec (StorageViewModel.gatherHealth
      (storageSmartPkexec loads builtins machines) names) calls).1) := by
  cases done : (Logged.exec (StorageViewModel.gatherHealth
      (storageSmartPkexec loads builtins machines) names) calls).1 with
  | error e => trivial
  | ok results =>
    intro name report note member
    obtain ⟨front, back, -, read⟩ := StorageViewModel.read_of_gatherHealth done member
    obtain ⟨helper, allowed, told⟩ := told_of_readSmart read
    exact ⟨position, calls, among, front, helper, allowed, told⟩

/-- A card keeps its disk, and what an action makes it say is told of it. -/
theorem attributed_withHealth {results : List HealthResult} {card : StorageCard}
    (honest : Honest loads builtins machines events (.health (.ok results)))
    (before : OfDisk builtins machines events card ∧
      OwnHealth loads builtins machines events card) :
    OfDisk builtins machines events (StorageViewModel.withHealth results card) ∧
      OwnHealth loads builtins machines events (StorageViewModel.withHealth results card) := by
  obtain ⟨ofDisk, own⟩ := before
  constructor
  · obtain ⟨disk, listed, same⟩ := ofDisk
    exact ⟨disk, listed, by rw [StorageViewModel.blank_withHealth, same]⟩
  · rcases StorageViewModel.withHealth_shows results card with
      ⟨report, note, brought, shows⟩ | kept
    · refine .inr ⟨report, ?_, shows⟩
      rw [StorageViewModel.withHealth_name]
      exact honest _ report note brought
    · rw [kept]
      rcases own with silent | ⟨report, read, shows⟩
      · exact .inl ⟨silent.summary, silent.failed, silent.rows⟩
      · exact .inr ⟨report, read, { shows with }⟩

theorem attributed_complete {outcome : StorageOutcome}
    (honest : Honest loads builtins machines events outcome)
    (before : ∀ card ∈ system.vm.cards,
      OfDisk builtins machines events card ∧ OwnHealth loads builtins machines events card) :
    ∀ card ∈ (system.vm.complete outcome).cards,
      OfDisk builtins machines events card ∧ OwnHealth loads builtins machines events card := by
  intro card member
  rcases outcome with (e | devices) | (e | results)
  · exact before card member
  · unfold StorageViewModel.complete StorageViewModel.apply at member
    dsimp only at member
    split_ifs at member with fits nothing
    · exact before card member
    · obtain ⟨disk, brought, rfl⟩ := List.mem_map.mp member
      exact ⟨⟨disk, honest disk brought, rfl⟩, .inl ⟨rfl, rfl, rfl⟩⟩
    · exact before card member
  · exact before card member
  · obtain ⟨own, among, rfl⟩ := List.mem_map.mp member
    exact attributed_withHealth honest (before own among)

theorem attributed_step {event : StorageStep} (among : event ∈ events)
    (attributed : system.Attributed loads builtins machines events)
    (taken : system.step (storageSmartPkexec loads builtins machines) event = some later) :
    later.Attributed loads builtins machines events := by
  obtain ⟨cards, inventories, actions, ended⟩ := attributed
  cases event with
  | load =>
    obtain rfl := Option.some.inj taken
    refine ⟨cards, fun gather member => ?_, actions, ended⟩
    rcases List.mem_append.mp member with before | own
    · exact inventories gather before
    · exact List.mem_singleton.mp own
  | inventoryEnds position calls =>
    obtain ⟨gather, found, rfl⟩ := step_inventoryEnds_iff.mp taken
    obtain rfl := inventories gather (List.mem_of_getElem? found)
    refine ⟨cards, fun gather member => inventories gather (List.mem_of_mem_eraseIdx member),
      actions, fun outcome member => ?_⟩
    rcases List.mem_append.mp member with before | own
    · exact ended outcome before
    · rw [List.mem_singleton.mp own]
      exact honest_listing among
  | readHealth =>
    rcases step_readHealth_iff.mp taken with ⟨-, rfl⟩ | ⟨-, -, rfl⟩
    · exact ⟨cards, inventories, actions, ended⟩
    · refine ⟨cards, inventories, fun gather member => ?_, ended⟩
      rcases List.mem_append.mp member with before | own
      · exact actions gather before
      · exact ⟨_, List.mem_singleton.mp own⟩
  | actionEnds position calls =>
    obtain ⟨gather, found, rfl⟩ := step_actionEnds_iff.mp taken
    obtain ⟨names, rfl⟩ := actions gather (List.mem_of_getElem? found)
    refine ⟨cards, inventories, fun gather member =>
      actions gather (List.mem_of_mem_eraseIdx member), fun outcome member => ?_⟩
    rcases List.mem_append.mp member with before | own
    · exact ended outcome before
    · rw [List.mem_singleton.mp own]
      exact honest_action names among
  | callback position =>
    obtain ⟨outcome, found, rfl⟩ := step_callback_iff.mp taken
    exact ⟨attributed_complete (ended outcome (List.mem_of_getElem? found)) cards, inventories,
      actions, fun outcome member => ended outcome (List.mem_of_mem_eraseIdx member)⟩

end Attributed

/-- In every run, with machines that come and go between the calls and whatever the user
authorizes, each card is made of a disk that a listing of the run found, and its health is blank
or made of a report that the user authorized in an action of the run and that `smartctl`, run as
root on the block device of this name, told. -/
theorem storage_health_attributed (loads : String → Loads) (builtins : Builtins)
    (machines : List ProviderCall → StorageMachine) (events : List StorageStep)
    (system : StorageSystem)
    (ran : runFrom (step (storageSmartPkexec loads builtins machines))
      (opened (storageSmartPkexec loads builtins machines)) events = some system) :
    ∀ card ∈ system.vm.cards,
      OfDisk builtins machines events card ∧ OwnHealth loads builtins machines events card :=
  (invariant_runFrom_of (fun _ _ _ => attributed_step) attributed_opened (fun _ among => among)
    ran).cards

/-- What `smartctl` prints of a healthy drive. -/
def healthyText : String := "\x7b\"smart_status\": \x7b\"passed\": true\x7d\x7d"

def healthyLoads (text : String) : Loads :=
  if text = healthyText then .value (.obj [("smart_status", .obj [("passed", .bool true)])])
  else .valueError "Expecting value"

/-- Two drives, of which `smartctl` cannot open the second. -/
def twoDrives : Helper.Machine :=
  { Helper.oneDrive with
    listdir := fun _ => .ok ["sda", "sdb"]
    spawn := fun child =>
      if child.argv.getLast? = some "/dev/sda" then .completed 0 (encode healthyText.toList)
      else .completed 2 [] }

/-- Their machine, and a user who authorizes. -/
def pluggedDrives : StorageMachine where
  root :=
    { content := fun path =>
        if path = blockDir ++ ["sda", "size"] then some (encode "1000215216\n".toList) else none
      entries := fun dir =>
        if dir = blockDir then some {"sda", "sdb"}
        else if dir ∈ [blockDir ++ ["sda", "device"], blockDir ++ ["sdb", "device"]] then some ∅
        else none }
  authorized := some twoDrives

def listedDrives : List StorageDevice :=
  [{ name := "sda", sizeBytes := some 512110190592 }, { name := "sdb" }]

theorem listing_pluggedDrives :
    listBlockDevices decimalBuiltins pluggedDrives.root = .ok listedDrives := by
  have names : pluggedDrives.root.sortedNames blockDir = ["sda", "sdb"] := by
    change ({"sda", "sdb"} : Finset String).sort = _
    rw [Finset.sort_insert, Finset.sort_singleton]
    · intro other member
      obtain rfl := Finset.mem_singleton.mp member
      decide
    · decide
  unfold listBlockDevices
  rw [names]
  decide +kernel

/-- What an action brings home of them. -/
def drivesHealth : List HealthResult :=
  [("sda", some { deviceName := "sda", passed := some true }, ""), ("sdb", none, degradedNote)]

theorem gatherHealth_pluggedDrives :
    (Logged.exec (StorageViewModel.gatherHealth (storageSmartPkexec healthyLoads decimalBuiltins
      fun _ => pluggedDrives) ["sda", "sdb"]) []).1 = .ok drivesHealth := by
  decide +kernel

/-- Both drives are listed, their health is read, and the page shows it. -/
theorem ran_pluggedDrives (more : List StorageStep) :
    let storage := storageSmartPkexec healthyLoads decimalBuiltins fun _ => pluggedDrives
    let vm : StorageViewModel := { (opened storage).vm.apply listedDrives with
      busyText := "Reading storage health…" }
    runFrom (step storage) (opened storage)
        ([.inventoryEnds 0 [], .callback 0, .readHealth, .actionEnds 0 []] ++ more) =
      runFrom (step storage) { vm, ended := [.health (.ok drivesHealth)] } more := by
  intro storage vm
  have answer : (Logged.exec storage.listDevices []).1 = .ok listedDrives := listing_pluggedDrives
  have fits : ∀ disk ∈ listedDrives, SizeFits disk.sizeBytes := by decide +kernel
  let listing : StorageSystem :=
    { vm := (opened storage).vm, ended := [.inventory (.ok listedDrives)] }
  have listed : step storage (opened storage) (.inventoryEnds 0 []) = some listing := by
    refine step_inventoryEnds_iff.mpr ⟨storage.listDevices, rfl, ?_⟩
    rw [answer]
    rfl
  have shown : step storage listing (.callback 0) =
      some { vm := (opened storage).vm.apply listedDrives } := by
    refine step_callback_iff.mpr ⟨.inventory (.ok listedDrives), rfl, ?_⟩
    rw [StorageViewModel.complete, if_pos fits]
    rfl
  have acted : runFrom (step storage) { vm := (opened storage).vm.apply listedDrives }
      [.readHealth, .actionEnds 0 []] = some { vm, ended := [.health (.ok drivesHealth)] } := by
    rw [← gatherHealth_pluggedDrives]
    rfl
  have loaded : runFrom (step storage) (opened storage) [.inventoryEnds 0 [], .callback 0] =
      some { vm := (opened storage).vm.apply listedDrives } := by
    rw [runFrom, List.foldlM_cons, listed]
    change (step storage listing (.callback 0)).bind _ = _
    rw [shown]
    rfl
  change runFrom (step storage) (opened storage)
    ([.inventoryEnds 0 [], .callback 0] ++ ([.readHealth, .actionEnds 0 []] ++ more)) = _
  rw [runFrom_append, loaded, Option.bind_some, runFrom_append, acted, Option.bind_some]

theorem storage_health_attributed_plugged :
    let machines : List ProviderCall → StorageMachine := fun _ => pluggedDrives
    let storage := storageSmartPkexec healthyLoads decimalBuiltins machines
    let events : List StorageStep :=
      [.inventoryEnds 0 [], .callback 0, .readHealth, .actionEnds 0 [], .callback 0]
    ∃ system, runFrom (step storage) (opened storage) events = some system ∧
      system.vm.cards.map (fun card => (card.name, card.healthSummary, card.healthNote)) =
        [("sda", "Healthy", ""), ("sdb", "", degradedNote)] ∧
      ∀ card ∈ system.vm.cards,
        OfDisk decimalBuiltins machines events card ∧
          OwnHealth healthyLoads decimalBuiltins machines events card := by
  intro machines storage events
  have ran := ran_pluggedDrives [.callback 0]
  refine ⟨_, ran, ?_, storage_health_attributed healthyLoads decimalBuiltins machines events _ ran⟩
  rfl

/-! ### One machine, from end to end -/

/-- `smartctl` gave the helper nothing to pass on, or the client nothing that it can read. -/
def Unreadable (loads : String → Loads) (helper : Helper.Machine) (name : String) : Prop :=
  (∃ code ∈ ["tool-timeout", "tool-failed", "output-invalid"], RefusedWith helper name code) ∨
    ∃ stdout error, Reported helper name stdout ∧
      readOutput loads name (String.ofList (Text.decode stdout)) = .error (.lapcare error)

section Turns

variable {loads : String → Loads} {helper : Helper.Machine} {name : String}
  {answer : Except PyException SmartReport}

theorem readOutput_error {out : String} {e : PyException}
    (raised : readOutput loads name out = .error e) :
    (∃ source detail, e = .lapcare (.providerParseError source detail)) ∨
      ∃ className detail, e = .foreign className detail ∧ loads out = .other className detail := by
  unfold readOutput at raised
  cases loaded : loads out with
  | value data =>
    rw [loaded] at raised
    dsimp only at raised
    by_cases dict : Loaded.isDict data = true
    · rw [if_pos dict, parseReport_eq dict] at raised
      cases raised
    · rw [if_neg dict] at raised
      cases raised
      exact .inl ⟨_, _, rfl⟩
  | valueError detail =>
    rw [loaded] at raised
    cases raised
    exact .inl ⟨_, _, rfl⟩
  | other className detail =>
    rw [loaded] at raised
    cases raised
    exact .inr ⟨_, _, rfl, rfl⟩

/-- A turn that goes on brings a report, or the note on a disk that is unreadable. -/
theorem turn_ok {result : HealthResult} (read : DiskRead loads helper name answer)
    (turned : StorageViewModel.turnOutcome name answer = .ok result) :
    (∃ report, result = (name, some report, "") ∧ Told loads helper name report) ∨
      result = (name, none, degradedNote) ∧ Unreadable loads helper name := by
  cases read with
  | report told =>
    cases turned
    exact .inl ⟨_, rfl, told⟩
  | toolMissing absent => cases turned
  | refused own reason =>
    refine .inr ⟨?_, .inl ⟨_, own, reason⟩⟩
    simp only [List.mem_cons, List.not_mem_nil, or_false] at own
    rcases own with rfl | rfl | rfl <;> exact (Except.ok.inj turned).symm
  | unread reported raised =>
    rcases readOutput_error raised with ⟨source, detail, rfl⟩ | ⟨className, detail, rfl, -⟩
    · cases turned
      exact .inr ⟨rfl, .inr ⟨_, _, reported, raised⟩⟩
    · cases turned

/-- A turn that ends the action is for want of the tool, or for something foreign. -/
theorem turn_error {e : PyException} (read : DiskRead loads helper name answer)
    (turned : StorageViewModel.turnOutcome name answer = .error e) :
    (helper.access Helper.smartctl = false ∧ e = .lapcare (errorOfCode "tool-missing")) ∨
      ∃ stdout className detail, Reported helper name stdout ∧
        loads (String.ofList (Text.decode stdout)) = .other className detail ∧
        e = .foreign className detail := by
  cases read with
  | report told => cases turned
  | toolMissing absent => exact .inl ⟨absent, (Except.error.inj turned).symm⟩
  | refused own reason =>
    simp only [List.mem_cons, List.not_mem_nil, or_false] at own
    rcases own with rfl | rfl | rfl <;> cases turned
  | unread reported raised =>
    rcases readOutput_error raised with ⟨source, detail, rfl⟩ | ⟨className, detail, rfl, other⟩
    · cases turned
    · cases turned
      exact .inr ⟨_, _, _, reported, other, rfl⟩

theorem turnOutcome_name {result : HealthResult}
    (turned : StorageViewModel.turnOutcome name answer = .ok result) : result.1 = name := by
  rcases answer with (error | ⟨className, detail⟩) | report
  · cases error <;> cases turned <;> rfl
  · cases turned
  · cases turned
    rfl

/-- What is found for a name that an action read is how its turn ended. -/
theorem turn_of_byName {storage : StorageProvider} {names : List String}
    {log : List ProviderCall} {results : List HealthResult}
    (done : (Logged.exec (StorageViewModel.gatherHealth storage names) log).1 = .ok results)
    (member : name ∈ names) :
    ∃ calls, StorageViewModel.turnOutcome name (storage.smart calls name) =
      .ok (name, StorageViewModel.byName results name) := by
  have turns (other : String) (before : List ProviderCall) (result : HealthResult)
      (turned : (Logged.exec (StorageViewModel.gatherOne storage other) before).1 = .ok result) :
      ∃ calls, StorageViewModel.turnOutcome other (storage.smart calls other) = .ok result := by
    rw [StorageViewModel.exec_gatherOne] at turned
    exact ⟨_, turned⟩
  have all : results.map (·.1) = names.map id := by
    refine Logged.map_of_exec_mapM (fun other before result turned => ?_) _ _ done
    obtain ⟨calls, turned⟩ := turns other before result turned
    exact turnOutcome_name turned
  rw [List.map_id] at all
  rw [StorageViewModel.byName]
  rcases found : results.reverse.find? (·.1 = name) with _ | result
  · -- the name is among the results, so the search succeeds
    rw [← all] at member
    obtain ⟨result, among, rfl⟩ := List.mem_map.mp member
    rw [List.find?_eq_none] at found
    exact absurd (decide_eq_true rfl) (found result (List.mem_reverse.mpr among))
  · have same : result.1 = name := by simpa using List.find?_some found
    have among := List.mem_reverse.mp (List.mem_of_find?_eq_some found)
    obtain ⟨front, other, back, -, turned⟩ := Logged.exists_of_mem_exec_mapM done among
    obtain ⟨calls, turned⟩ := turns other _ result turned
    obtain rfl : other = name := (turnOutcome_name turned).symm.trans same
    refine ⟨calls, ?_⟩
    rw [turned, found, ← same]

end Turns

/-- What a page on one machine shows, and what is on its way to it. -/
structure OnMachine (storage : StorageProvider) (disks : List StorageDevice)
    (system : StorageSystem) : Prop where
  cards : system.vm.cards = [] ∨ system.vm.cards.map (·.name) = disks.map (·.name)
  inventories : ∀ gather ∈ system.inventories, gather = storage.listDevices
  actions : ∀ gather ∈ system.actions,
    gather = StorageViewModel.gatherHealth storage (disks.map (·.name))
  ended : ∀ outcome ∈ system.ended, outcome = .inventory (.ok disks) ∨
    ∃ calls, outcome = .health
      (Logged.exec (StorageViewModel.gatherHealth storage (disks.map (·.name))) calls).1

section Unchanging

variable {storage : StorageProvider} {disks : List StorageDevice} {system later : StorageSystem}

theorem onMachine_opened : OnMachine storage disks (opened storage) where
  cards := .inl rfl
  inventories _ member := List.mem_singleton.mp member
  actions _ member := absurd member List.not_mem_nil
  ended _ member := absurd member List.not_mem_nil

theorem onMachine_inventory {vm : StorageViewModel}
    (cards : vm.cards = [] ∨ vm.cards.map (·.name) = disks.map (·.name)) :
    (vm.complete (.inventory (.ok disks))).cards = [] ∨
      (vm.complete (.inventory (.ok disks))).cards.map (·.name) = disks.map (·.name) := by
  unfold StorageViewModel.complete StorageViewModel.apply
  dsimp only
  split_ifs with fits nothing
  · exact cards
  · exact .inr (by simp [List.map_map])
  · exact cards

theorem onMachine_health {vm : StorageViewModel}
    (cards : vm.cards = [] ∨ vm.cards.map (·.name) = disks.map (·.name))
    (outcome : Except PyException (List HealthResult)) :
    (vm.complete (.health outcome)).cards = [] ∨
      (vm.complete (.health outcome)).cards.map (·.name) = disks.map (·.name) := by
  cases outcome with
  | error e => exact cards
  | ok results =>
    rcases cards with none_ | same
    · exact .inl (by simp [StorageViewModel.complete, StorageViewModel.healthDone, none_])
    · refine .inr ?_
      change ((vm.cards.map (StorageViewModel.withHealth results)).map (·.name)) = _
      rw [List.map_map, ← same]
      exact List.map_congr_left fun card _ => StorageViewModel.withHealth_name results card

theorem onMachine_step {event : StorageStep} (listing : ∀ calls, storage.devices calls = .ok disks)
    (on : OnMachine storage disks system) (taken : system.step storage event = some later) :
    OnMachine storage disks later := by
  obtain ⟨cards, inventories, actions, ended⟩ := on
  cases event with
  | load =>
    obtain rfl := Option.some.inj taken
    refine ⟨cards, fun gather member => ?_, actions, ended⟩
    rcases List.mem_append.mp member with before | own
    · exact inventories gather before
    · exact List.mem_singleton.mp own
  | inventoryEnds position calls =>
    obtain ⟨gather, found, rfl⟩ := step_inventoryEnds_iff.mp taken
    obtain rfl := inventories gather (List.mem_of_getElem? found)
    refine ⟨cards, fun gather member => inventories gather (List.mem_of_mem_eraseIdx member),
      actions, fun outcome member => ?_⟩
    rcases List.mem_append.mp member with before | own
    · exact ended outcome before
    · rw [List.mem_singleton.mp own]
      exact .inl (congrArg StorageOutcome.inventory (listing _))
  | readHealth =>
    rcases step_readHealth_iff.mp taken with ⟨-, rfl⟩ | ⟨-, shown, rfl⟩
    · exact ⟨cards, inventories, actions, ended⟩
    · refine ⟨cards, inventories, fun gather member => ?_, ended⟩
      rcases List.mem_append.mp member with before | own
      · exact actions gather before
      · rw [List.mem_singleton.mp own, cards.resolve_left shown]
  | actionEnds position calls =>
    obtain ⟨gather, found, rfl⟩ := step_actionEnds_iff.mp taken
    obtain rfl := actions gather (List.mem_of_getElem? found)
    refine ⟨cards, inventories, fun gather member =>
      actions gather (List.mem_of_mem_eraseIdx member), fun outcome member => ?_⟩
    rcases List.mem_append.mp member with before | own
    · exact ended outcome before
    · exact .inr ⟨calls, List.mem_singleton.mp own⟩
  | callback position =>
    obtain ⟨outcome, found, rfl⟩ := step_callback_iff.mp taken
    refine ⟨?_, inventories, actions,
      fun outcome member => ended outcome (List.mem_of_mem_eraseIdx member)⟩
    rcases ended outcome (List.mem_of_getElem? found) with rfl | ⟨calls, rfl⟩
    · exact onMachine_inventory cards
    · exact onMachine_health cards _

end Unchanging

/-- What the page shows after a health action on disks that the helper finds: the toast on a
missing tool, or on an answer that Python cannot hold; or every disk its own report, or the note
because there was none to read. -/
theorem health_action_ends (loads : String → Loads) (builtins : Builtins)
    (machine : StorageMachine) (helper : Helper.Machine) (disks : List StorageDevice)
    (allowed : machine.authorized = some helper)
    (listing : listBlockDevices builtins machine.root = .ok disks)
    (coherent : Coherent builtins machine.root helper)
    (orderly : ∀ disk ∈ disks, Helper.Orderly helper (helperArgv disk.name))
    (events : List StorageStep) (system : StorageSystem)
    (ran : runFrom (step (storageSmartPkexec loads builtins fun _ => machine))
      (opened (storageSmartPkexec loads builtins fun _ => machine)) events = some system)
    (position : ℕ) (outcome : Except PyException (List HealthResult))
    (found : system.ended[position]? = some (.health outcome)) :
    let later := system.vm.complete (.health outcome)
    later.busyText = "" ∧
      ((helper.access Helper.smartctl = false ∧ later.cards = system.vm.cards ∧
          later.toastText = "Storage health needs the 'smartmontools' package.") ∨
        (∃ disk ∈ disks, ∃ stdout className detail, Reported helper disk.name stdout ∧
          loads (String.ofList (Text.decode stdout)) = .other className detail ∧
          later.cards = system.vm.cards ∧
          later.toastText = "Could not read storage health.") ∨
        (later.state = .ready ∧ later.cards.map (·.name) = disks.map (·.name) ∧
          ∀ card ∈ later.cards,
            (card.healthNote = "" ∧
              ∃ report, Told loads helper card.name report ∧ card.Shows report) ∨
            (card.healthNote = degradedNote ∧ Unreadable loads helper card.name))) := by
  have reads (name : String) (member : name ∈ disks.map (·.name)) (calls : List ProviderCall) :
      DiskRead loads helper name
        ((storageSmartPkexec loads builtins fun _ => machine).smart calls name) := by
    obtain ⟨disk, listed, rfl⟩ := List.mem_map.mp member
    have isDisk := (mem_listDevices_iff listing disk).mp listed
    change DiskRead loads helper disk.name (readSmart loads (runTool machine.host) disk.name)
    rw [StorageMachine.host, allowed]
    exact diskRead_of_isDevice (orderly disk listed) (isDisk.isDevice coherent)
  have on : OnMachine (storageSmartPkexec loads builtins fun _ => machine) disks system :=
    invariant_runFrom (fun _ _ _ => onMachine_step fun _ => listing) onMachine_opened ran
  have counted : system.Counted := invariant_runFrom (fun _ _ _ => counted_step) counted_opened ran
  have under : system.healthUnderWay ≠ 0 := by
    have one := countP_eraseIdx_succ (·.isHealth) found
    simp only [StorageOutcome.isHealth_health, if_true] at one
    unfold healthUnderWay
    omega
  obtain ⟨calls, same⟩ := (on.ended _ (List.mem_of_getElem? found)).resolve_left (by simp)
  obtain rfl := StorageOutcome.health.inj same
  cases done : (Logged.exec (StorageViewModel.gatherHealth
      (storageSmartPkexec loads builtins fun _ => machine) (disks.map (·.name))) calls).1 with
  | error e =>
    refine ⟨rfl, ?_⟩
    obtain ⟨name, member, before, turned⟩ := Logged.exists_of_exec_mapM_error done
    rw [StorageViewModel.exec_gatherOne] at turned
    rcases turn_error (reads name member _) turned with
      ⟨absent, rfl⟩ | ⟨stdout, className, detail, reported, other, rfl⟩
    · exact .inl ⟨absent, rfl, rfl⟩
    · obtain ⟨disk, listed, rfl⟩ := List.mem_map.mp member
      exact .inr (.inl ⟨disk, listed, stdout, className, detail, reported, other, rfl, rfl⟩)
  | ok results =>
    have names := on.cards.resolve_left (counted.acting under)
    have kept := (onMachine_health on.cards (.ok results)).resolve_left fun none_ =>
      counted.acting under (List.map_eq_nil_iff.mp none_)
    refine ⟨rfl, .inr (.inr ⟨rfl, kept, fun card member => ?_⟩)⟩
    obtain ⟨own, among, rfl⟩ := List.mem_map.mp member
    have read : own.name ∈ disks.map (·.name) := names ▸ List.mem_map_of_mem among
    obtain ⟨asked, turned⟩ := turn_of_byName done read
    rw [StorageViewModel.withHealth_name, StorageViewModel.withHealth]
    rcases turn_ok (reads own.name read asked) turned with ⟨report, same, told⟩ | ⟨same, unreadable⟩
    · left
      rw [(Prod.mk.inj same).2]
      exact ⟨rfl, report, told, shows_report rfl rfl rfl⟩
    · right
      rw [(Prod.mk.inj same).2]
      exact ⟨rfl, unreadable⟩

theorem coherent_pluggedDrives : Coherent decimalBuiltins pluggedDrives.root twoDrives := by
  refine ⟨⟨["sda", "sdb"], rfl, fun name member => ?_⟩, fun disk _ => ⟨0o060660, rfl, by decide⟩⟩
  change name ∈ ({"sda", "sdb"} : Finset String) at member
  simpa using member

theorem orderly_twoDrives (device : String) : Helper.Orderly twoDrives (helperArgv device) where
  listing _ _ _ failed := by cases failed
  named other entry noBlock := by
    refine absurd ⟨0o060660, rfl, ?_⟩ noBlock
    decide
  spawned _ _ _ _ := by
    dsimp only [twoDrives]
    split <;> simp
  loaded _ _ _ _ _ _ _ _ _ := by simp [twoDrives, Helper.oneDrive]

theorem health_action_ends_plugged :
    let storage := storageSmartPkexec healthyLoads decimalBuiltins fun _ => pluggedDrives
    let outcome := StorageOutcome.health (.ok drivesHealth)
    ∃ system, runFrom (step storage) (opened storage)
        [.inventoryEnds 0 [], .callback 0, .readHealth, .actionEnds 0 []] = some system ∧
      system.ended[0]? = some outcome ∧
      let later := system.vm.complete outcome
      later.busyText = "" ∧
      ((twoDrives.access Helper.smartctl = false ∧ later.cards = system.vm.cards ∧
          later.toastText = "Storage health needs the 'smartmontools' package.") ∨
        (∃ disk ∈ listedDrives, ∃ stdout className detail, Reported twoDrives disk.name stdout ∧
          healthyLoads (String.ofList (Text.decode stdout)) = .other className detail ∧
          later.cards = system.vm.cards ∧
          later.toastText = "Could not read storage health.") ∨
        (later.state = .ready ∧ later.cards.map (·.name) = listedDrives.map (·.name) ∧
          ∀ card ∈ later.cards,
            (card.healthNote = "" ∧
              ∃ report, Told healthyLoads twoDrives card.name report ∧ card.Shows report) ∨
            (card.healthNote = degradedNote ∧ Unreadable healthyLoads twoDrives card.name))) := by
  intro storage outcome
  have ran := ran_pluggedDrives []
  exact ⟨_, ran, rfl, health_action_ends healthyLoads decimalBuiltins pluggedDrives twoDrives _ rfl
    listing_pluggedDrives coherent_pluggedDrives (fun disk _ => orderly_twoDrives disk.name) _ _
    ran 0 (.ok drivesHealth) rfl⟩

end StorageSystem

end Lapcare.Pages
