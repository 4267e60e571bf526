import Lapcare.Core.Ports
import Lapcare.Core.PythonNumbers
import Lapcare.Pages.PageViewModel
import Lapcare.Text.Decimal

/-!
# The storage page

`StorageViewModel` of `ui/pages/storage/view_model.py`. The inventory is the core of
the page. Health is an explicit, privileged action: a declined prompt or a missing tool
ends the whole action with a toast, and the failed read of one device is a note on the
card of that device.
-/

namespace Lapcare.Pages

open Lapcare.Core Semantics Text

/-- `_size_text`, of a size that has a text: decimal units, as drives are marketed. -/
def sizeText : Option Int → String
  | none => ""
  | some sizeBytes =>
      if 1000 ^ 4 ≤ sizeBytes then fixed 1 (sizeBytes / 1000 ^ 4) ++ " TB"
      else if 1000 ^ 3 ≤ sizeBytes then fixed 1 (sizeBytes / 1000 ^ 3) ++ " GB"
      else fixed 0 (sizeBytes / 1000 ^ 2) ++ " MB"

/-- The unit of a size. -/
def sizeUnit (sizeBytes : Int) : Int :=
  if 1000 ^ 4 ≤ sizeBytes then 1000 ^ 4
  else if 1000 ^ 3 ≤ sizeBytes then 1000 ^ 3
  else 1000 ^ 2

/-- `_size_text` returns: the size in its unit is not beyond binary64. -/
def SizeFits (size : Option Int) : Prop :=
  ∀ sizeBytes ∈ size, |(sizeBytes / sizeUnit sizeBytes : ℚ)| < floatLimit

instance (size : Option Int) : Decidable (SizeFits size) :=
  match size with
  | none => isTrue nofun
  | some sizeBytes =>
      decidable_of_iff (|(sizeBytes / sizeUnit sizeBytes : ℚ)| < floatLimit)
        ⟨fun fits _ same => Option.some.inj same ▸ fits, fun fits => fits sizeBytes rfl⟩

/-- `_kind_text`. -/
def kindText (device : StorageDevice) : String :=
  let kind :=
    if "nvme".toList.isPrefixOf device.name.toList then "NVMe SSD"
    else
      match device.rotational with
      | some false => "SSD"
      | some true => "Hard disk"
      | none => "Disk"
  if device.removable = some true then s!"{kind} (removable)" else kind

/-- Display data for one block device. `healthSummary` is empty until health was read
for this device. -/
structure StorageCard where
  name : String
  title : String
  subtitle : String
  healthSummary : String := ""
  healthFailed : Bool := false
  healthRows : List (String × String) := []
  healthNote : String := ""
  deriving DecidableEq

def StorageCard.ofDevice (device : StorageDevice) : StorageCard where
  name := device.name
  title := orText device.model device.name
  subtitle :=
    " · ".intercalate
      ([sizeText device.sizeBytes, kindText device, device.name].filter (· ≠ ""))

/-- `_summary`. -/
def summary (report : SmartReport) : String × Bool :=
  match report.passed with
  | some false => ("FAILING — back up your data now", true)
  | some true => ("Healthy", false)
  | none => ("Health not reported", false)

/-- A row for a value that was reported. -/
def healthRow (label : String) (value : Option String) : List (String × String) :=
  match value with
  | some text => [(label, text)]
  | none => []

/-- `_health_rows`. -/
def healthRows (report : SmartReport) : List (String × String) :=
  healthRow "Temperature" (report.temperatureC.map fun n => s!"{n} °C") ++
  healthRow "Rated endurance used" (report.percentageUsed.map fun n => s!"{n}%") ++
  healthRow "Spare capacity available" (report.availableSparePct.map fun n => s!"{n}%") ++
  healthRow "Media errors" (report.mediaErrors.map toString) ++
  healthRow "Reallocated sectors" (report.reallocatedSectors.map toString) ++
  healthRow "Sectors pending reallocation" (report.pendingSectors.map toString) ++
  healthRow "Powered on" (report.powerOnHours.map fun n => s!"{n} hours") ++
  healthRow "Power cycles" (report.powerCycles.map toString) ++
  healthRow "Unsafe shutdowns" (report.unsafeShutdowns.map toString) ++
  healthRow "Firmware" report.firmwareVersion ++
  healthRow "Notes"
    (if report.messages = [] then none else some ("; ".intercalate report.messages))

/-- What a health action brought home for one device: a report, or a note. -/
abbrev HealthResult := String × Option SmartReport × String

def degradedNote : String := "Could not read health for this device."

structure StorageViewModel extends PageViewModel where
  busyText : String := ""
  toastText : String := ""
  cards : List StorageCard := []
  deriving DecidableEq

namespace StorageViewModel

/-- `load`: the page shows that it loads, and `list_devices` is submitted. -/
def load (vm : StorageViewModel) (storage : StorageProvider) :
    StorageViewModel × Gather (List StorageDevice) :=
  ({ vm with toPageViewModel := vm.showLoading }, storage.listDevices)

/-- `_load_failed`. -/
def loadFailed (vm : StorageViewModel) (e : PyException) : StorageViewModel :=
  { vm with toPageViewModel := vm.handleError e }

/-- `_apply`. -/
def apply (vm : StorageViewModel) (devices : List StorageDevice) : StorageViewModel :=
  if devices = [] then
    { vm with
      toPageViewModel :=
        vm.showUnavailable "No storage devices found."
          "Nothing to do — no physical disk is visible to this system." }
  else
    { vm with
      toPageViewModel := vm.showReady
      cards := devices.map StorageCard.ofDevice }

/-! ### SMART health -/

/-- One turn of `_gather_health`. What would fail alike for every device ends the
action; any other failure is a note on this device. -/
def gatherOne (storage : StorageProvider) (name : String) : Gather HealthResult :=
  tryCatch ((fun report => (name, some report, "")) <$> storage.readSmart name) fun
    | .lapcare (.privilegedActionDenied action) =>
        throw (.lapcare (.privilegedActionDenied action))
    | .lapcare (.providerUnavailable source reason tool) =>
        throw (.lapcare (.providerUnavailable source reason tool))
    | .lapcare _ => pure (name, none, degradedNote)
    | .foreign className detail => throw (.foreign className detail)

/-- `_gather_health`. -/
def gatherHealth (storage : StorageProvider) (names : List String) :
    Gather (List HealthResult) :=
  names.mapM (gatherOne storage)

/-- `read_health`: what is submitted, if the action starts at all. -/
def readHealth (vm : StorageViewModel) (storage : StorageProvider) :
    StorageViewModel × Option (Gather (List HealthResult)) :=
  if vm.busyText ≠ "" ∨ vm.cards = [] then (vm, none)
  else
    ({ vm with busyText := "Reading storage health…" },
      some (gatherHealth storage (vm.cards.map (·.name))))

/-- `by_name`: a later result for a name replaces an earlier one. -/
def byName (results : List HealthResult) (name : String) : Option SmartReport × String :=
  match results.reverse.find? (·.1 = name) with
  | some (_, report, note) => (report, note)
  | none => (none, "")

/-- A card after a health action: the note is replaced, the health only by a report. -/
def withHealth (results : List HealthResult) (card : StorageCard) : StorageCard :=
  match byName results card.name with
  | (some report, note) =>
      { card with
        healthNote := note
        healthSummary := (summary report).1
        healthFailed := (summary report).2
        healthRows := Pages.healthRows report }
  -- the rows of an earlier report stay
  | (none, note) => { card with healthNote := note }

/-- `_health_done`. -/
def healthDone (vm : StorageViewModel) (results : List HealthResult) : StorageViewModel :=
  { vm with
    toPageViewModel := vm.showReady
    busyText := ""
    cards := vm.cards.map (withHealth results) }

/-- The toast that says why a health action ended. -/
def healthToast : PyException → String
  | .lapcare (.privilegedActionDenied _) => "Storage health check cancelled."
  | .lapcare (.providerUnavailable _ _ tool) =>
      match PageViewModel.namedTool tool with
      | some name => s!"Storage health needs the '{name}' package."
      | none => "Storage health reading is not available on this system."
  | _ => "Could not read storage health."

/-- `_health_failed`. -/
def healthFailed (vm : StorageViewModel) (e : PyException) : StorageViewModel :=
  { vm with busyText := "", toastText := healthToast e }

/-- `read_health` run to completion: what is submitted ends in one of its callbacks. -/
def completeHealth (vm : StorageViewModel) (storage : StorageProvider) :
    Gather StorageViewModel :=
  match vm.readHealth storage with
  | (vm, none) => pure vm
  | (vm, some gather) => tryCatch (vm.healthDone <$> gather) fun e => pure (vm.healthFailed e)

end StorageViewModel

/-- How one turn of `_gather_health` ends on the answer for its device. -/
def StorageViewModel.turnOutcome (name : String) :
    Except PyException SmartReport → Except PyException HealthResult
  | .ok report => .ok (name, some report, "")
  | .error (.lapcare (.privilegedActionDenied action)) =>
      .error (.lapcare (.privilegedActionDenied action))
  | .error (.lapcare (.providerUnavailable source reason tool)) =>
      .error (.lapcare (.providerUnavailable source reason tool))
  | .error (.lapcare _) => .ok (name, none, degradedNote)
  | .error (.foreign className detail) => .error (.foreign className detail)

/-- A turn makes one call and ends as its answer says. -/
theorem StorageViewModel.exec_gatherOne (storage : StorageProvider) (name : String)
    (log : List ProviderCall) :
    Logged.exec (gatherOne storage name) log =
      (turnOutcome name (storage.smart (log.filter (·.from? .storage)) name),
        log ++ [.readSmart name (storage.smart (log.filter (·.from? .storage)) name)]) := by
  have read : Logged.exec ((fun report => (name, some report, "")) <$> storage.readSmart name)
      log =
      ((storage.smart (log.filter (·.from? .storage)) name).map fun report =>
          (name, some report, ""),
        log ++ [.readSmart name (storage.smart (log.filter (·.from? .storage)) name)]) :=
    Logged.exec_map _ _ _
  rw [gatherOne, Logged.exec_tryCatch, read]
  rcases storage.smart (log.filter (·.from? .storage)) name with e | report
  · rcases e with error | ⟨className, detail⟩
    · cases error <;> rfl
    · rfl
  · rfl

/-! ### Runs of the page -/

/-- What can happen to a storage page, in any order. -/
inductive StorageEvent
  | load
  | loaded (devices : List StorageDevice)
  | loadFailed (e : PyException)
  | readHealth
  | healthDone (results : List HealthResult)
  | healthFailed (e : PyException)

namespace StorageViewModel

def on (storage : StorageProvider) (vm : StorageViewModel) : StorageEvent → StorageViewModel
  | .load => (vm.load storage).1
  | .loaded devices => vm.apply devices
  | .loadFailed e => vm.loadFailed e
  | .readHealth => (vm.readHealth storage).1
  | .healthDone results => vm.healthDone results
  | .healthFailed e => vm.healthFailed e

end StorageViewModel

/-- The inventory the page shows: an empty listing leaves the one before it. -/
def StorageEvent.inventory (shown : List StorageDevice) : StorageEvent → List StorageDevice
  | .loaded devices => if devices = [] then shown else devices
  | _ => shown

@[simp] theorem StorageCard.ofDevice_name (device : StorageDevice) :
    (StorageCard.ofDevice device).name = device.name := rfl

@[simp] theorem StorageViewModel.withHealth_name (results : List HealthResult)
    (card : StorageCard) : (StorageViewModel.withHealth results card).name = card.name := by
  unfold StorageViewModel.withHealth
  split <;> rfl

/-- An event keeps the cards those of the inventory. -/
theorem StorageViewModel.on_cards_name (storage : StorageProvider) {vm : StorageViewModel}
    {shown : List StorageDevice} (same : vm.cards.map (·.name) = shown.map (·.name))
    (event : StorageEvent) :
    (vm.on storage event).cards.map (·.name) = (event.inventory shown).map (·.name) := by
  cases event with
  | load => exact same
  | loaded devices =>
    simp only [on, apply, StorageEvent.inventory]
    split_ifs with nothing
    · exact same
    · simp [List.map_map]
  | loadFailed e => exact same
  | readHealth =>
    simp only [on, readHealth, StorageEvent.inventory]
    split_ifs <;> exact same
  | healthDone results =>
    simp only [on, healthDone, StorageEvent.inventory, List.map_map]
    rw [← same]
    exact List.map_congr_left fun card _ => withHealth_name results card
  | healthFailed e => exact same

/-- In every run the cards are those of the inventory, in its order. -/
theorem StorageViewModel.run_cards_name (storage : StorageProvider)
    (events : List StorageEvent) :
    (events.foldl (StorageViewModel.on storage) {}).cards.map (·.name) =
      (events.foldl StorageEvent.inventory []).map (·.name) := by
  suffices from_any : ∀ (vm : StorageViewModel) (shown : List StorageDevice),
      vm.cards.map (·.name) = shown.map (·.name) →
      (events.foldl (StorageViewModel.on storage) vm).cards.map (·.name) =
        (events.foldl StorageEvent.inventory shown).map (·.name) from from_any {} [] rfl
  induction events with
  | nil => exact fun _ _ same => same
  | cons event rest ih =>
    intro vm shown same
    exact ih _ _ (on_cards_name storage same event)

end Lapcare.Pages
