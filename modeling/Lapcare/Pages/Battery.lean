import Lapcare.Core.BatteryAnalysis
import Lapcare.Core.Ports
import Lapcare.Pages.DashboardIdentity
import Lapcare.Platform.History
import Lapcare.Text.Decimal

/-!
# The battery page

`BatteryViewModel` of `ui/pages/battery/view_model.py`. The wear of the batteries is what
the page is about. Their live status may be missing, and then a note says so. A gather
records the wear of the day before it reads the history of each battery back.
-/

namespace Lapcare.Pages

open Lapcare.Core Platform Text

/-- `_STATE_TEXT`. -/
def batteryStateText : BatteryState → String
  | .charging => "Charging"
  | .discharging => "Discharging"
  | .notCharging => "Not charging"
  | .full => "Full"
  | .empty => "Empty"
  | .unknown => "Unknown"

/-- `_HEALTH_TEXT`. -/
def healthText : HealthClass → String
  | .good => "Good"
  | .fair => "Fair"
  | .poor => "Poor"
  | .unknown => "Unknown"

/-- `format_capacity`. -/
def formatCapacity (value : Option Int) (unit : Option CapacityUnit) : String :=
  match value, unit with
  | some amount, some .microWattHours => fixed 1 (amount / 1000000) ++ " Wh"
  | some amount, some .microAmpHours => fixed 0 (amount / 1000) ++ " mAh"
  | _, _ => placeholder

/-- The days of a history with the wear they had, for a chart. -/
abbrev Chart := List (String × ℚ)

/-- `BatteryCard`. -/
structure BatteryCard where
  name : String
  title : String
  chargeText : String := placeholder
  timeText : String := ""
  healthText : String := placeholder
  healthClass : HealthClass := .unknown
  wearText : String := placeholder
  cyclesText : String := placeholder
  capacityText : String := placeholder
  history : Chart := []
  deriving DecidableEq

/-- The list of statuses, or none where the status could not be read, beside the wear and
the histories. `histories` is a dictionary, the latest assignment first. -/
structure BatteryData where
  wearList : List BatteryWear
  statusList : Option (List BatteryStatus)
  histories : List (String × Chart)

namespace BatteryCard

def wornText : Option ℚ → String
  | some wear => fixed 1 wear ++ "% worn"
  | none => placeholder

/-- `x for x in (wear.manufacturer, wear.model_name) if x`, joined. -/
def hardware (wear : BatteryWear) : String :=
  " — ".intercalate (presentTexts [wear.manufacturer, wear.modelName])

/-- The card before its status. -/
def ofWear (wear : BatteryWear) (history : Chart) : BatteryCard :=
  let worn := wearPercent wear.capacityFull wear.capacityDesign
  let health := classifyWear worn
  let full := formatCapacity wear.capacityFull wear.capacityUnit
  let design := formatCapacity wear.capacityDesign wear.capacityUnit
  { name := wear.name
    title := if hardware wear = "" then wear.name else wear.name ++ " · " ++ hardware wear
    healthText := Pages.healthText health
    healthClass := health
    wearText := wornText worn
    cyclesText := (wear.cycleCount.map fun count => toString count).getD placeholder
    capacityText := s!"{full} of {design} design"
    history }

/-- A float with a fixed number of decimal places. -/
def floatText (digits : ℕ) : PyFloat → String
  | .finite value => fixed digits value
  | .infinite negative => if negative then "-inf" else "inf"
  | .nan => "nan"

/-- A time that is known, and not zero. -/
def shownTime : Option Int → Option ℚ
  | some 0 | none => none
  | some seconds => some seconds

def timeOf (status : BatteryStatus) : String :=
  match shownTime status.timeToEmptyS, shownTime status.timeToFullS with
  | some seconds, _ => uptimeText seconds ++ " until empty"
  | none, some seconds => uptimeText seconds ++ " until full"
  | none, none => ""

/-- `status_by_name.get(wear.name)`, and what it says. -/
def withStatus (card : BatteryCard) : Option BatteryStatus → BatteryCard
  | none => card
  | some status =>
      let percentage := (status.percentage.map fun x => floatText 0 x ++ "%").getD placeholder
      { card with
        chargeText := percentage ++ " · " ++ batteryStateText status.state
        timeText := timeOf status }

end BatteryCard

namespace BatteryData

/-- Of two statuses with one name the later one counts. -/
def statusOf (data : BatteryData) (name : String) : Option BatteryStatus :=
  (data.statusList.getD []).reverse.find? (·.name = name)

/-- `history.get(name, [])`. -/
def historyOf (data : BatteryData) (name : String) : Chart :=
  (data.histories.lookup name).getD []

def card (data : BatteryData) (wear : BatteryWear) : BatteryCard :=
  (BatteryCard.ofWear wear (data.historyOf wear.name)).withStatus (data.statusOf wear.name)

end BatteryData

structure BatteryViewModel extends PageViewModel where
  statusNote : String := ""
  reloadPending : Bool := false
  cards : List BatteryCard := []
  deriving DecidableEq

/-- What a method of the page asks of the scheduler or of the main loop. -/
inductive BatteryEffect
  | submitGather
  | startTimer (milliseconds : ℕ)
  deriving DecidableEq

namespace BatteryViewModel

def load (vm : BatteryViewModel) : BatteryViewModel × List BatteryEffect :=
  ({ vm with toPageViewModel := vm.showLoading }, [.submitGather])

/-- `_on_status_changed`: changes are coalesced while a reload is pending. -/
def onStatusChanged (vm : BatteryViewModel) : BatteryViewModel × List BatteryEffect :=
  if vm.reloadPending then (vm, [])
  else ({ vm with reloadPending := true }, [.startTimer reloadDebounceMs])

/-- `_reload`, when the timer fires. -/
def reload (vm : BatteryViewModel) : BatteryViewModel × List BatteryEffect :=
  ({ vm with reloadPending := false }, [.submitGather])

def statusNoteText : String :=
  "Live charge status unavailable — install/start the 'upower' service."

/-- `_apply`. -/
def apply (vm : BatteryViewModel) (data : BatteryData) : BatteryViewModel :=
  if data.wearList = [] then
    { vm with
      toPageViewModel :=
        vm.showUnavailable "No batteries detected on this system."
          "Nothing to do — battery features need a battery." }
  else
    { vm with
      toPageViewModel := vm.showReady
      statusNote := if data.statusList = none then statusNoteText else ""
      cards := data.wearList.map data.card }

/-- The callback of a gather that ended: `_apply` or `handle_error`. -/
def complete (vm : BatteryViewModel) : Except PyException BatteryData → BatteryViewModel
  | .ok data => vm.apply data
  | .error e => { vm with toPageViewModel := vm.handleError e }

end BatteryViewModel

/-! ### The end of a gather -/

/-- The days whose wear is known, of a history. -/
def knownWear (rows : List WearSnapshot) : Chart :=
  rows.filterMap fun row => row.wearPercent.map (row.day, ·)

/-- `except LapcareError` around the status. -/
def statusOrNone : Except PyException (List BatteryStatus) →
    Except PyException (Option (List BatteryStatus))
  | .ok statuses => .ok (some statuses)
  | .error (.lapcare _) => .ok none
  | .error (.foreign className detail) => .error (.foreign className detail)

/-- A recording, where SQLite can hold what is bound. -/
def recordingOf (store : SqliteHistoryStore) (today : Date) (wear : BatteryWear) :
    Option Recording :=
  if fits : ∀ n ∈ wear.cycleCount.toList ++ wear.capacityFull.toList ++
      wear.capacityDesign.toList, FitsInteger n then
    some { store, wear, day := none, today, fits }
  else none

/-- What the loop over the wear list works on: the databases, how often the clock was read,
and the histories so far. `recorded` is the log of what was recorded. -/
structure Recorder where
  disk : Disk
  readings : ℕ := 0
  histories : List (String × Chart) := []
  recorded : List Recording := []

section Recorder

variable (clock : ℕ → Date) (store : SqliteHistoryStore)

/-- One turn of the loop. -/
def Recorder.turn (recorder : Recorder) (wear : BatteryWear) :
    Except PyException Unit × Recorder :=
  let today := clock recorder.readings
  let (outcome, disk) := store.recordWear recorder.disk (snapshotFromWear today wear)
  match outcome with
  | .error e => (.error e, { recorder with disk, readings := recorder.readings + 1 })
  | .ok () =>
      let (rows, disk) := store.wearHistory disk wear.name
      let later : Recorder :=
        { recorder with
          disk
          readings := recorder.readings + 1
          recorded := recorder.recorded ++ (recordingOf store today wear).toList }
      match rows with
      | .error e => (.error e, later)
      | .ok rows =>
          (.ok (), { later with histories := (wear.name, knownWear rows) :: later.histories })

/-- The loop, as far as it comes. -/
def Recorder.loop (recorder : Recorder) : List BatteryWear → Except PyException Unit × Recorder
  | [] => (.ok (), recorder)
  | wear :: rest =>
      match recorder.turn clock store wear with
      | (.error e, later) => (.error e, later)
      | (.ok (), later) => later.loop rest

end Recorder

end Lapcare.Pages
