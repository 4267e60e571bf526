import Lapcare.Core.FirmwarePolicy
import Lapcare.Core.Ports
import Lapcare.Pages.PageViewModel
import Lapcare.Text.Lines

/-!
# The firmware page

`FirmwareViewModel` of `ui/pages/firmware/view_model.py`. Every method is a function
from the view-model to the view-model after it and the effects it has: what it submits
to the scheduler, and the debounce timer it starts. The callbacks of a submission are
methods like any other.
-/

namespace Lapcare.Pages

open Lapcare.Core Semantics Text

def placeholder : String := "—"

/-- `_RELOAD_DEBOUNCE_MS`. -/
def reloadDebounceMs : ℕ := 700

/-- `_REBOOT_PENDING_STATES`: flashed, and waiting for a reboot. -/
def rebootPendingStates : List UpdateState := [.needsReboot, .pending]

/-- The casing tables that `str.capitalize` reads: the title case of a character, and
the lower case of what follows the first character of a string. -/
structure Casing where
  title : Char → String
  lowerTail : String → String
  title_ne_empty : ∀ c, title c ≠ ""

/-- `str.capitalize`. -/
def Casing.capitalize (casing : Casing) (text : String) : String :=
  match text.toList with
  | [] => ""
  | first :: _ => casing.title first ++ casing.lowerTail text

theorem Casing.capitalize_ne_empty (casing : Casing) {text : String} (named : text ≠ "") :
    casing.capitalize text ≠ "" := by
  unfold Casing.capitalize
  split
  case h_1 nothing => exact absurd (String.toList_eq_nil_iff.mp nothing) named
  case h_2 first rest _ =>
    intro empty
    exact casing.title_ne_empty first (String.append_eq_empty_iff.mp empty).1

/-- Display data for one firmware device. -/
structure DeviceCard where
  id : String
  title : String
  subtitle : String
  versionText : String := placeholder
  updatable : Bool := false
  releases : List FirmwareRelease := []
  upgradeNote : String := ""
  updateError : String := ""
  deriving DecidableEq

/-- What a gather brought home for one device: its releases, and a note if they could
not be listed. -/
abbrev Gathered := FirmwareDevice × List FirmwareRelease × String

def upgradesNote : String := "Could not check for updates for this device."

/-- `x for x in values if x`. -/
def presentTexts (values : List (Option String)) : List String :=
  values.filterMap id |>.filter (· ≠ "")

def DeviceCard.ofGathered : Gathered → DeviceCard
  | (device, releases, note) =>
      { id := device.id
        title := orText device.name device.id
        subtitle := " · ".intercalate (presentTexts [device.vendor, device.plugin])
        versionText := orText device.version placeholder
        updatable := device.updatable
        releases
        upgradeNote := note
        updateError := device.updateError.getD "" }

/-- What a method asks of the scheduler or of the main loop. -/
inductive Effect
  | submitGather
  | submitRefresh
  | submitInstall (deviceId : String) (release : FirmwareRelease)
  | startTimer (milliseconds : ℕ)
  deriving DecidableEq

structure FirmwareViewModel extends PageViewModel where
  busyText : String := ""
  flowBanner : String := ""
  rebootBanner : String := ""
  resultText : String := ""
  toastText : String := ""
  reloadPending : Bool := false
  installing : Bool := false
  cards : List DeviceCard := []
  deriving DecidableEq

namespace FirmwareViewModel

def load (vm : FirmwareViewModel) : FirmwareViewModel × List Effect :=
  ({ vm with toPageViewModel := vm.showLoading }, [.submitGather])

/-- `_load_failed`. -/
def loadFailed (vm : FirmwareViewModel) (e : PyException) : FirmwareViewModel :=
  { vm with toPageViewModel := vm.handleError e }

/-! ### Change signals -/

/-- `_on_changed`: signals are coalesced while a reload is pending, and skipped while an
install runs. -/
def onChanged (vm : FirmwareViewModel) : FirmwareViewModel × List Effect :=
  -- the timer that runs already, or the end of the install, will gather
  if vm.reloadPending || vm.installing then (vm, [])
  else ({ vm with reloadPending := true }, [.startTimer reloadDebounceMs])

/-- `_reload`, when the timer fires. -/
def reload (vm : FirmwareViewModel) : FirmwareViewModel × List Effect :=
  ({ vm with reloadPending := false }, if vm.installing then [] else [.submitGather])

/-! ### Gathering -/

/-- One turn of `_gather`: the failed query of one device is a note on that device. -/
def gatherOne (firmware : FirmwareProvider) (device : FirmwareDevice) : Gather Gathered :=
  if device.updatable then
    tryCatch ((fun releases => (device, releases, "")) <$> firmware.listUpgrades device.id) fun
      -- one device without an answer does not hide the others
      | .lapcare _ => pure (device, [], upgradesNote)
      | .foreign className detail => throw (.foreign className detail)
  else pure (device, [], "")

/-- `_gather`. -/
def gather (firmware : FirmwareProvider) : Gather (List Gathered) := do
  let devices ← firmware.listDevices
  devices.mapM (gatherOne firmware)

/-- The titles of the devices whose update waits for a reboot. -/
def rebootPending (data : List Gathered) : List String :=
  (data.filter fun gathered => gathered.1.updateState ∈ rebootPendingStates).map fun gathered =>
    (DeviceCard.ofGathered gathered).title

/-- `_apply`. -/
def apply (vm : FirmwareViewModel) (data : List Gathered) : FirmwareViewModel :=
  if data = [] then
    { vm with
      toPageViewModel :=
        vm.showUnavailable "fwupd reports no firmware devices on this system."
          "Nothing to do — no device exposes updatable firmware." }
  else
    { vm with
      toPageViewModel := vm.showReady
      cards := data.map DeviceCard.ofGathered
      rebootBanner :=
        if rebootPending data = [] then ""
        else
          "Restart the system to finish updating: " ++ ", ".intercalate (rebootPending data) }

/-! ### Metadata refresh -/

def refreshingText : String := "Refreshing update metadata…"

def refreshMetadata (vm : FirmwareViewModel) : FirmwareViewModel × List Effect :=
  if vm.busyText ≠ "" then (vm, [])
  else ({ vm with busyText := refreshingText }, [.submitRefresh])

/-- `_refresh_done`. -/
def refreshDone (vm : FirmwareViewModel) : FirmwareViewModel × List Effect :=
  ({ vm with busyText := "", toastText := "Update metadata refreshed." }, [.submitGather])

/-- `_refresh_failed`. -/
def refreshFailed (vm : FirmwareViewModel) : FirmwareViewModel :=
  { vm with
    busyText := ""
    toastText := "Could not refresh update metadata — check your connection." }

/-! ### The install flow -/

def installingText : String := "Installing firmware update…"

/-- `request_install`; `level` and `threshold` are the answer of `battery_precondition`. -/
def requestInstall (vm : FirmwareViewModel) (deviceId : String) (release : FirmwareRelease)
    (level threshold : Option Int) : FirmwareViewModel × List Effect :=
  if vm.busyText ≠ "" then (vm, [])
  else if batteryOkForUpdate level threshold then
    ({ vm with
        flowBanner := ""
        resultText := ""
        installing := true
        busyText := installingText },
      [.submitInstall deviceId release])
  -- nothing is submitted, and an earlier result stays
  else
    let shown := level.getD 0
    let needed := threshold.getD 0
    ({ vm with
        flowBanner :=
          s!"Battery too low for a firmware update ({shown}%, needs {needed}%). " ++
            "Connect AC power and charge first." },
      [])

/-- `_on_progress`. -/
def onProgress (casing : Casing) (vm : FirmwareViewModel) (percentage : Option Int)
    (status : String) : FirmwareViewModel :=
  if vm.installing then
    let text := if status = "" then installingText else casing.capitalize status
    { vm with
      busyText :=
        match percentage with
        | some done => s!"{text} · {done}%"
        | none => text }
  else vm

/-- The text of an applied update, with no white space around it. -/
def updatedText (release : FirmwareRelease) : String :=
  let what := orText release.name "firmware update"
  let changed := release.summary.getD ""
  String.ofList (strip s!"Updated to {what} {release.version}. {changed}".toList)

/-- `_install_done`. -/
def installDone (vm : FirmwareViewModel) (release : FirmwareRelease) :
    FirmwareViewModel × List Effect :=
  ({ vm with installing := false, busyText := "", resultText := updatedText release },
    [.submitGather])

/-- `_install_failed`: a declined prompt is a toast, a failed install a banner and a
reload, anything else the error page. -/
def installFailed (vm : FirmwareViewModel) (e : PyException) :
    FirmwareViewModel × List Effect :=
  let vm := { vm with installing := false, busyText := "" }
  match e with
  | .lapcare (.privilegedActionDenied _) =>
      ({ vm with toastText := "Firmware update cancelled." }, [])
  | .lapcare (.firmwareInstallFailed _ detail) =>
      ({ vm with flowBanner := s!"The firmware update failed: {detail} — you can retry." },
        [.submitGather])
  -- the page goes, and the devices are not gathered again
  | e => ({ vm with toPageViewModel := vm.handleError e }, [])

end FirmwareViewModel

end Lapcare.Pages
