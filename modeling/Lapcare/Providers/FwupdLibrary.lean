import Mathlib.Data.List.Induction
import Mathlib.Data.String.Basic
import Lapcare.Providers.Fwupd
import Lapcare.Core.Ports
import Lapcare.Semantics.FailFast
import Lapcare.Semantics.SortedOn

/-!
# What libfwupd lists and refreshes

The rest of `FwupdGir` of `providers/fwupd.py`: the devices, the metadata of the remotes, the
battery that fwupd wants to see before an install, and the progress that it signals. Devices
and remotes of the library are what the provider reads of them.

## Main results

* `FwupdGir.listDevices_ok_iff` — when devices are listed, and in which order
* `FwupdGir.refreshMetadata_eq` — every enabled download remote is tried once, and what comes
  of it
-/

namespace Lapcare.Providers

open Lapcare.Core Semantics

/-! ### Devices -/

/-- `Fwupd.UpdateState`: those that the provider maps, and those of later versions. -/
inductive FwupdUpdateState
  | unknown
  | pending
  | success
  | failed
  | needsReboot
  | failedTransient
  | other (code : Int)
  deriving DecidableEq

/-- `_UPDATE_STATE_MAP`, with its default. -/
def updateStateOf : FwupdUpdateState → UpdateState
  | .unknown => .unknown
  | .pending => .pending
  | .success => .success
  | .failed => .failed
  | .failedTransient => .failedTransient
  | .needsReboot => .needsReboot
  | .other _ => .unknown

/-- A `Fwupd.Device`, with all that a listing reads. -/
structure GotDevice extends LiveDevice where
  name : Option String := none
  summary : Option String := none
  vendor : Option String := none
  version : Option String := none
  versionLowest : Option String := none
  updatable : Bool := false
  needsReboot : Bool := false
  plugin : Option String := none
  updateState : FwupdUpdateState := .unknown
  updateError : Option String := none

namespace GotDevice

/-- A device that says who it is. -/
def Identified (device : GotDevice) : Prop :=
  ∃ id, device.id = some id ∧ id ≠ ""

/-- What a device is called: its name, or its id where it has none. -/
def title (device : GotDevice) : String :=
  if device.name.getD "" = "" then device.id.getD "" else device.name.getD ""

/-- The device under its `id`. -/
def model (device : GotDevice) (id : String) : FirmwareDevice where
  id
  name := device.name
  summary := device.summary
  vendor := device.vendor
  version := device.version
  versionLowest := device.versionLowest
  updatable := device.updatable
  needsReboot := device.needsReboot
  plugin := device.plugin
  updateState := updateStateOf device.updateState
  updateError := device.updateError

end GotDevice

/-- `_device_to_model`. -/
def deviceToModel (device : GotDevice) : Except PyException FirmwareDevice :=
  match device.id with
  | none | some "" => .error (.lapcare (.providerParseError fwupdSource "device with no id"))
  | some id => .ok (device.model id)

/-- The key of a listing: `d.name or d.id`. -/
def listingKey (device : FirmwareDevice) : String :=
  match device.name with
  | none | some "" => device.id
  | some name => name

/-- `list_devices`: no error of the library is told from another. -/
def FwupdGir.listDevices (answer : Except ClientError (List GotDevice)) :
    Except PyException (List FirmwareDevice) :=
  match answer with
  | .error e => .error (e.translate fun _ => fwupdUnavailable)
  | .ok devices => (devices.mapM deviceToModel).map (sortedOn listingKey)

theorem deviceToModel_ok_iff {device : GotDevice} {listed : FirmwareDevice} :
    deviceToModel device = .ok listed ↔
      ∃ id, device.id = some id ∧ id ≠ "" ∧ listed = device.model id := by
  unfold deviceToModel
  split
  case h_1 none_ => simp [none_]
  case h_2 empty => simp [empty]
  case h_3 id named present =>
    simp only [present, Except.ok.injEq, Option.some.injEq]
    constructor
    · rintro rfl
      exact ⟨id, rfl, named, rfl⟩
    · rintro ⟨_, rfl, -, rfl⟩
      rfl

/-- The models of devices that all have an id. -/
def models (devices : List GotDevice) : List FirmwareDevice :=
  devices.map fun device => device.model (device.id.getD "")

/-- A listing goes by what the devices are called. -/
theorem sortedOn_models (devices : List GotDevice) :
    sortedOn listingKey (models devices) = models (sortedOn GotDevice.title devices) := by
  refine sortedOn_map (fun device => ?_) devices
  unfold listingKey GotDevice.title GotDevice.model
  rcases name : device.name with _ | text
  · rfl
  · by_cases empty : text = "" <;> simp [empty]

/-- A listing needs every device to have an id; then it is all of them, by name. -/
theorem FwupdGir.listDevices_ok_iff {answer : Except ClientError (List GotDevice)}
    {listed : List FirmwareDevice} :
    FwupdGir.listDevices answer = .ok listed ↔
      ∃ devices, answer = .ok devices ∧ (∀ device ∈ devices, device.Identified) ∧
        listed = sortedOn listingKey (models devices) := by
  cases answer with
  | error e => simp [listDevices]
  | ok devices =>
    rw [FwupdGir.listDevices]
    have turn (device : GotDevice) (identified : device.Identified) :
        deviceToModel device = .ok (device.model (device.id.getD "")) := by
      obtain ⟨id, present, named⟩ := identified
      exact deviceToModel_ok_iff.mpr ⟨id, present, named, by rw [present]; rfl⟩
    constructor
    · intro done
      rcases all : devices.mapM deviceToModel with e | each
      · rw [all] at done
        cases done
      have identified : ∀ device ∈ devices, device.Identified := by
        intro device member
        obtain ⟨one, modelled⟩ := mapM_ok_mem all device member
        obtain ⟨id, present, named, -⟩ := deviceToModel_ok_iff.mp modelled
        exact ⟨id, present, named⟩
      rw [mapM_eq_map fun device member => turn device (identified device member)] at done
      exact ⟨devices, rfl, identified, (Except.ok.inj done).symm⟩
    · rintro ⟨_, same, identified, rfl⟩
      obtain rfl := Except.ok.inj same
      rw [mapM_eq_map fun device member => turn device (identified device member)]
      rfl

/-! ### Metadata -/

/-- `Fwupd.RemoteKind`. -/
inductive RemoteKind
  | unknown
  | download
  | local_
  | directory
  deriving DecidableEq

/-- A `Fwupd.Remote`. -/
structure Remote where
  id : Option String
  kind : RemoteKind
  enabled : Bool
  deriving DecidableEq

/-- The remotes with metadata to fetch, and the wish to have it fetched. -/
def Remote.isTarget (remote : Remote) : Bool :=
  remote.kind == .download && remote.enabled

/-- What the loop of `refresh_metadata` has done: the remotes it tried, and the names of
those that failed. -/
structure Refreshing where
  tried : List Remote := []
  failures : List String := []

/-- `remote.get_id() or "?"`. -/
def Remote.name (remote : Remote) : String :=
  match remote.id with
  | none | some "" => "?"
  | some id => id

/-- One turn of the loop. Only an error of the library is caught. -/
def refreshRemote (refresh : List Remote → Remote → Except ClientError Unit)
    (past : Refreshing) (remote : Remote) : Except PyException Refreshing :=
  match refresh past.tried remote with
  | .ok () => .ok { past with tried := past.tried ++ [remote] }
  | .error (.glib _) =>
      .ok { tried := past.tried ++ [remote], failures := past.failures ++ [remote.name] }
  | .error (.foreign className detail) => .error (.foreign className detail)

/-- The loop; `refresh` answers from the remotes that were tried before. -/
def refreshRemotes (refresh : List Remote → Remote → Except ClientError Unit)
    (targets : List Remote) : Except PyException Refreshing :=
  targets.foldlM (refreshRemote refresh) {}

/-- The end of `refresh_metadata`, after the loop. -/
def refreshVerdict (targets : List Remote) (failures : List String) : Except PyException Unit :=
  if targets ≠ [] ∧ failures.length = targets.length then
    let names := ", ".intercalate failures
    .error (.lapcare (.providerTimeout fwupdSource s!"all remotes unreachable: {names}"))
  else .ok ()

/-- `refresh_metadata`. -/
def FwupdGir.refreshMetadata (remotes : Except ClientError (List Remote))
    (refresh : List Remote → Remote → Except ClientError Unit) : Except PyException Unit :=
  match remotes with
  | .error e => .error (e.translate fun _ => fwupdUnavailable)
  | .ok remotes => do
      let targets := remotes.filter (·.isTarget)
      let done ← refreshRemotes refresh targets
      refreshVerdict targets done.failures

section Refresh

variable {refresh : List Remote → Remote → Except ClientError Unit}

/-- The library raises nothing but its own errors. -/
def OnlyGLib (refresh : List Remote → Remote → Except ClientError Unit) : Prop :=
  ∀ past remote e, refresh past remote = .error e → ∃ error, e = .glib error

/-- The turn of every target failed. -/
def AllFail (refresh : List Remote → Remote → Except ClientError Unit) (targets : List Remote) :
    Prop :=
  ∀ past remote, past ++ [remote] <+: targets → refresh past remote ≠ .ok ()

/-- Every target was tried once, in order, and as many failed as there are failures. -/
structure Tried (refresh : List Remote → Remote → Except ClientError Unit)
    (targets : List Remote) (done : Refreshing) : Prop where
  tried : done.tried = targets
  few : done.failures.length ≤ targets.length
  all : done.failures.length = targets.length ↔ AllFail refresh targets
  names : AllFail refresh targets → done.failures = targets.map Remote.name

theorem allFail_concat {targets : List Remote} {remote : Remote} :
    AllFail refresh (targets ++ [remote]) ↔
      AllFail refresh targets ∧ refresh targets remote ≠ .ok () := by
  simp only [AllFail, List.prefix_concat_iff]
  constructor
  · intro all
    exact ⟨fun past other within => all past other (.inr within), all targets remote (.inl rfl)⟩
  · rintro ⟨before, last⟩ past other (same | within)
    · obtain ⟨rfl, own⟩ := List.append_inj' same rfl
      obtain rfl := List.singleton_inj.mp own
      exact last
    · exact before past other within

/-- One turn more, whether it fails or not. -/
theorem Tried.concat {targets : List Remote} {done later : Refreshing} {remote : Remote}
    (tried : Tried refresh targets done) (turn : refreshRemote refresh done remote = .ok later) :
    Tried refresh (targets ++ [remote]) later := by
  obtain ⟨same, few, all, names⟩ := tried
  rw [refreshRemote, same] at turn
  rcases answer : refresh targets remote with (error | ⟨className, detail⟩) | _
  · rw [answer] at turn
    obtain rfl := Except.ok.inj turn
    have fails : AllFail refresh (targets ++ [remote]) ↔ AllFail refresh targets := by
      rw [allFail_concat, answer]
      simp
    refine ⟨rfl, by simpa using few, ?_, fun failed => ?_⟩
    · rw [fails, ← all]
      simp
    · simp [names (fails.mp failed)]
  · rw [answer] at turn
    cases turn
  · rw [answer] at turn
    obtain rfl := Except.ok.inj turn
    -- this one was reached, so not all of them fail
    have reached : ¬ AllFail refresh (targets ++ [remote]) := by
      rw [allFail_concat, answer]
      simp
    refine ⟨rfl, ?_, iff_of_false ?_ reached, fun failed => absurd failed reached⟩
    · simpa using few.trans (Nat.le_succ _)
    · simp only [List.length_append, List.length_singleton]
      omega

theorem refreshRemotes_tried (own : OnlyGLib refresh) (targets : List Remote) :
    ∃ done, refreshRemotes refresh targets = .ok done ∧ Tried refresh targets done := by
  induction targets using List.reverseRecOn with
  | nil =>
    refine ⟨{}, rfl, rfl, le_rfl, iff_of_true rfl ?_, fun _ => rfl⟩
    intro past remote within
    simp at within
  | append_singleton targets remote ih =>
    obtain ⟨done, ran, tried⟩ := ih
    obtain ⟨later, turn⟩ : ∃ later, refreshRemote refresh done remote = .ok later := by
      unfold refreshRemote
      rcases answer : refresh done.tried remote with e | _
      · obtain ⟨error, rfl⟩ := own _ _ _ answer
        exact ⟨_, rfl⟩
      · exact ⟨_, rfl⟩
    refine ⟨later, ?_, tried.concat turn⟩
    rw [refreshRemotes, List.foldlM_append]
    rw [refreshRemotes] at ran
    rw [ran]
    simp [bind, Except.bind, pure, Except.pure, turn]

/-- With or without enabled download remotes, each of them is tried once, and the refresh
fails exactly if there are some and none of them can be reached. -/
theorem FwupdGir.refreshMetadata_eq (own : OnlyGLib refresh) (remotes : List Remote) :
    let targets := remotes.filter (·.isTarget)
    (∃ done, refreshRemotes refresh targets = .ok done ∧ done.tried = targets) ∧
    ((targets ≠ [] ∧ AllFail refresh targets) ∧
        FwupdGir.refreshMetadata (.ok remotes) refresh =
          .error (.lapcare (.providerTimeout fwupdSource ("all remotes unreachable: " ++
            ", ".intercalate (targets.map Remote.name)))) ∨
      (targets = [] ∨ ¬ AllFail refresh targets) ∧
        FwupdGir.refreshMetadata (.ok remotes) refresh = .ok ()) := by
  intro targets
  obtain ⟨done, ran, tried⟩ := refreshRemotes_tried own targets
  refine ⟨⟨done, ran, tried.tried⟩, ?_⟩
  have ends : FwupdGir.refreshMetadata (.ok remotes) refresh =
      refreshVerdict targets done.failures := by
    change (refreshRemotes refresh targets >>= fun done => _) = _
    rw [ran]
    rfl
  rw [ends, refreshVerdict]
  split_ifs with unreachable
  · obtain ⟨some_, most⟩ := unreachable
    have failed := tried.all.mp most
    refine .inl ⟨⟨some_, failed⟩, ?_⟩
    rw [tried.names failed]
    rfl
  · refine .inr ⟨?_, rfl⟩
    rw [tried.all] at unreachable
    tauto

end Refresh

/-! ### The battery -/

/-- `_UNKNOWN_BATTERY`. -/
def unknownBattery : Int := 101

/-- `BatteryLevel` and `BatteryThreshold` among the properties of the daemon. -/
structure BatteryProps where
  level : Option Int
  threshold : Option Int

/-- `battery_precondition`. The reply is missing without a bus, or without a daemon. -/
def FwupdGir.batteryPrecondition (reply : Except GLibError BatteryProps) :
    Option Int × Option Int :=
  match reply with
  | .error _ => (none, none)
  | .ok props => (props.level.filter (· < unknownBattery),
      props.threshold.filter (· < unknownBattery))

/-! ### Progress -/

/-- The properties that a `PropertiesChanged` signal carries, of those that are looked at. -/
structure ChangedProps where
  percentage : Option ℕ
  status : Option ℕ
  deriving DecidableEq

/-- `_properties_changed` as long as an install listens: what it is told, where `nick` is the
`value_nick` of a `Fwupd.Status`. -/
def forwarded (nick : ℕ → String) (changed : ChangedProps) : Option (Option Int × String) :=
  if changed.percentage = none ∧ changed.status = none then none
  else
    -- fwupd says 0 for an unknown percentage
    some ((changed.percentage.filter (· ≠ 0)).map (↑), (changed.status.map nick).getD "")

end Lapcare.Providers
