import Lapcare.Core.LevelsReached
import Lapcare.Core.PythonNumbers
import Lapcare.Pages.FirmwareListing
import Lapcare.Providers.BatteryFamilies
import Lapcare.Providers.BlockDevices
import Lapcare.Providers.Hwmon
import Lapcare.Providers.MountFailures
import Lapcare.Providers.ToolFailures

/-!
# The diagnosis of a machine

A diagnostics run over the providers that the application hands to it. The machine is what
these find: its files, its drives behind `pkexec`, the firmware library, and what `statvfs`
says. What a verdict says is read off the machine, past every provider in between.

## Main results

* `inputs_of_machine` — what a run on the machine hands to its checks
* `le_resultOf_iff` — what the machine shows where a check reaches a level
-/

namespace Lapcare.Pages

open Lapcare.Core Semantics Semantics.Logged Platform Providers Text

/-- What of Python the providers use: built-in types, `json.loads`, which characters are decimal
digits, and the names of characters. -/
structure Interpreter where
  builtins : Builtins
  loads : String → Loads
  isDecimal : Char → Bool
  names : List UInt8 → Option Char

/-- A machine, which stays as it is during a run. -/
structure DiagnosedMachine where
  drives : StorageMachine
  library : FwupdState
  statvfs : List Char → Except StatvfsError Stat

namespace DiagnosedMachine

variable (python : Interpreter) (machine : DiagnosedMachine)

def root : Root :=
  machine.drives.root

def mountsFile : RelPath := ["proc", "mounts"]

/-- What `DiskUsageStatvfs` finds. -/
def host : Host where
  mounts := machine.root.content mountsFile
  statvfs := machine.statvfs
  names := python.names

/-- `BatterySysfs` as a port. -/
def batterySysfs : BatteryWearProvider where
  batteries _ := .ok (listBatteries python.builtins machine.root)

/-- The providers that `do_activate` of `app.py` hands to the diagnostics page. -/
def sources : Sources where
  batteryWear := some (machine.batterySysfs python)
  storage := some (storageSmartPkexec python.loads python.builtins fun _ => machine.drives)
  firmware := some (fwupdGir fun _ => machine.library)
  thermal := some (hwmonProvider python.isDecimal python.builtins machine.root)
  disk := some (machine.host python).provider

/-- What is documented of the parts that are not the application's own, on what they are given
here. -/
structure Documented : Prop where
  loads : ∀ device out, runTool machine.drives.host "pkexec" [helperPath, "smart-report", device]
    pkexecTimeoutS = .ok out → (python.loads out).Expected
  statvfs : ∀ data, machine.root.content mountsFile = some data →
    ExpectedAt machine.statvfs (readText python.names (decode data))
  devices : ∀ className detail, machine.library.devices ≠ .error (.foreign className detail)
  upgrades : ∀ deviceId className detail,
    machine.library.client.getUpgrades deviceId ≠ .error (.foreign className detail)
  -- numbers are no greater than their texts and their types allow
  numerals : python.builtins.Decimal
  integers : ∀ out data path n, python.loads out = .value data → data.get? path = some (.int n) →
    n.natAbs < 10 ^ maxStrDigits
  blocks : ∀ path stat, machine.statvfs path = .ok stat → stat.bavail < 2 ^ 64

/-- What is read of the mount table decodes. -/
def TableDecodes : Prop :=
  ∀ data, machine.root.content mountsFile = some data → Decodable python.names data

/-! ### What a machine shows -/

/-- The family of which a battery is judged: energy if there is any of it. -/
def Judged (name : String) (unit : CapacityUnit) : Prop :=
  unit = .microWattHours ∨ Missing python.builtins machine.root name .microWattHours

/-- Some battery is worn to a level, by two files of one family. -/
def BatteryReaches (level : CheckStatus) : Prop :=
  ∃ name ∈ (machine.root.entries powerSupplyDir).getD ∅, IsBattery machine.root name ∧
    ∃ unit full design, machine.Judged python name unit ∧
      entryInt python.builtins machine.root name (fullFile unit) = some full ∧
      entryInt python.builtins machine.root name (designFile unit) = some design ∧ 0 < design ∧
      level ≤ wearVerdict (wearPercent (some full) (some design))

/-- `smartctl` tells this of the disk, to a helper that the user authorized. -/
def TellsOf (disk : StorageDevice) (report : SmartReport) : Prop :=
  ∃ helper, machine.drives.authorized = some helper ∧
    Told python.loads helper disk.name report

/-- Every disk is told of, and some disk reaches the level. -/
def DrivesReach (level : CheckStatus) : Prop :=
  (∀ disk, IsDisk python.builtins machine.root disk →
      ∃ report, machine.TellsOf python disk report) ∧
    ∃ disk report, IsDisk python.builtins machine.root disk ∧
      machine.TellsOf python disk report ∧ level ≤ report.severity

/-- What the library answers for a device: its releases, or that there are none. -/
inductive Offers (deviceId : String) : List LiveRelease → Prop
  | upgrades {releases : List LiveRelease}
      (answer : machine.library.client.getUpgrades deviceId = .ok releases)
      (versioned : ∀ release ∈ releases, ∃ version, release.version = some version ∧ version ≠ "") :
      Offers deviceId releases
  | nothing {e : GLibError}
      (answer : machine.library.client.getUpgrades deviceId = .error (.glib e))
      (current : e.isFwupd .nothingToDo = true ∨ e.isFwupd .notFound = true) :
      Offers deviceId []

/-- The library lists devices that all say who they are, and answers for every one that can be
updated. Some release reaches the level, unless that is reached without one. -/
def FirmwareReaches (level : CheckStatus) : Prop :=
  ∃ devices, machine.library.devices = .ok devices ∧
    (∀ device ∈ devices, device.Identified) ∧
    (∀ device ∈ devices, device.updatable = true →
      ∃ releases, machine.Offers (device.id.getD "") releases) ∧
    (level ≤ .ok ∨ ∃ device ∈ devices, device.updatable = true ∧
      ∃ releases, machine.Offers (device.id.getD "") releases ∧ ∃ release ∈ releases,
        level ≤ if release.urgency = some "critical" then .critical else .warning)

/-- The millidegrees from which a level is reached. -/
def lowest : CheckStatus → Int
  | .critical => 95000
  | .warning => 85000
  | .ok | .skipped => 1001

/-- A source of the mount table reaches the level, at the mountpoint where the table names it
first. -/
def MountReaches (level : CheckStatus) : Prop :=
  ∃ (data : List UInt8) (readings : List Reading),
    machine.root.content mountsFile = some data ∧ data.length ≤ mountsMaxBytes ∧
    readText python.names (decode data) = readings.map .ok ∧
    ∃ visit stat, readings.find? (·.1 = visit.1) = some visit ∧
      machine.statvfs visit.2 = .ok stat ∧ level ≤ (usage visit.2 stat).severity

/-- What a machine shows where the check that a source feeds reaches a level. Drives are only
asked on request. -/
def Reaches (requested : Bool) (level : CheckStatus) : Source → Prop
  | .batteryWear => machine.BatteryReaches python level
  | .storage => requested = true ∧ machine.DrivesReach python level
  | .firmware => machine.FirmwareReaches level
  | .thermal => SlotBetween python.isDecimal python.builtins machine.root (lowest level) 119000
  | .disk => machine.MountReaches python level

/-! ### Batteries -/

variable {python machine} {level : CheckStatus} (above : .skipped < level)

/-- The capacities of a battery are those of the family of which it is judged, if that has
any. -/
theorem readCapacity_judged {name : String} {unit : CapacityUnit}
    (judged : machine.Judged python name unit)
    (present : ¬ Missing python.builtins machine.root name unit) :
    readCapacity python.builtins machine.root (powerSupplyDir ++ [name]) =
      (entryInt python.builtins machine.root name (fullFile unit),
        entryInt python.builtins machine.root name (designFile unit), some unit) := by
  cases unit with
  | microWattHours => exact readCapacity_energy _ _ present
  | microAmpHours =>
    rcases judged with other | missing
    · cases other
    · exact readCapacity_charge _ _ missing present

/-- A battery with a capacity is judged of one family. -/
theorem exists_judged {name : String}
    (some_ : readCapacity python.builtins machine.root (powerSupplyDir ++ [name]) ≠
      (none, none, none)) :
    ∃ unit, machine.Judged python name unit ∧
      ¬ Missing python.builtins machine.root name unit := by
  by_cases energy : Missing python.builtins machine.root name .microWattHours
  · refine ⟨.microAmpHours, .inr energy, fun charge => some_ ?_⟩
    exact readCapacity_missing _ _ energy charge
  · exact ⟨.microWattHours, .inl rfl, energy⟩

include above

theorem le_wear_iff (name : String) :
    let battery := batteryWear python.builtins machine.root name
    level ≤ wearVerdict (wearPercent battery.capacityFull battery.capacityDesign) ↔
      ∃ unit full design, machine.Judged python name unit ∧
        entryInt python.builtins machine.root name (fullFile unit) = some full ∧
        entryInt python.builtins machine.root name (designFile unit) = some design ∧
        0 < design ∧ level ≤ wearVerdict (wearPercent (some full) (some design)) := by
  dsimp only
  constructor
  · intro reached
    -- an unknown wear reaches nothing
    have known : wearPercent (batteryWear python.builtins machine.root name).capacityFull
        (batteryWear python.builtins machine.root name).capacityDesign ≠ none := by
      intro unknown
      rw [unknown] at reached
      exact absurd reached (not_le.mpr above)
    obtain ⟨full, design, fullRead, designRead, positive⟩ := (wearPercent_ne_none_iff _ _).mp known
    have some_ : readCapacity python.builtins machine.root (powerSupplyDir ++ [name]) ≠
        (none, none, none) := by
      intro nothing
      change (readCapacity _ _ _).1 = _ at fullRead
      rw [nothing] at fullRead
      cases fullRead
    obtain ⟨unit, judged, present⟩ := exists_judged some_
    rw [fullRead, designRead] at reached
    change (readCapacity _ _ _).1 = _ at fullRead
    change (readCapacity _ _ _).2.1 = _ at designRead
    rw [readCapacity_judged judged present] at fullRead designRead
    exact ⟨unit, full, design, judged, fullRead, designRead, positive, reached⟩
  · rintro ⟨unit, full, design, judged, fullRead, designRead, -, reached⟩
    have present : ¬ Missing python.builtins machine.root name unit := by
      intro missing
      rw [missing.1] at fullRead
      cases fullRead
    have capacity := readCapacity_judged judged present
    rw [fullRead, designRead] at capacity
    simpa only [batteryWear, capacity] using reached

theorem le_battery_iff :
    level ≤ (checkBatteryWear (some (listBatteries python.builtins machine.root))).status ↔
      machine.BatteryReaches python level := by
  simp only [le_checkBatteryWear_iff above, Option.some.injEq, exists_eq_left', listBatteries_eq,
    List.mem_map, List.mem_filter, Root.sortedNames, Finset.mem_sort, decide_eq_true_eq]
  constructor
  · rintro ⟨_, ⟨name, ⟨listed, battery⟩, rfl⟩, reached⟩
    exact ⟨name, listed, battery, (le_wear_iff above name).mp reached⟩
  · rintro ⟨name, listed, battery, reached⟩
    exact ⟨_, ⟨name, ⟨listed, battery⟩, rfl⟩, (le_wear_iff above name).mpr reached⟩

omit above

/-! ### Drives -/

/-- A report arrives exactly where it was authorized and told. -/
theorem readSmart_ok_iff {disk : StorageDevice} {report : SmartReport} :
    readSmart python.loads (runTool machine.drives.host) disk.name = .ok report ↔
      machine.TellsOf python disk report := by
  constructor
  · exact told_of_readSmart
  · rintro ⟨helper, allowed, stdout, reported, output⟩
    rw [StorageMachine.host, allowed]
    exact reported.readSmart.trans (readOutput_ok_iff.mpr output)

/-- What the loop of a run over the drives comes to. -/
def reports (python : Interpreter) (machine : DiagnosedMachine) :
    Except PyException (List SmartReport) :=
  listBlockDevices python.builtins machine.root >>= fun devices =>
    devices.mapM fun disk => readSmart python.loads (runTool machine.drives.host) disk.name

theorem alone_readReports_drives :
    alone (readReports (storageSmartPkexec python.loads python.builtins fun _ => machine.drives)) =
      machine.reports python :=
  alone_loop rfl fun _ _ => rfl

/-- Neither host lets anything foreign escape. -/
theorem contained_host (device : String) :
    Contained machine.drives.host "pkexec" [helperPath, "smart-report", device]
      pkexecTimeoutS := by
  intro path found
  unfold StorageMachine.host
  cases machine.drives.authorized with
  | none => exact id
  | some helper => exact id

theorem onlyLapcare_reports (documented : machine.Documented python) :
    OnlyLapcare (machine.reports python) := by
  apply onlyLapcare_bind
  · unfold listBlockDevices
    split
    · exact onlyLapcare_lapcare _
    · exact onlyLapcare_ok _
  · intro devices
    refine onlyLapcare_mapM (fun disk => ?_) devices
    have pkexec : "pkexec" ∈ allowedTools.map (·.1) := by simp [allowedTools]
    rw [(translates_readSmart (documented.loads disk.name)).onlyLapcare_iff,
      runTool_raisesOwn_iff pkexec]
    exact contained_host disk.name

/-- What the loop brings home was told of some disk. -/
theorem told_of_reports {read : List SmartReport} (done : machine.reports python = .ok read)
    {report : SmartReport} (member : report ∈ read) :
    ∃ disk, machine.TellsOf python disk report := by
  unfold reports at done
  rcases listing : listBlockDevices python.builtins machine.root with e | devices
  · rw [listing] at done
    cases done
  · rw [listing] at done
    obtain ⟨disk, -, answer⟩ := (mem_mapM_ok_iff done).mp member
    exact ⟨disk, readSmart_ok_iff.mp answer⟩

/-- The loop reads every disk, or brings home nothing. -/
theorem exists_reports_iff {holds : SmartReport → Prop} :
    (∃ read, machine.reports python = .ok read ∧ ∃ report ∈ read, holds report) ↔
      (∀ disk, IsDisk python.builtins machine.root disk →
        ∃ report, machine.TellsOf python disk report) ∧
      ∃ disk report, IsDisk python.builtins machine.root disk ∧
        machine.TellsOf python disk report ∧ holds report := by
  unfold reports
  rcases listing : listBlockDevices python.builtins machine.root with e | devices
  · -- without a listing there is no disk either
    refine iff_of_false ?_ ?_
    · rintro ⟨read, done, -⟩
      cases done
    · rintro ⟨-, disk, -, isDisk, -⟩
      unfold listBlockDevices at listing
      split at listing
      · rename_i nothing
        have listed := isDisk.listed
        simp [nothing] at listed
      · cases listing
  · have loop : (Except.ok devices >>= fun devices : List StorageDevice => devices.mapM fun disk =>
        readSmart python.loads (runTool machine.drives.host) disk.name) =
        devices.mapM fun disk =>
          readSmart python.loads (runTool machine.drives.host) disk.name := rfl
    rw [loop, exists_mem_mapM_ok_iff]
    simp only [readSmart_ok_iff, mem_listDevices_iff listing]
    constructor
    · rintro ⟨all, disk, isDisk, report, told, reached⟩
      exact ⟨all, disk, report, isDisk, told, reached⟩
    · rintro ⟨all, disk, report, isDisk, told, reached⟩
      exact ⟨all, disk, isDisk, report, told, reached⟩

/-! ### Firmware -/

theorem exists_releaseToModel_iff {release : LiveRelease} :
    (∃ read, releaseToModel release = .ok read) ↔
      ∃ version, release.version = some version ∧ version ≠ "" := by
  unfold releaseToModel
  split <;> simp_all

theorem severity_of_releaseToModel {release : LiveRelease} {read : FirmwareRelease}
    (made : releaseToModel release = .ok read) :
    read.severity = if release.urgency = some "critical" then .critical else .warning := by
  have urgency : read.urgency = release.urgency := by
    unfold releaseToModel at made
    split at made
    · cases made
    · cases made
    · obtain rfl := Except.ok.inj made
      rfl
  simp [FirmwareRelease.severity, urgency]

/-- The upgrades of a device are what the library offers, as the models of the releases. -/
theorem listUpgrades_ok_iff {deviceId : String} {read : List FirmwareRelease} :
    machine.library.client.listUpgrades deviceId = .ok read ↔
      ∃ releases, machine.Offers deviceId releases ∧ releases.mapM releaseToModel = .ok read := by
  constructor
  · intro listed
    unfold FwupdClient.listUpgrades at listed
    rcases answer : machine.library.client.getUpgrades deviceId with
      (e | ⟨className, detail⟩) | releases
    · rw [answer] at listed
      dsimp only at listed
      split_ifs at listed with current
      obtain rfl := Except.ok.inj listed
      exact ⟨[], .nothing answer (Bool.or_eq_true_iff.mp current), rfl⟩
    · rw [answer] at listed
      cases listed
    · rw [answer] at listed
      refine ⟨releases, .upgrades answer fun release member => ?_, listed⟩
      exact exists_releaseToModel_iff.mp (mapM_ok_mem listed release member)
  · rintro ⟨releases, offers, made⟩
    unfold FwupdClient.listUpgrades
    cases offers with
    | upgrades answer versioned =>
      rw [answer]
      exact made
    | nothing answer current =>
      rw [answer]
      exact (if_pos (Bool.or_eq_true_iff.mpr current)).trans made

theorem Offers.exists_models {deviceId : String} {releases : List LiveRelease}
    (offers : machine.Offers deviceId releases) :
    ∃ read, releases.mapM releaseToModel = .ok read := by
  cases offers with
  | upgrades answer versioned =>
    exact exists_mapM_ok_iff.mpr fun release member =>
      exists_releaseToModel_iff.mpr (versioned release member)
  | nothing => exact ⟨[], rfl⟩

theorem exists_listUpgrades_iff {deviceId : String} :
    (∃ read, machine.library.client.listUpgrades deviceId = .ok read) ↔
      ∃ releases, machine.Offers deviceId releases := by
  simp only [listUpgrades_ok_iff]
  constructor
  · rintro ⟨read, releases, offers, -⟩
    exact ⟨releases, offers⟩
  · rintro ⟨releases, offers⟩
    obtain ⟨read, made⟩ := offers.exists_models
    exact ⟨read, releases, offers, made⟩

theorem exists_severe_upgrade_iff {deviceId : String} :
    (∃ read, machine.library.client.listUpgrades deviceId = .ok read ∧
        ∃ release ∈ read, level ≤ release.severity) ↔
      ∃ releases, machine.Offers deviceId releases ∧ ∃ release ∈ releases,
        level ≤ if release.urgency = some "critical" then .critical else .warning := by
  simp only [listUpgrades_ok_iff]
  constructor
  · rintro ⟨read, ⟨releases, offers, made⟩, model, member, reached⟩
    obtain ⟨release, here, own⟩ := (mem_mapM_ok_iff made).mp member
    rw [severity_of_releaseToModel own] at reached
    exact ⟨releases, offers, release, here, reached⟩
  · rintro ⟨releases, offers, release, here, reached⟩
    obtain ⟨read, made⟩ := offers.exists_models
    obtain ⟨model, own⟩ := mapM_ok_mem made release here
    refine ⟨read, ⟨releases, offers, made⟩, model,
      (mem_mapM_ok_iff made).mpr ⟨release, here, own⟩, ?_⟩
    rw [severity_of_releaseToModel own]
    exact reached

/-- What the loop of a run over the firmware devices comes to. -/
def pending (machine : DiagnosedMachine) : Except PyException (List FirmwareRelease) :=
  (FwupdGir.listDevices machine.library.devices >>= fun devices =>
    (devices.filter (·.updatable)).mapM fun device =>
      machine.library.client.listUpgrades device.id).map List.flatten

theorem alone_readPending_library :
    alone (readPending (fwupdGir fun _ => machine.library)) = machine.pending := by
  have listed : (exec (fwupdGir fun _ => machine.library).listDevices []).1 =
      FwupdGir.listDevices machine.library.devices := rfl
  rw [alone, readPending, exec_bind_fst, listed, pending]
  rcases FwupdGir.listDevices machine.library.devices with e | devices
  · rfl
  · change (exec (_ >>= _) _).1 = Except.map List.flatten
      ((devices.filter (·.updatable)).mapM fun device =>
        machine.library.client.listUpgrades device.id)
    rw [exec_bind_fst,
      mapM_outcome (f := fun device : FirmwareDevice =>
        machine.library.client.listUpgrades device.id) fun _ _ => rfl]
    rcases (devices.filter (·.updatable)).mapM fun device : FirmwareDevice =>
        machine.library.client.listUpgrades device.id with e | releases <;> rfl

theorem onlyLapcare_upgrades (documented : machine.Documented python) (deviceId : String) :
    OnlyLapcare (machine.library.client.listUpgrades deviceId) := by
  unfold FwupdClient.listUpgrades
  rcases answer : machine.library.client.getUpgrades deviceId with
    (e | ⟨className, detail⟩) | releases
  · dsimp only
    split_ifs
    · exact onlyLapcare_ok _
    · exact onlyLapcare_lapcare _
  · exact absurd answer (documented.upgrades deviceId className detail)
  · refine onlyLapcare_mapM (fun release => ?_) releases
    unfold releaseToModel
    split
    · exact onlyLapcare_lapcare _
    · exact onlyLapcare_lapcare _
    · exact onlyLapcare_ok _

theorem onlyLapcare_devices (documented : machine.Documented python) :
    OnlyLapcare (FwupdGir.listDevices machine.library.devices) := by
  rcases answer : machine.library.devices with (e | ⟨className, detail⟩) | devices
  · exact onlyLapcare_lapcare _
  · exact absurd answer (documented.devices className detail)
  · refine onlyLapcare_map _ (onlyLapcare_mapM (fun device => ?_) devices)
    unfold deviceToModel
    split
    · exact onlyLapcare_lapcare _
    · exact onlyLapcare_lapcare _
    · exact onlyLapcare_ok _

theorem onlyLapcare_pending (documented : machine.Documented python) :
    OnlyLapcare machine.pending :=
  onlyLapcare_map _ (onlyLapcare_bind (onlyLapcare_devices documented) fun _ =>
    onlyLapcare_mapM (fun device : FirmwareDevice =>
      onlyLapcare_upgrades documented device.id) _)

theorem mem_updatable_iff {devices : List GotDevice} {device : FirmwareDevice} :
    device ∈ (sortedOn listingKey (models devices)).filter (·.updatable) ↔
      ∃ own ∈ devices, own.updatable = true ∧ own.model (own.id.getD "") = device := by
  rw [List.mem_filter, (isSortedOn_sortedOn listingKey (models devices)).same.mem_iff, models,
    List.mem_map]
  constructor
  · rintro ⟨⟨own, member, rfl⟩, updatable⟩
    exact ⟨own, member, updatable, rfl⟩
  · rintro ⟨own, member, updatable, rfl⟩
    exact ⟨⟨own, member, rfl⟩, updatable⟩

/-- The loop lists the releases of every device that can be updated, or brings home nothing. -/
theorem exists_pending_iff :
    (∃ read, machine.pending = .ok read ∧
        (level ≤ .ok ∨ ∃ release ∈ read, level ≤ release.severity)) ↔
      machine.FirmwareReaches level := by
  unfold pending
  rcases listing : FwupdGir.listDevices machine.library.devices with e | listed
  · refine iff_of_false ?_ ?_
    · rintro ⟨read, done, -⟩
      cases done
    · rintro ⟨devices, answer, identified, -⟩
      rw [FwupdGir.listDevices_ok_iff.mpr ⟨devices, answer, identified, rfl⟩] at listing
      cases listing
  obtain ⟨devices, answer, identified, rfl⟩ := FwupdGir.listDevices_ok_iff.mp listing
  have loop : (Except.ok (sortedOn listingKey (models devices)) >>= fun devices =>
      (devices.filter (·.updatable)).mapM fun device : FirmwareDevice =>
        machine.library.client.listUpgrades device.id) =
      ((sortedOn listingKey (models devices)).filter (·.updatable)).mapM fun device =>
        machine.library.client.listUpgrades device.id := rfl
  rw [loop, exists_mem_flatten_mapM_iff]
  simp only [mem_updatable_iff, exists_listUpgrades_iff, exists_severe_upgrade_iff]
  constructor
  · rintro ⟨all, reached⟩
    refine ⟨devices, answer, identified, fun device member updatable =>
      all _ ⟨device, member, updatable, rfl⟩, ?_⟩
    rcases reached with fine | ⟨_, ⟨device, member, updatable, rfl⟩, severe⟩
    · exact .inl fine
    · exact .inr ⟨device, member, updatable, severe⟩
  · rintro ⟨others, same, -, all, reached⟩
    rw [answer] at same
    obtain rfl := Except.ok.inj same
    constructor
    · rintro _ ⟨device, member, updatable, rfl⟩
      exact all device member updatable
    · rcases reached with fine | ⟨device, member, updatable, severe⟩
      · exact .inl fine
      · exact .inr ⟨_, ⟨device, member, updatable, rfl⟩, severe⟩

/-! ### Temperatures and filesystems -/

/-- What `DiskUsageStatvfs` lists of the machine. -/
def usages (python : Interpreter) (machine : DiagnosedMachine) :
    Except PyException (List DiskUsage) :=
  (exec (machine.host python).listUsage []).1

/-- The entries of a table are the filesystems that `statvfs` knows at a first mountpoint. -/
theorem mem_entries_iff {statvfs : List Char → Except StatvfsError Stat}
    {readings : List Reading} {entry : DiskUsage} :
    entry ∈ (firsts [] readings).filterMap (listed statvfs) ↔
      ∃ visit stat, readings.find? (·.1 = visit.1) = some visit ∧ statvfs visit.2 = .ok stat ∧
        usage visit.2 stat = entry := by
  rw [List.mem_filterMap]
  constructor
  · rintro ⟨visit, kept, shown⟩
    have found := (mem_firsts_iff.mp kept).2
    unfold listed at shown
    rcases known : statvfs visit.2 with e | stat
    · rw [known] at shown
      cases shown
    · rw [known] at shown
      exact ⟨visit, stat, found, known, Option.some.inj shown⟩
  · rintro ⟨visit, stat, found, known, rfl⟩
    refine ⟨visit, mem_firsts_iff.mpr ⟨List.not_mem_nil, found⟩, ?_⟩
    rw [listed, known]

/-- A table that decodes is listed, its sources at the mountpoints where they are named first. -/
theorem usages_of_decodes (documented : machine.Documented python)
    (decodes : machine.TableDecodes python) :
    ∃ listed, machine.usages python = .ok listed ∧
      (∀ own ∈ listed, ∃ path stat, machine.statvfs path = .ok stat ∧ own = usage path stat) ∧
      ∀ level, (∃ usage ∈ listed, level ≤ usage.severity) ↔
        machine.MountReaches python level := by
  unfold usages host MountReaches
  cases content : machine.root.content mountsFile with
  | none => exact ⟨[], rfl, by simp, fun level => by simp⟩
  | some data =>
    by_cases fits : data.length ≤ mountsMaxBytes
    · have clean := (failure_readLines_eq_none_iff python.names _).mpr (decodes data content fits)
      obtain ⟨readings, decoded⟩ := (failure_eq_none_iff _).mp clean
      have expected := documented.statvfs data content
      rw [readText, decoded] at expected
      rw [exec_listUsage _ _ fits, readText, decoded, usagesOf_map_ok expected]
      simp only [Except.ok.injEq, exists_eq_left', mem_entries_iff]
      refine ⟨?_, fun level => ?_⟩
      · rintro own ⟨visit, stat, -, known, rfl⟩
        exact ⟨visit.2, stat, known, rfl⟩
      constructor
      · rintro ⟨_, ⟨visit, stat, found, known, rfl⟩, reached⟩
        exact ⟨data, readings, rfl, fits, decoded, visit, stat, found, known, reached⟩
      · rintro ⟨_, others, same, -, decoded', visit, stat, found, known, reached⟩
        obtain rfl := Option.some.inj same
        -- the readings of the table are what they are
        have own := decoded.symm.trans decoded'
        obtain rfl := List.map_injective_iff.mpr (fun _ _ => Except.ok.inj) own
        exact ⟨_, ⟨visit, stat, found, known, rfl⟩, reached⟩
    · rw [exec_listUsage_long _ _ fits]
      refine ⟨[], rfl, by simp, fun level => iff_of_false (by simp) ?_⟩
      rintro ⟨_, _, same, short, -⟩
      obtain rfl := Option.some.inj same
      exact fits short

include above

theorem le_thermal_iff :
    level ≤ (checkThermal (some (listTemperatures python.isDecimal python.builtins
        machine.root))).status ↔
      SlotBetween python.isDecimal python.builtins machine.root (lowest level) 119000 := by
  obtain ⟨fine, warm, hot⟩ := le_checkThermal_iff python.isDecimal python.builtins machine.root
  cases level with
  | skipped => exact absurd above (lt_irrefl _)
  | ok => exact fine
  | warning => exact warm
  | critical => exact hot

omit above

/-! ### The run -/

/-- What a malformed table raises is none of the application's own exceptions. -/
theorem usages_of_malformed (documented : machine.Documented python)
    (malformed : ¬ machine.TableDecodes python) :
    ∃ detail, machine.usages python = .error (.foreign "UnicodeDecodeError" detail) := by
  simp only [TableDecodes, not_forall] at malformed
  obtain ⟨data, content, undecoded⟩ := malformed
  rw [usages, host, content]
  exact listUsage_malformed python.names (documented.statvfs data content) undecoded

/-- What a run on the machine hands to its checks. -/
theorem inputs_of_machine (documented : machine.Documented python)
    (decodes : machine.TableDecodes python) (requested : Bool) :
    ∃ skipCode listed, machine.usages python = .ok listed ∧
      (∀ own ∈ listed, ∃ path stat, machine.statvfs path = .ok stat ∧ own = usage path stat) ∧
      inputsAlone (machine.sources python) requested = .ok
        { wears := some (listBatteries python.builtins machine.root)
          reports := if requested then (machine.reports python).toOption else none
          storageSkip := skipCode
          pending := machine.pending.toOption
          temps := some (listTemperatures python.isDecimal python.builtins machine.root)
          usages := some listed } := by
  obtain ⟨listed, done, own, -⟩ := usages_of_decodes documented decodes
  have wears : alone (machine.batterySysfs python).listBatteries =
      .ok (listBatteries python.builtins machine.root) := rfl
  have temps : alone (hwmonProvider python.isDecimal python.builtins
      machine.root).listTemperatures =
        .ok (listTemperatures python.isDecimal python.builtins machine.root) := rfl
  have usages : alone (machine.host python).provider.listUsage = .ok listed := done
  have reports : alone (readReports (storageSmartPkexec python.loads python.builtins
      fun _ => machine.drives)) = machine.reports python := alone_readReports_drives
  have pending : alone (readPending (fwupdGir fun _ => machine.library)) = machine.pending :=
    alone_readPending_library
  -- no source raises anything foreign
  obtain ⟨skipCode, inputs⟩ := inputs_of_answers (wears ▸ onlyLapcare_ok _)
    (reports ▸ onlyLapcare_reports documented) (pending ▸ onlyLapcare_pending documented)
    (temps ▸ onlyLapcare_ok _) (usages ▸ onlyLapcare_ok _) requested
  rw [wears, reports, pending, temps, usages] at inputs
  exact ⟨skipCode, listed, done, own, inputs⟩

/-- A run that returns listed the filesystems. -/
theorem decodes_of_run (documented : machine.Documented python) {requested : Bool}
    {report : DiagnosticsReport}
    (done : runOutcome (machine.sources python) requested = .ok report) :
    machine.TableDecodes python := by
  by_contra malformed
  obtain ⟨detail, raised⟩ := usages_of_malformed documented malformed
  obtain ⟨inputs, inputsDone, -⟩ := runOutcome_eq_ok_iff.mp done
  have gathered := (inputsAlone_eq_ok_iff.mp inputsDone).2.2.2.2
  have asked : (machine.host python).provider.usage [] = machine.usages python := rfl
  change alone (gatherUsages (some (machine.host python).provider)) = _ at gathered
  rw [alone_gatherUsages, asked, raised] at gathered
  cases gathered

theorem le_resultOf_iff {inputs : Inputs} (documented : machine.Documented python)
    (decodes : machine.TableDecodes python) {requested : Bool}
    (inputsDone : inputsAlone (machine.sources python) requested = .ok inputs) (source : Source)
    (above : .skipped < level) :
    level ≤ (inputs.resultOf source).status ↔ machine.Reaches python requested level source := by
  obtain ⟨skipCode, listed, own, -, same⟩ := inputs_of_machine documented decodes requested
  obtain ⟨shown, ownAgain, -, reaches⟩ := usages_of_decodes documented decodes
  obtain rfl := Except.ok.inj (own.symm.trans ownAgain)
  obtain rfl := Except.ok.inj (inputsDone.symm.trans same)
  cases source with
  | batteryWear => exact le_battery_iff above
  | storage =>
    rw [Inputs.resultOf, le_checkStorageHealth_iff above, Reaches, DrivesReach,
      ← exists_reports_iff]
    cases requested with
    | false => simp
    | true => simp [toOption_eq_some_iff]
  | firmware =>
    rw [Inputs.resultOf, le_checkFirmwareCurrency_iff above, Reaches, ← exists_pending_iff]
    simp only [toOption_eq_some_iff]
  | thermal => exact le_thermal_iff above
  | disk =>
    rw [Inputs.resultOf, le_checkDiskSpace_iff above, Reaches, ← reaches level]
    simp

end DiagnosedMachine

end Lapcare.Pages
