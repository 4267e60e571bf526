import Lapcare.Core.Ports
import Lapcare.Providers.SmartRead
import Lapcare.Providers.SystemFiles

/-!
# The block devices

`list_devices` of `providers/storage_smart.py`: the entries of `/sys/block` behind which a
device stands. The helper looks the same names up again before it does anything.

## Main results

* `mem_listDevices_iff` — which devices are listed, and with what
* `diskRead_of_isDevice` — every end of a read of a disk that the helper finds
-/

namespace Lapcare.Providers

open Lapcare.Core Platform

def blockDir : RelPath := ["sys", "block"]

/-- `_flag`. -/
def flag (value : Option Int) : Option Bool :=
  value.map (· ≠ 0)

section Listing

variable (builtins : Builtins) (root : Root)

/-- The body of the loop. What has no device is virtual. -/
def readBlockDevice (name : String) : Option StorageDevice :=
  let entry := blockDir ++ [name]
  if root.isDir (entry ++ ["device"]) then
    some {
      name
      model := (readStr (root.content (entry ++ ["device", "model"])) 65536).map String.ofList
      sizeBytes := (readInt builtins (root.content (entry ++ ["size"]))).map (· * 512)
      removable := flag (readInt builtins (root.content (entry ++ ["removable"])))
      rotational := flag (readInt builtins (root.content (entry ++ ["queue", "rotational"]))) }
  else none

/-- `list_devices`. -/
def listBlockDevices : Except PyException (List StorageDevice) :=
  match root.entries blockDir with
  | none =>
      .error (.lapcare (.providerUnavailable storageSmartSource .unsupportedHardware none))
  | some _ => .ok ((root.sortedNames blockDir).filterMap (readBlockDevice builtins root))

end Listing

section Disks

variable {builtins : Builtins} {root : Root} {devices : List StorageDevice}

/-- A disk of the machine, as its files describe it. -/
structure IsDisk (builtins : Builtins) (root : Root) (device : StorageDevice) : Prop where
  listed : device.name ∈ (root.entries blockDir).getD ∅
  read : readBlockDevice builtins root device.name = some device

theorem readBlockDevice_name {name : String} {device : StorageDevice}
    (read : readBlockDevice builtins root name = some device) : device.name = name := by
  obtain ⟨-, made⟩ := Option.ite_none_right_eq_some.mp read
  cases made
  rfl

/-- What is listed is every disk. -/
theorem mem_listDevices_iff (listing : listBlockDevices builtins root = .ok devices)
    (device : StorageDevice) : device ∈ devices ↔ IsDisk builtins root device := by
  unfold listBlockDevices at listing
  split at listing
  · cases listing
  · obtain rfl := Except.ok.inj listing
    simp only [List.mem_filterMap, Root.sortedNames, Finset.mem_sort]
    constructor
    · rintro ⟨name, listed, read⟩
      obtain rfl := readBlockDevice_name read
      exact ⟨listed, read⟩
    · intro disk
      exact ⟨device.name, disk.listed, disk.read⟩

end Disks

/-! ### The machine, and what the user lets be done to it -/

/-- A host where the user closes the dialog. -/
def dismissedHost : ToolHost where
  executable path := path = "/usr/bin/pkexec"
  spawn _ _ := .exited 126 [] []

/-- A machine as the page finds it, and as the helper does if the user authorizes it. -/
structure StorageMachine where
  root : Root
  authorized : Option Helper.Machine

def StorageMachine.host (machine : StorageMachine) : ToolHost :=
  match machine.authorized with
  | some helper => authorizedHost helper
  | none => dismissedHost

/-- `StorageSmartPkexec` as the provider of a page. Each call may find another machine. -/
def storageSmartPkexec (loads : String → Loads) (builtins : Builtins)
    (machines : List ProviderCall → StorageMachine) : StorageProvider where
  devices calls := listBlockDevices builtins (machines calls).root
  smart calls name := readSmart loads (runTool (machines calls).host) name

section Read

variable {loads : String → Loads} {machine : StorageMachine} {device : String}

/-- A dialog that is closed is a refusal. -/
theorem readSmart_dismissed : readSmart loads (runTool dismissedHost) device =
    .error (.lapcare (.privilegedActionDenied actionSmartReport)) := by
  have executable : dismissedHost.executable "/usr/bin/pkexec" = true := rfl
  have exited : dismissedHost.spawn ("/usr/bin/pkexec" :: helperArgv device) pkexecTimeoutS =
      .exited 126 [] [] := rfl
  rw [readSmart, ← helperArgv, runTool_pkexec_failed executable exited (by decide)]
  rfl

/-- A report was authorized, and is what `smartctl` says. -/
theorem told_of_readSmart {report : SmartReport}
    (read : readSmart loads (runTool machine.host) device = .ok report) :
    ∃ helper, machine.authorized = some helper ∧ Told loads helper device report := by
  unfold StorageMachine.host at read
  cases allowed : machine.authorized with
  | none =>
    rw [allowed] at read
    cases readSmart_dismissed.symm.trans read
  | some helper =>
    rw [allowed] at read
    exact ⟨helper, rfl, reported_of_readSmart read⟩

/-- The helper finds the disks that the page lists: they are entries of `/sys/block`, and their
nodes are block devices. -/
structure Coherent (builtins : Builtins) (root : Root) (helper : Helper.Machine) : Prop where
  listing : ∃ present, helper.listdir "/sys/block" = .ok present ∧
    ∀ name ∈ (root.entries blockDir).getD ∅, name ∈ present
  nodes : ∀ disk, IsDisk builtins root disk →
    Helper.IsBlockDevice helper (Helper.deviceNodePath disk.name)

theorem IsDisk.isDevice {builtins : Builtins} {root : Root} {helper : Helper.Machine}
    {disk : StorageDevice} (isDisk : IsDisk builtins root disk)
    (coherent : Coherent builtins root helper) : IsDevice helper disk.name := by
  obtain ⟨present, found, all⟩ := coherent.listing
  exact ⟨⟨present, found, all disk.name isDisk.listed⟩, coherent.nodes disk isDisk⟩

/-- How a read of a disk ends: with a report, for want of the tool, because `smartctl` gave the
helper nothing to pass on, or because the client cannot read what it passed on. -/
inductive DiskRead (loads : String → Loads) (helper : Helper.Machine) (device : String) :
    Except PyException SmartReport → Prop
  | report {report : SmartReport} (told : Told loads helper device report) :
      DiskRead loads helper device (.ok report)
  | toolMissing (absent : helper.access Helper.smartctl = false) :
      DiskRead loads helper device (.error (.lapcare (errorOfCode "tool-missing")))
  | refused {code : String} (own : code ∈ ["tool-timeout", "tool-failed", "output-invalid"])
      (reason : RefusedWith helper device code) :
      DiskRead loads helper device (.error (.lapcare (errorOfCode code)))
  | unread {stdout : List UInt8} {e : PyException} (reported : Reported helper device stdout)
      (raised : readOutput loads device (String.ofList (Text.decode stdout)) = .error e) :
      DiskRead loads helper device (.error e)

/-- A disk that the helper finds is never unknown to it. -/
theorem diskRead_of_isDevice {helper : Helper.Machine}
    (orderly : Helper.Orderly helper (helperArgv device)) (isDevice : IsDevice helper device) :
    DiskRead loads helper device (readSmart loads (runTool (authorizedHost helper)) device) := by
  rcases helper_ends orderly with ⟨stdout, reported⟩ | ⟨code, known, reason, ends⟩
  · rw [reported.readSmart]
    cases output : readOutput loads device (String.ofList (Text.decode stdout)) with
    | ok report => exact .report ⟨stdout, reported, readOutput_ok_iff.mp output⟩
    | error e => exact .unread reported output
  · obtain ⟨calls, detail, quiet, ends⟩ := ends
    rw [readSmart_refusal quiet known ends]
    cases reason with
    | unknownDevice absent => exact absurd isDevice absent
    | toolMissing listed block tool => exact .toolMissing tool
    | toolTimeout runs child => exact .refused (by simp) (.toolTimeout runs child)
    | toolFailed runs child fatal => exact .refused (by simp) (.toolFailed runs child fatal)
    | outputInvalid runs child fine invalid =>
      exact .refused (by simp) (.outputInvalid runs child fine invalid)

end Read

end Lapcare.Providers
