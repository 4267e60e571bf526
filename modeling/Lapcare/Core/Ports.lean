import Lapcare.Core.Errors
import Lapcare.Semantics.Logged

/-!
# Ports

The provider interfaces of `core/ports.py` that the diagnostics engine and the pages
call. A provider is given by its answers. Each answer may depend on the calls this
provider received before, so the n-th call of a method may answer unlike the first.
-/

namespace Lapcare.Core

open Semantics

/-- The data sources of a diagnostics run. -/
inductive Source
  | batteryWear
  | storage
  | firmware
  | thermal
  | disk
  deriving DecidableEq, Repr

/-- A provider call together with its answer. -/
inductive ProviderCall
  | listBatteries (answer : Except PyException (List BatteryWear))
  | listDevices (answer : Except PyException (List StorageDevice))
  | readSmart (deviceName : String) (answer : Except PyException SmartReport)
  | listFirmwareDevices (answer : Except PyException (List FirmwareDevice))
  | listUpgrades (deviceId : String) (answer : Except PyException (List FirmwareRelease))
  | listTemperatures (answer : Except PyException (List TemperatureReading))
  | listUsage (answer : Except PyException (List DiskUsage))

namespace ProviderCall

def source : ProviderCall → Source
  | listBatteries _ => .batteryWear
  | listDevices _ | readSmart _ _ => .storage
  | listFirmwareDevices _ | listUpgrades _ _ => .firmware
  | listTemperatures _ => .thermal
  | listUsage _ => .disk

/-- The call went to `source`. -/
def from? (source : Source) (call : ProviderCall) : Bool :=
  call.source == source

@[simp] theorem from?_eq_true_iff {source : Source} {call : ProviderCall} :
    call.from? source = true ↔ call.source = source := by
  simp [from?]

theorem from?_eq_false_of_ne {source other : Source} {call : ProviderCall}
    (here : call.source = other) (different : other ≠ source) : call.from? source = false := by
  simp [from?, here, different]

end ProviderCall

/-- A coroutine that awaits provider calls. -/
abbrev Gather (α : Type) := Logged ProviderCall PyException α

/-- Await one call of a provider, which knows the calls it received itself. -/
def ask {α : Type} (source : Source) (answer : List ProviderCall → Except PyException α)
    (entry : Except PyException α → ProviderCall) : Gather α :=
  Logged.perform (fun log => answer (log.filter (·.from? source))) entry

section Ask

variable {α : Type} {source : Source} {answer : List ProviderCall → Except PyException α}
  {entry : Except PyException α → ProviderCall}

theorem logs_ask (mine : ∀ outcome, (entry outcome).source = source) :
    Logged.Logs (fun call => call.source = source) (ask source answer entry) :=
  Logged.logs_perform mine

theorem local_ask : Logged.Local (·.from? source) (ask source answer entry) := by
  refine Logged.local_perform fun log => ?_
  rw [List.filter_filter]
  simp

theorem raises_ask {p : PyException → Prop} (allowed : ∀ log e, answer log = .error e → p e) :
    Logged.Raises p (ask source answer entry) :=
  Logged.raises_perform fun _ e raised => allowed _ e raised

end Ask

structure BatteryWearProvider where
  batteries : List ProviderCall → Except PyException (List BatteryWear)

structure StorageProvider where
  devices : List ProviderCall → Except PyException (List StorageDevice)
  smart : List ProviderCall → String → Except PyException SmartReport

structure FirmwareProvider where
  devices : List ProviderCall → Except PyException (List FirmwareDevice)
  upgrades : List ProviderCall → String → Except PyException (List FirmwareRelease)

structure ThermalProvider where
  temperatures : List ProviderCall → Except PyException (List TemperatureReading)

structure DiskUsageProvider where
  usage : List ProviderCall → Except PyException (List DiskUsage)

def BatteryWearProvider.listBatteries (provider : BatteryWearProvider) :
    Gather (List BatteryWear) :=
  ask .batteryWear provider.batteries .listBatteries

def StorageProvider.listDevices (provider : StorageProvider) : Gather (List StorageDevice) :=
  ask .storage provider.devices .listDevices

def StorageProvider.readSmart (provider : StorageProvider) (deviceName : String) :
    Gather SmartReport :=
  ask .storage (provider.smart · deviceName) (.readSmart deviceName)

def FirmwareProvider.listDevices (provider : FirmwareProvider) : Gather (List FirmwareDevice) :=
  ask .firmware provider.devices .listFirmwareDevices

def FirmwareProvider.listUpgrades (provider : FirmwareProvider) (deviceId : String) :
    Gather (List FirmwareRelease) :=
  ask .firmware (provider.upgrades · deviceId) (.listUpgrades deviceId)

def ThermalProvider.listTemperatures (provider : ThermalProvider) :
    Gather (List TemperatureReading) :=
  ask .thermal provider.temperatures .listTemperatures

def DiskUsageProvider.listUsage (provider : DiskUsageProvider) : Gather (List DiskUsage) :=
  ask .disk provider.usage .listUsage

/-! ### The port convention

Read methods raise only the `LapcareError` hierarchy. -/

/-- An answer that raises, if at all, a `LapcareError`. -/
def OnlyLapcare {α : Type} (answer : Except PyException α) : Prop :=
  ∀ e, answer = .error e → e.IsLapcare

theorem onlyLapcare_ok {α : Type} (a : α) : OnlyLapcare (.ok a : Except PyException α) :=
  fun _ raised => nomatch raised

theorem onlyLapcare_lapcare {α : Type} (error : LapcareError) :
    OnlyLapcare (.error (.lapcare error) : Except PyException α) := by
  rintro e ⟨⟩
  trivial

def BatteryWearProvider.KeepsConvention (provider : BatteryWearProvider) : Prop :=
  ∀ calls, OnlyLapcare (provider.batteries calls)

def StorageProvider.KeepsConvention (provider : StorageProvider) : Prop :=
  (∀ calls, OnlyLapcare (provider.devices calls)) ∧
    ∀ calls name, OnlyLapcare (provider.smart calls name)

def FirmwareProvider.KeepsConvention (provider : FirmwareProvider) : Prop :=
  (∀ calls, OnlyLapcare (provider.devices calls)) ∧
    ∀ calls id, OnlyLapcare (provider.upgrades calls id)

def ThermalProvider.KeepsConvention (provider : ThermalProvider) : Prop :=
  ∀ calls, OnlyLapcare (provider.temperatures calls)

def DiskUsageProvider.KeepsConvention (provider : DiskUsageProvider) : Prop :=
  ∀ calls, OnlyLapcare (provider.usage calls)

end Lapcare.Core
