import Lapcare.Core.Errors

/-!
# The fwupd provider

`FwupdGir` of `providers/fwupd.py`: what libfwupd answers, and how its errors are
translated. Devices and releases of the library are what the provider reads of them.
-/

namespace Lapcare.Providers

open Lapcare.Core

/-- `Fwupd.Error`, the codes that the provider tells apart by name. -/
inductive FwupdError
  | authFailed
  | permissionDenied
  | nothingToDo
  | notFound
  | other (code : Int)
  deriving DecidableEq

/-- Domain and code of a `GLib.Error`: one of fwupd, or one of another domain. -/
inductive ErrorCode
  | fwupd (error : FwupdError)
  | elsewhere (quark : String) (code : Int)
  deriving DecidableEq

structure GLibError where
  code : ErrorCode
  message : String
  deriving DecidableEq

/-- `exc.matches(Fwupd.error_quark(), error)`. -/
def GLibError.isFwupd (e : GLibError) (error : FwupdError) : Bool :=
  e.code == .fwupd error

/-- What a call into libfwupd may raise. -/
inductive ClientError
  | glib (error : GLibError)
  | foreign (className detail : String)
  deriving DecidableEq

/-- The `except GLib.Error` of a call. -/
def ClientError.translate (onGLib : GLibError → LapcareError) : ClientError → PyException
  | glib error => .lapcare (onGLib error)
  | foreign className detail => .foreign className detail

/-- A `Fwupd.Device`. -/
structure LiveDevice where
  id : Option String

/-- A `Fwupd.Release`. -/
structure LiveRelease where
  version : Option String
  name : Option String := none
  summary : Option String := none
  description : Option String := none
  size : ℕ := 0
  urgency : Option String := none

/-- The answers of `Fwupd.Client`, and of the dedicated client of an install. -/
structure FwupdClient where
  getDeviceById : String → Except ClientError LiveDevice
  getUpgrades : String → Except ClientError (List LiveRelease)
  installRelease : LiveDevice → LiveRelease → Except ClientError Unit

/-- `SOURCE`. -/
def fwupdSource : String := "fwupd"

def fwupdUnavailable : LapcareError :=
  .providerUnavailable fwupdSource .toolMissing (some "fwupd")

/-- `_release_to_model`. -/
def releaseToModel (release : LiveRelease) : Except PyException FirmwareRelease :=
  match release.version with
  | none | some "" =>
      .error (.lapcare (.providerParseError fwupdSource "release with no version"))
  | some version =>
      .ok { version
            name := release.name
            summary := release.summary
            description := release.description
            size := if release.size = 0 then none else some release.size
            urgency := release.urgency }

/-- `_translate_install_error`. -/
def translateInstallError (deviceId : String) (e : GLibError) : LapcareError :=
  if e.isFwupd .authFailed || e.isFwupd .permissionDenied then
    .privilegedActionDenied "org.freedesktop.fwupd.install"
  else .firmwareInstallFailed deviceId e.message

namespace FwupdClient

/-- `list_upgrades`: no newer release is data, any other error is unavailability. -/
def listUpgrades (client : FwupdClient) (deviceId : String) :
    Except PyException (List FirmwareRelease) :=
  match client.getUpgrades deviceId with
  | .ok releases => releases.mapM releaseToModel
  | .error (.glib e) =>
      -- no newer release is data, though fwupd raises it
      if e.isFwupd .nothingToDo || e.isFwupd .notFound then .ok []
      else .error (.lapcare fwupdUnavailable)
  | .error (.foreign className detail) => .error (.foreign className detail)

/-- The first `try` block of `install`: the device, and the release if it is still
offered. -/
def resolve (client : FwupdClient) (deviceId version : String) :
    Except ClientError (LiveDevice × Option LiveRelease) := do
  let device ← client.getDeviceById deviceId
  let upgrades ← client.getUpgrades deviceId
  return (device, upgrades.find? (·.version == some version))

def install (client : FwupdClient) (deviceId version : String) : Except PyException Unit :=
  match client.resolve deviceId version with
  | .error e => .error (e.translate fun _ => fwupdUnavailable)
  -- the release was withdrawn between the listing and the install
  | .ok (_, none) =>
      .error (.lapcare (.firmwareInstallFailed deviceId s!"release {version} no longer offered"))
  | .ok (device, some release) =>
      (client.installRelease device release).mapError
        (ClientError.translate (translateInstallError deviceId))

/-- What the library raises during `install`, at whichever step. -/
def raised (client : FwupdClient) (deviceId version : String) : Option ClientError :=
  match client.resolve deviceId version with
  | .error e => some e
  | .ok (_, none) => none
  | .ok (device, some release) =>
      match client.installRelease device release with
      | .error e => some e
      | .ok () => none

/-- Device and release could both be looked up. -/
def Resolves (client : FwupdClient) (deviceId : String) : Prop :=
  (∃ device, client.getDeviceById deviceId = .ok device) ∧
    ∃ upgrades, client.getUpgrades deviceId = .ok upgrades

theorem resolve_ok_iff (client : FwupdClient) (deviceId version : String) :
    (∃ found, client.resolve deviceId version = .ok found) ↔ client.Resolves deviceId := by
  unfold resolve Resolves
  cases client.getDeviceById deviceId with
  | error e => simp [bind, Except.bind]
  | ok device =>
    cases client.getUpgrades deviceId with
    | error e => simp [bind, Except.bind]
    | ok upgrades => simp [bind, Except.bind, pure, Except.pure]

end FwupdClient

/-- The exceptions with which an install may end on the page. -/
def IsInstallFailure (e : PyException) : Prop :=
  (∃ deviceId detail, e = .lapcare (.firmwareInstallFailed deviceId detail)) ∨
    ∃ action, e = .lapcare (.privilegedActionDenied action)

theorem isInstallFailure_translateInstallError (deviceId : String) (e : GLibError) :
    IsInstallFailure (.lapcare (translateInstallError deviceId e)) := by
  rw [translateInstallError]
  split_ifs
  · exact .inr ⟨_, rfl⟩
  · exact .inl ⟨_, _, rfl⟩

theorem not_isInstallFailure_unavailable : ¬ IsInstallFailure (.lapcare fwupdUnavailable) := by
  rintro (⟨deviceId, detail, same⟩ | ⟨action, same⟩)
  · cases same
  · cases same

/-- An error that the library raises leaves `install` as an install failure exactly when
device and release could be looked up. -/
theorem FwupdClient.install_failure_iff {client : FwupdClient} {deviceId version : String}
    {error : GLibError} (raises : client.raised deviceId version = some (.glib error)) :
    (∃ e, client.install deviceId version = .error e ∧ IsInstallFailure e) ↔
      client.Resolves deviceId := by
  rw [← resolve_ok_iff client deviceId version]
  rw [raised] at raises
  rw [install]
  rcases resolved : client.resolve deviceId version with e | ⟨device, _ | release⟩
  · rw [resolved] at raises
    obtain rfl := Option.some.inj raises
    simp [ClientError.translate, not_isInstallFailure_unavailable]
  · rw [resolved] at raises
    cases raises
  · simp only [resolved] at raises
    rcases ended : client.installRelease device release with e | _
    · rw [ended] at raises
      obtain rfl := Option.some.inj raises
      simp [ended, Except.mapError, ClientError.translate, isInstallFailure_translateInstallError]
    · rw [ended] at raises
      cases raises

end Lapcare.Providers
