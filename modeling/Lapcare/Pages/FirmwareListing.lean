import Lapcare.Pages.FirmwareInstall
import Lapcare.Providers.FwupdLibrary

/-!
# What fwupd lists, on the page

The firmware page over `FwupdGir`. Its gathers ask the library, which may answer every call in
its own way; its cards are the devices of one answer, by title. A refresh of the metadata ends
with a toast that says whether some remote could be reached.

## Main results

* `firmware_cards_listed` — the cards after any run are the devices of one answer, by title
* `metadata_refresh_reported` — when the page says that the metadata was refreshed
-/

namespace Lapcare.Pages

open Lapcare.Core Semantics Providers

/-! ### The provider -/

/-- The library at one moment. -/
structure FwupdState where
  devices : Except ClientError (List GotDevice)
  client : FwupdClient

/-- `FwupdGir` as the provider of a page. The library may be another at each call. -/
def fwupdGir (library : List ProviderCall → FwupdState) : FirmwareProvider where
  devices calls := FwupdGir.listDevices (library calls).devices
  upgrades calls deviceId := (library calls).client.listUpgrades deviceId

/-- The data of a gather that went well. -/
def GatheredFrom (library : List ProviderCall → FwupdState) (data : List Gathered) : Prop :=
  ∃ log, (Logged.exec (FirmwareViewModel.gather (fwupdGir library)) log).1 = .ok data

/-- A turn of the loop is about its own device, whatever comes of the upgrades. -/
theorem gatherOne_device {firmware : FirmwareProvider} (device : FirmwareDevice)
    (log : List ProviderCall) (gathered : Gathered)
    (done : (Logged.exec (FirmwareViewModel.gatherOne firmware device) log).1 = .ok gathered) :
    gathered.1 = device := by
  unfold FirmwareViewModel.gatherOne at done
  split_ifs at done with updatable
  · rw [Logged.exec_tryCatch, Logged.exec_map] at done
    rcases answer : Logged.exec (firmware.listUpgrades device.id) log with
      ⟨(error | ⟨className, detail⟩) | releases, later⟩
    all_goals rw [answer] at done
    · obtain rfl := Except.ok.inj done
      rfl
    · cases done
    · obtain rfl := Except.ok.inj done
      rfl
  · obtain rfl := Except.ok.inj done
    rfl

/-- The devices of a gather are those of one answer of the library, sorted. -/
theorem GatheredFrom.devices {library : List ProviderCall → FwupdState} {data : List Gathered}
    (gathered : GatheredFrom library data) :
    ∃ calls devices, (library calls).devices = .ok devices ∧
      (∀ device ∈ devices, device.Identified) ∧
      data.map (·.1) = sortedOn listingKey (models devices) := by
  obtain ⟨log, done⟩ := gathered
  rw [FirmwareViewModel.gather, Logged.exec_bind] at done
  have asked : Logged.exec (fwupdGir library).listDevices log =
      (FwupdGir.listDevices (library (log.filter (·.from? .firmware))).devices,
        log ++ [.listFirmwareDevices
          (FwupdGir.listDevices (library (log.filter (·.from? .firmware))).devices)]) := rfl
  rw [asked] at done
  rcases answer : FwupdGir.listDevices (library (log.filter (·.from? .firmware))).devices with
    e | listed
  · rw [answer] at done
    cases done
  · rw [answer] at done
    obtain ⟨devices, own, identified, rfl⟩ := FwupdGir.listDevices_ok_iff.mp answer
    refine ⟨_, devices, own, identified, ?_⟩
    have same : _ = (sortedOn listingKey (models devices)).map id :=
      Logged.map_of_exec_mapM gatherOne_device _ _ done
    rw [same, List.map_id]

/-! ### The cards -/

/-- What a card owes the device it is made of: each text is the library's own, or a placeholder
where the library has none. -/
structure CardTells (device : GotDevice) (card : DeviceCard) : Prop where
  id : device.id = some card.id ∧ card.id ≠ ""
  title : card.title = device.title
  both : device.vendor.getD "" ≠ "" → device.plugin.getD "" ≠ "" →
    card.subtitle = device.vendor.getD "" ++ " · " ++ device.plugin.getD ""
  single : device.vendor.getD "" = "" ∨ device.plugin.getD "" = "" →
    card.subtitle = device.vendor.getD "" ++ device.plugin.getD ""
  version : RowGives device.version card.versionText
  updatable : card.updatable = device.updatable
  updateError : card.updateError = device.updateError.getD ""

theorem presentTexts_pair (first second : Option String) :
    presentTexts [first, second] =
      [first.getD "", second.getD ""].filter (· ≠ "") := by
  rcases first with _ | first <;> rcases second with _ | second <;>
    simp [presentTexts, List.filter_cons]

theorem cardTells_ofGathered {device : GotDevice} (identified : device.Identified)
    (releases : List FirmwareRelease) (note : String) :
    CardTells device (.ofGathered (device.model (device.id.getD ""), releases, note)) := by
  obtain ⟨id, present, named⟩ := identified
  have subtitle : (DeviceCard.ofGathered
      (device.model (device.id.getD ""), releases, note)).subtitle =
        " · ".intercalate ([device.vendor.getD "", device.plugin.getD ""].filter (· ≠ "")) := by
    rw [← presentTexts_pair]
    rfl
  refine ⟨?_, ?_, ?_, ?_, rowGives_orText device.version, rfl, rfl⟩
  · rw [present]
    exact ⟨rfl, named⟩
  · change orText device.name (device.id.getD "") = device.title
    by_cases blank : device.name.getD "" = ""
    · rw [orText_of_blank blank, GotDevice.title, if_pos blank]
    · rw [orText_of_said blank, GotDevice.title, if_neg blank]
  · intro vendor plugin
    rw [subtitle]
    simp [vendor, plugin]
  · intro one
    rw [subtitle]
    rcases one with blank | blank
    · by_cases plugin : device.plugin.getD "" = "" <;> simp [blank, plugin]
    · by_cases vendor : device.vendor.getD "" = "" <;> simp [blank, vendor]

/-- The cards are the devices of one answer of the library, by title. -/
def CardsListed (library : List ProviderCall → FwupdState) (cards : List DeviceCard) : Prop :=
  ∃ calls devices order, (library calls).devices = .ok devices ∧
    (∀ device ∈ devices, device.Identified) ∧ IsSortedOn GotDevice.title devices order ∧
    List.Forall₂ CardTells order cards

/-- What a gather brought home for devices in their order makes a card for each of them. -/
theorem forall₂_cardTells {order : List GotDevice}
    (identified : ∀ device ∈ order, device.Identified)
    {data : List Gathered} (own : data.map (·.1) = models order) :
    List.Forall₂ CardTells order (data.map DeviceCard.ofGathered) := by
  induction order generalizing data with
  | nil =>
    obtain rfl := List.map_eq_nil_iff.mp own
    exact .nil
  | cons device order ih =>
    obtain ⟨⟨_, releases, note⟩, rest, rfl, rfl, others⟩ := List.map_eq_cons_iff.mp own
    exact .cons (cardTells_ofGathered (identified device List.mem_cons_self) releases note)
      (ih (fun other member => identified other (List.mem_cons_of_mem _ member)) others)

theorem GatheredFrom.cardsListed {library : List ProviderCall → FwupdState}
    {data : List Gathered} (gathered : GatheredFrom library data) :
    CardsListed library (data.map DeviceCard.ofGathered) := by
  obtain ⟨calls, devices, answer, identified, listed⟩ := gathered.devices
  let order := sortedOn GotDevice.title devices
  have sorted : IsSortedOn GotDevice.title devices order := isSortedOn_sortedOn ..
  refine ⟨calls, devices, order, answer, identified, sorted, ?_⟩
  rw [sortedOn_models] at listed
  exact forall₂_cardTells
    (fun device member => identified device (sorted.same.mem_iff.mp member)) listed

namespace FirmwareSystem

/-- Only a gather that brings devices home makes cards. -/
theorem cards_step {casing : Casing} {system later : FirmwareSystem} {event : FirmwareEvent}
    (taken : system.step casing event = some later) :
    later.vm.cards = system.vm.cards ∨ ∃ data, event = .gatherDone data ∧
      later.vm.cards = data.map DeviceCard.ofGathered := by
  cases event with
  | changed | timerFired | refreshMetadata | requestInstall | progress | refreshDone
  | refreshFailed => exact .inl (samePage_step (by trivial) taken).2
  | load =>
    obtain rfl := Option.some.inj taken
    exact .inl rfl
  | gatherDone data =>
    obtain ⟨-, rfl⟩ := step_gatherDone_iff.mp taken
    dsimp only
    unfold FirmwareViewModel.apply
    by_cases empty : data = []
    · rw [if_pos empty]
      exact .inl rfl
    · rw [if_neg empty]
      exact .inr ⟨data, rfl, rfl⟩
  | gatherFailed e =>
    obtain ⟨-, rfl⟩ := step_gatherFailed_iff.mp taken
    exact .inl rfl
  | installDone position =>
    obtain ⟨release, -, rfl⟩ := step_installDone_iff.mp taken
    exact .inl rfl
  | installFailed position e =>
    obtain ⟨release, -, rfl⟩ := step_installFailed_iff.mp taken
    rw [after_vm]
    rcases e with error | ⟨className, detail⟩
    · cases error <;> exact .inl rfl
    · exact .inl rfl

/-- After a run the page shows no cards yet, or those of one of its gathers. -/
theorem cards_of_run {casing : Casing} {system : FirmwareSystem} {events : List FirmwareEvent}
    (ran : runFrom (step casing) fresh events = some system) :
    system.vm.cards = [] ∨ ∃ data, .gatherDone data ∈ events ∧
      system.vm.cards = data.map DeviceCard.ofGathered := by
  have keeps (system : FirmwareSystem) (event : FirmwareEvent) (later : FirmwareSystem)
      (among : event ∈ events)
      (shown : system.vm.cards = [] ∨ ∃ data, .gatherDone data ∈ events ∧
        system.vm.cards = data.map DeviceCard.ofGathered)
      (taken : system.step casing event = some later) :
      later.vm.cards = [] ∨ ∃ data, .gatherDone data ∈ events ∧
        later.vm.cards = data.map DeviceCard.ofGathered := by
    rcases cards_step taken with same | ⟨data, rfl, cards⟩
    · rw [same]
      exact shown
    · exact .inr ⟨data, among, cards⟩
  exact invariant_runFrom_of keeps (.inl rfl) (fun _ among => among) ran

/-- What gathers bring home comes from the library. -/
def FromFwupd (library : List ProviderCall → FwupdState) : FirmwareEvent → Prop
  | .gatherDone data => GatheredFrom library data
  | _ => True

/-- After any run, in which the library may answer every call in its own way, the page shows
no cards yet, or those of one gather and so of one answer: every device of it once, with what the
library says of it, ordered by title, and devices of one title in the order of the answer. -/
theorem firmware_cards_listed (casing : Casing) (library : List ProviderCall → FwupdState)
    (events : List FirmwareEvent) (from_ : ∀ event ∈ events, FromFwupd library event)
    (system : FirmwareSystem) (ran : runFrom (step casing) fresh events = some system) :
    system.vm.cards = [] ∨ ∃ data, .gatherDone data ∈ events ∧
      system.vm.cards = data.map DeviceCard.ofGathered ∧
      CardsListed library system.vm.cards := by
  refine (cards_of_run ran).imp_right ?_
  rintro ⟨data, among, cards⟩
  refine ⟨data, among, cards, ?_⟩
  rw [cards]
  exact GatheredFrom.cardsListed (from_ _ among)

/-- A library that knows two devices, and lists them in an order of its own. -/
def dockedLibrary : FwupdState where
  devices := .ok
    [{ id := some "dock", name := some "Thunderbolt Dock", vendor := some "Lenovo",
       plugin := some "thunderbolt", version := some "1.2" },
     { id := some "bios", name := some "System Firmware" }]
  client := nothingToDoClient

/-- What a gather brings home from it. -/
def dockedData : List Gathered :=
  [({ id := "bios", name := some "System Firmware" }, [], ""),
    ({ id := "dock", name := some "Thunderbolt Dock", vendor := some "Lenovo",
       plugin := some "thunderbolt", version := some "1.2" }, [], "")]

theorem gatheredFrom_dockedLibrary : GatheredFrom (fun _ => dockedLibrary) dockedData := by
  refine ⟨[], ?_⟩
  have listed : FwupdGir.listDevices dockedLibrary.devices = .ok (dockedData.map (·.1)) := by
    refine FwupdGir.listDevices_ok_iff.mpr ⟨_, rfl, ?_, ?_⟩
    · simp [GotDevice.Identified]
    · simp [dockedData, sortedOn, keyLe, listingKey, List.mergeSort,
        List.MergeSort.Internal.splitInTwo, models, GotDevice.model, updateStateOf]
  rw [FirmwareViewModel.gather, Logged.exec_bind]
  have asked : Logged.exec (fwupdGir fun _ => dockedLibrary).listDevices [] =
      (FwupdGir.listDevices dockedLibrary.devices,
        [.listFirmwareDevices (FwupdGir.listDevices dockedLibrary.devices)]) := rfl
  rw [asked, listed]
  rfl

theorem firmware_cards_listed_docked :
    ∃ system, runFrom (step asciiCasing) fresh [.load, .gatherDone dockedData] = some system ∧
      system.vm.cards.map (fun card => (card.title, card.subtitle, card.versionText)) =
        [("System Firmware", "", "—"), ("Thunderbolt Dock", "Lenovo · thunderbolt", "1.2")] ∧
      CardsListed (fun _ => dockedLibrary) system.vm.cards := by
  have from_ : ∀ event ∈ [.load, .gatherDone dockedData],
      FromFwupd (fun _ => dockedLibrary) event := by
    intro event member
    rcases List.mem_cons.mp member with rfl | member
    · trivial
    · obtain rfl := List.mem_singleton.mp member
      exact gatheredFrom_dockedLibrary
  rcases firmware_cards_listed asciiCasing (fun _ => dockedLibrary) _ from_ _ rfl with
    none_ | ⟨data, -, -, listed⟩
  · cases none_
  · exact ⟨_, rfl, by decide +kernel, listed⟩

/-! ### The end of a refresh -/

/-- The page's event for a refresh that ended. -/
def refreshEnd : Except PyException Unit → FirmwareEvent
  | .ok () => .refreshDone
  | .error e => .refreshFailed e

/-- The library names its remotes, and if there are enabled download remotes, one of them can
be reached. -/
def Reaches (answer : Except ClientError (List Remote))
    (refresh : List Remote → Remote → Except ClientError Unit) : Prop :=
  ∃ remotes, answer = .ok remotes ∧ (remotes.filter (·.isTarget) = [] ∨
    ¬ AllFail refresh (remotes.filter (·.isTarget)))

theorem refreshMetadata_ok_iff {refresh : List Remote → Remote → Except ClientError Unit}
    (own : OnlyGLib refresh) (answer : Except ClientError (List Remote)) :
    FwupdGir.refreshMetadata answer refresh = .ok () ↔ Reaches answer refresh := by
  cases answer with
  | error e => simp [FwupdGir.refreshMetadata, Reaches]
  | ok remotes =>
    obtain ⟨-, ⟨⟨some_, failed⟩, raised⟩ | ⟨reached, done⟩⟩ :=
      FwupdGir.refreshMetadata_eq own remotes
    · refine iff_of_false (by rw [raised]; simp) ?_
      rintro ⟨_, same, none_ | reached⟩
      · obtain rfl := Except.ok.inj same
        exact some_ none_
      · obtain rfl := Except.ok.inj same
        exact reached failed
    · simp only [done, Reaches, true_iff]
      exact ⟨remotes, rfl, reached⟩

/-- A refresh tries every enabled download remote once, in order, whatever comes of the others.
Its end frees the page and leaves state and cards as they are; it is good news, and the devices
are gathered again, exactly if some remote could be reached, or there was none to reach. -/
theorem metadata_refresh_reported (casing : Casing) (system : FirmwareSystem)
    (running : system.refreshes ≠ 0) (answer : Except ClientError (List Remote))
    (refresh : List Remote → Remote → Except ClientError Unit) (own : OnlyGLib refresh) :
    (∀ remotes, answer = .ok remotes → ∃ done,
      refreshRemotes refresh (remotes.filter (·.isTarget)) = .ok done ∧
        done.tried = remotes.filter (·.isTarget)) ∧
    ∃ later, system.step casing (refreshEnd (FwupdGir.refreshMetadata answer refresh)) =
        some later ∧
      later.vm.busyText = "" ∧ later.vm.state = system.vm.state ∧
      later.vm.cards = system.vm.cards ∧
      (Reaches answer refresh ∧ later.vm.toastText = "Update metadata refreshed." ∧
          later.gathers = system.gathers + 1 ∨
        ¬ Reaches answer refresh ∧ later.gathers = system.gathers ∧ later.vm.toastText =
          "Could not refresh update metadata — check your connection.") := by
  refine ⟨fun remotes _ => (FwupdGir.refreshMetadata_eq own remotes).1, ?_⟩
  rw [← refreshMetadata_ok_iff own]
  cases ended : FwupdGir.refreshMetadata answer refresh with
  | ok =>
    refine ⟨_, step_refreshDone_iff.mpr ⟨running, rfl⟩, rfl, rfl, rfl, .inl ⟨rfl, rfl, rfl⟩⟩
  | error e =>
    exact ⟨_, step_refreshFailed_iff.mpr ⟨running, rfl⟩, rfl, rfl, rfl,
      .inr ⟨by simp, rfl, rfl⟩⟩

/-- A laptop without a network. -/
def unreachable (_ : List Remote) (_ : Remote) : Except ClientError Unit :=
  .error (.glib ⟨.elsewhere "g-io-error-quark" 39, "no route to host"⟩)

theorem metadata_refresh_reported_offline :
    ∃ system, runFrom (step asciiCasing) fresh [.load, .refreshMetadata] = some system ∧
      system.vm.busyText = "Refreshing update metadata…" ∧
      let answer := .ok [⟨some "lvfs", .download, true⟩, ⟨some "vendor", .download, true⟩]
      (∀ remotes, answer = .ok remotes → ∃ done,
        refreshRemotes unreachable (remotes.filter (·.isTarget)) = .ok done ∧
          done.tried = remotes.filter (·.isTarget)) ∧
      ∃ later, system.step asciiCasing
          (refreshEnd (FwupdGir.refreshMetadata answer unreachable)) = some later ∧
        later.vm.busyText = "" ∧ later.vm.state = system.vm.state ∧
        later.vm.cards = system.vm.cards ∧
        (Reaches answer unreachable ∧ later.vm.toastText = "Update metadata refreshed." ∧
            later.gathers = system.gathers + 1 ∨
          ¬ Reaches answer unreachable ∧ later.gathers = system.gathers ∧ later.vm.toastText =
            "Could not refresh update metadata — check your connection.") :=
  ⟨_, rfl, rfl, metadata_refresh_reported asciiCasing _ one_ne_zero
    (.ok [⟨some "lvfs", .download, true⟩, ⟨some "vendor", .download, true⟩]) unreachable
    fun _ _ _ raised => ⟨_, (Except.error.inj raised).symm⟩⟩

end FirmwareSystem

end Lapcare.Pages
