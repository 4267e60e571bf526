import Lapcare.Pages.FirmwareListing

/-!
# The rows of the firmware page

`_fill_ready` and `_release_row` of `ui/pages/firmware/view.py`: what the page shows of a card,
and which installs its buttons ask for. Both come from what the library answered when the device
was asked for its upgrades.

## Main results

* `firmware_rows_told` — buttons and texts of every row, from one answer of the library
-/

namespace Lapcare.Pages

open Lapcare.Core Semantics Providers

/-- `URGENCY_TEXT`. -/
def urgencyTexts : List (String × String) :=
  [("critical", "Critical"), ("high", "High priority"), ("medium", "Medium priority"),
    ("low", "Low priority")]

/-- A release with its button, which asks for its install on the device. -/
structure ReleaseRow where
  title : String
  subtitle : String
  deviceId : String
  release : FirmwareRelease

/-- `_release_row`. -/
def releaseRow (deviceId : String) (release : FirmwareRelease) : ReleaseRow where
  title :=
    let title := s!"Version {release.version}"
    match release.urgency.bind fun urgency => urgencyTexts.lookup urgency with
    | some text => s!"{title} · {text}"
    | none => title
  subtitle := orText release.summary (orText release.name "")
  deviceId
  release

/-- A device on the page: with its releases to unfold, or as a line. -/
inductive FirmwareRow
  | expander (title subtitle : String) (rows : List ReleaseRow)
  | line (title subtitle tooltip : String)

namespace FirmwareRow

def subtitle : FirmwareRow → String
  | expander _ subtitle _ => subtitle
  | line _ subtitle _ => subtitle

/-- The installs that the buttons of a row ask for. -/
def buttons : FirmwareRow → List (String × FirmwareRelease)
  | expander _ _ rows => rows.map fun row => (row.deviceId, row.release)
  | line _ _ _ => []

end FirmwareRow

def upToDateText : String := "up to date"

def notSupportedText : String := "updates not supported"

def lastFailedText (updateError : String) : String :=
  "last update failed: " ++ updateError

/-- What the line of a device without releases says. -/
def lineText (card : DeviceCard) : String :=
  if card.upgradeNote ≠ "" then card.upgradeNote
  else if card.updateError ≠ "" then lastFailedText card.updateError
  else if card.updatable then upToDateText
  else notSupportedText

/-- The body of the loop of `_fill_ready`. -/
def firmwareRow (card : DeviceCard) : FirmwareRow :=
  match card.releases with
  | first :: _ =>
      .expander card.title (card.versionText ++ (" → " ++ (first.version ++ " available")))
        (card.releases.map (releaseRow card.id))
  | [] => .line card.title (card.versionText ++ (" — " ++ lineText card)) card.subtitle

/-! ### The gather behind a row -/

/-- What comes of a device that was asked for its upgrades, if it was: `answer` is what the
library said, or would have said. -/
inductive GatheredOne (answer : Except PyException (List FirmwareRelease))
    (device : FirmwareDevice) : Gathered → Prop
  | unasked (fixed : device.updatable = false) : GatheredOne answer device (device, [], "")
  | listed {releases : List FirmwareRelease} (updatable : device.updatable = true)
      (said : answer = .ok releases) : GatheredOne answer device (device, releases, "")
  | unlisted {error : LapcareError} (updatable : device.updatable = true)
      (said : answer = .error (.lapcare error)) :
      GatheredOne answer device (device, [], upgradesNote)

/-- A turn of the loop made these calls, and brought this home of the device. -/
def TurnTells (library : List ProviderCall → FwupdState) (device : FirmwareDevice)
    (outcome : Except PyException Gathered) (asked : List ProviderCall) : Prop :=
  ∀ gathered, outcome = .ok gathered →
    ∃ calls, GatheredOne ((library calls).client.listUpgrades device.id) device gathered ∧
      (device.updatable = true →
        asked = [.listUpgrades device.id ((library calls).client.listUpgrades device.id)])

/-- One call for a device that can be updated, and none for another. -/
theorem traces_gatherOne (library : List ProviderCall → FwupdState) (device : FirmwareDevice) :
    Logged.Traces (TurnTells library device)
      (FirmwareViewModel.gatherOne (fwupdGir library) device) := by
  intro log
  let calls := log.filter (·.from? .firmware)
  unfold FirmwareViewModel.gatherOne
  split_ifs with updatable
  · have asked : Logged.exec ((fwupdGir library).listUpgrades device.id) log =
        ((library calls).client.listUpgrades device.id,
          log ++ [.listUpgrades device.id ((library calls).client.listUpgrades device.id)]) := rfl
    rw [Logged.exec_tryCatch, Logged.exec_map, asked]
    rcases answer : (library calls).client.listUpgrades device.id with
      (error | ⟨className, detail⟩) | releases
    · refine ⟨_, rfl, fun gathered done => ?_⟩
      obtain rfl := Except.ok.inj done
      exact ⟨calls, .unlisted updatable answer, fun _ => by rw [answer]⟩
    · exact ⟨_, rfl, fun gathered done => nomatch done⟩
    · refine ⟨_, rfl, fun gathered done => ?_⟩
      obtain rfl := Except.ok.inj done
      exact ⟨calls, .listed updatable answer, fun _ => by rw [answer]⟩
  · refine ⟨[], (List.append_nil log).symm, fun gathered done => ?_⟩
    obtain rfl := Except.ok.inj done
    exact ⟨calls, .unasked (Bool.eq_false_of_not_eq_true updatable),
      fun able => absurd able updatable⟩

/-- A gather that ends well asked for the upgrades of every device that can be updated. -/
theorem traces_gather (library : List ProviderCall → FwupdState) :
    Logged.Traces (fun outcome asked => ∀ data, outcome = .ok data → ∀ gathered ∈ data,
        ∃ own, own <:+: asked ∧ TurnTells library gathered.1 (.ok gathered) own)
      (FirmwareViewModel.gather (fwupdGir library)) := by
  have listed : Logged.Traces (fun _ _ => True) (fwupdGir library).listDevices :=
    Logged.traces_perform fun _ => trivial
  refine listed.bind (fun devices => Logged.traces_mapM (traces_gatherOne library) devices)
    (fun e _ _ data done => nomatch done) ?_
  intro devices outcome entries more _ turns data done gathered member
  obtain ⟨device, -, own, among, tells⟩ := turns data done gathered member
  obtain ⟨calls, one, -⟩ := tells gathered rfl
  have same : gathered.1 = device := by cases one <;> rfl
  exact ⟨own, among.trans (List.suffix_append entries more).isInfix, same ▸ tells⟩

/-! ### What a row says -/

/-- The row says this of its device, after the version. -/
def DeviceCard.RowSays (card : DeviceCard) (text : String) : Prop :=
  (firmwareRow card).subtitle = card.versionText ++ (" — " ++ text)

section Texts

variable {card : DeviceCard} {text : String}

/-- Only a device without releases has a line to say it. -/
theorem rowSays_iff : card.RowSays text ↔ card.releases = [] ∧ lineText card = text := by
  unfold DeviceCard.RowSays firmwareRow
  split
  case h_1 first rest releases =>
    refine iff_of_false (fun same => ?_) (by simp [releases])
    have arrow := congrArg String.toList ((String.append_right_inj _).mp same)
    simp [String.toList_append] at arrow
  case h_2 none_ =>
    have line : (FirmwareRow.line card.title (card.versionText ++ (" — " ++ lineText card))
        card.subtitle).subtitle = card.versionText ++ (" — " ++ lineText card) := rfl
    rw [line, String.append_right_inj, String.append_right_inj]
    exact (and_iff_right none_).symm

theorem head?_lastFailed (updateError : String) :
    ("last update failed: " ++ updateError).toList.head? = some 'l' := by
  simp

/-- The text on a failed update is told from others by its first letter. -/
theorem lastFailedText_ne {updateError : String} (other : text.toList.head? ≠ some 'l') :
    lastFailedText updateError ≠ text := by
  intro same
  have letter : (lastFailedText updateError).toList.head? = some 'l' :=
    head?_lastFailed updateError
  rw [same] at letter
  exact other letter

variable (known : card.upgradeNote = "" ∨ card.upgradeNote = upgradesNote)

include known

theorem lineText_upToDate_iff : lineText card = upToDateText ↔
    card.upgradeNote = "" ∧ card.updateError = "" ∧ card.updatable = true := by
  have failed : lastFailedText card.updateError ≠ upToDateText := lastFailedText_ne (by decide)
  have unlisted : upgradesNote ≠ upToDateText := by decide
  have fixed : notSupportedText ≠ upToDateText := by decide
  have named : upgradesNote ≠ "" := by decide
  unfold lineText
  rcases known with none_ | note
  · by_cases error : card.updateError = "" <;> cases updatable : card.updatable <;>
      simp [none_, error, failed, fixed]
  · simp [note, named, unlisted]

theorem lineText_unchecked_iff :
    lineText card = upgradesNote ↔ card.upgradeNote = upgradesNote := by
  have failed : lastFailedText card.updateError ≠ upgradesNote := lastFailedText_ne (by decide)
  have named : upgradesNote ≠ "" := by decide
  have texts : upToDateText ≠ upgradesNote ∧ notSupportedText ≠ upgradesNote := by decide
  unfold lineText
  rcases known with none_ | note
  · by_cases error : card.updateError = "" <;> cases updatable : card.updatable <;>
      simp [none_, error, failed, texts, named.symm]
  · simp [note, named]

theorem lineText_failed_iff : lineText card = lastFailedText card.updateError ↔
    card.upgradeNote = "" ∧ card.updateError ≠ "" := by
  have current : lastFailedText card.updateError ≠ upToDateText := lastFailedText_ne (by decide)
  have unlisted : lastFailedText card.updateError ≠ upgradesNote := lastFailedText_ne (by decide)
  have fixed : lastFailedText card.updateError ≠ notSupportedText := lastFailedText_ne (by decide)
  have named : upgradesNote ≠ "" := by decide
  unfold lineText
  rcases known with none_ | note
  · by_cases error : card.updateError = ""
    · rw [error] at current fixed
      cases updatable : card.updatable <;> simp [none_, error, current.symm, fixed.symm]
    · simp [none_, error]
  · simp [note, named, unlisted.symm]

end Texts

/-- What the row of a card owes the answer of the library: a button for each release that it
offers, and a text that is true. A failed update is told of where there is nothing newer. -/
structure RowTold (answer : Except PyException (List FirmwareRelease)) (card : DeviceCard) :
    Prop where
  buttons : (firmwareRow card).buttons =
    if card.updatable then (answer.toOption.getD []).map (card.id, ·) else []
  upToDate : card.RowSays upToDateText ↔
    card.updatable = true ∧ answer = .ok [] ∧ card.updateError = ""
  unchecked : card.RowSays upgradesNote ↔
    card.updatable = true ∧ ∃ error, answer = .error (.lapcare error)
  failed : card.RowSays (lastFailedText card.updateError) ↔
    card.updateError ≠ "" ∧ (card.updatable = true → answer = .ok [])

/-- The buttons of a row ask for the releases of its card. -/
theorem buttons_firmwareRow (card : DeviceCard) :
    (firmwareRow card).buttons = card.releases.map (card.id, ·) := by
  unfold firmwareRow
  split
  case h_1 first rest releases =>
    change (card.releases.map (releaseRow card.id)).map _ = _
    rw [List.map_map]
    rfl
  case h_2 none_ =>
    rw [none_]
    rfl

theorem rowTold_of_gatheredOne {answer : Except PyException (List FirmwareRelease)}
    {device : FirmwareDevice} {gathered : Gathered} (one : GatheredOne answer device gathered) :
    RowTold answer (DeviceCard.ofGathered gathered) := by
  obtain ⟨own, releases, note⟩ := gathered
  have known : (DeviceCard.ofGathered (own, releases, note)).upgradeNote = "" ∨
      (DeviceCard.ofGathered (own, releases, note)).upgradeNote = upgradesNote := by
    cases one with
    | unasked | listed => exact .inl rfl
    | unlisted => exact .inr rfl
  have named : upgradesNote ≠ "" := by decide
  have current := lineText_upToDate_iff known
  have unlisted := lineText_unchecked_iff known
  have failed := lineText_failed_iff known
  refine ⟨?_, ?_, ?_, ?_⟩
  · rw [buttons_firmwareRow]
    cases one with
    | unasked fixed => simp [DeviceCard.ofGathered, fixed]
    | listed updatable said => simp [DeviceCard.ofGathered, updatable, said, Except.toOption]
    | unlisted updatable said => simp [DeviceCard.ofGathered, said, Except.toOption]
  · rw [rowSays_iff, current]
    cases one with
    | unasked fixed => simp [DeviceCard.ofGathered, fixed]
    | listed updatable said => simp [DeviceCard.ofGathered, updatable, said]
    | unlisted updatable said => simp [DeviceCard.ofGathered, said, named]
  · rw [rowSays_iff, unlisted]
    cases one with
    | unasked fixed => simp [DeviceCard.ofGathered, fixed, named.symm]
    | listed updatable said => simp [DeviceCard.ofGathered, said, named.symm]
    | unlisted updatable said => simp [DeviceCard.ofGathered, updatable, said]
  · rw [rowSays_iff, failed]
    cases one with
    | unasked fixed => simp [DeviceCard.ofGathered, fixed]
    | listed updatable said => simp [DeviceCard.ofGathered, updatable, said, and_comm]
    | unlisted updatable said => simp [DeviceCard.ofGathered, updatable, said, named]

namespace FirmwareSystem

/-- After any run, in which the library may answer every call in its own way, the page shows no
cards yet, or those of one gather. Every row tells of one answer about its device, which this
gather got where the device can be updated: its buttons ask for the releases of that answer and no
others, on this device, and what it says besides is true. -/
theorem firmware_rows_told (casing : Casing) (library : List ProviderCall → FwupdState)
    (events : List FirmwareEvent) (from_ : ∀ event ∈ events, FromFwupd library event)
    (system : FirmwareSystem) (ran : runFrom (step casing) fresh events = some system) :
    system.vm.cards = [] ∨ ∃ data log asked, .gatherDone data ∈ events ∧
      Logged.exec (FirmwareViewModel.gather (fwupdGir library)) log = (.ok data, log ++ asked) ∧
      system.vm.cards = data.map DeviceCard.ofGathered ∧
      ∀ card ∈ system.vm.cards, ∃ calls,
        (card.updatable = true →
          .listUpgrades card.id ((library calls).client.listUpgrades card.id) ∈ asked) ∧
        RowTold ((library calls).client.listUpgrades card.id) card := by
  refine (cards_of_run ran).imp_right ?_
  rintro ⟨data, among, cards⟩
  obtain ⟨log, done⟩ := from_ _ among
  obtain ⟨asked, appended, tells⟩ := traces_gather library log
  refine ⟨data, log, asked, among, Prod.ext done appended, cards, fun card shown => ?_⟩
  rw [cards] at shown
  obtain ⟨gathered, member, rfl⟩ := List.mem_map.mp shown
  obtain ⟨own, within, turn⟩ := tells data done gathered member
  obtain ⟨calls, one, call⟩ := turn gathered rfl
  refine ⟨calls, fun updatable => within.subset ?_, rowTold_of_gatheredOne one⟩
  rw [call updatable]
  exact List.mem_singleton_self _

/-- A library that offers two releases for a device. -/
def urgentLibrary : FwupdState where
  devices := .ok [{ id := some "bios", name := some "System Firmware", updatable := true }]
  client :=
    { nothingToDoClient with
      getUpgrades := fun _ => .ok
        [{ version := some "1.40", urgency := some "critical" }, { version := some "1.39" }] }

/-- What a gather brings home from it. -/
def urgentData : List Gathered :=
  [({ id := "bios", name := some "System Firmware", updatable := true },
    [{ version := "1.40", urgency := some "critical" }, { version := "1.39" }], "")]

theorem gatheredFrom_urgentLibrary : GatheredFrom (fun _ => urgentLibrary) urgentData := by
  refine ⟨[], ?_⟩
  have listed : FwupdGir.listDevices urgentLibrary.devices =
      .ok [{ id := "bios", name := some "System Firmware", updatable := true }] := by
    refine FwupdGir.listDevices_ok_iff.mpr ⟨_, rfl, ?_, ?_⟩
    · simp [GotDevice.Identified]
    · simp [sortedOn, models, GotDevice.model, updateStateOf]
  rw [FirmwareViewModel.gather, Logged.exec_bind]
  have asked : Logged.exec (fwupdGir fun _ => urgentLibrary).listDevices [] =
      (FwupdGir.listDevices urgentLibrary.devices,
        [.listFirmwareDevices (FwupdGir.listDevices urgentLibrary.devices)]) := rfl
  rw [asked, listed]
  rfl

theorem firmware_rows_told_urgent :
    ∃ (system : FirmwareSystem) (asked : List ProviderCall),
      runFrom (step asciiCasing) fresh [.load, .gatherDone urgentData] = some system ∧
      (system.vm.cards.flatMap fun card => (firmwareRow card).buttons.map fun button =>
          (button.1, button.2.version)) = [("bios", "1.40"), ("bios", "1.39")] ∧
      ∀ card ∈ system.vm.cards,
        (card.updatable = true →
          .listUpgrades card.id (urgentLibrary.client.listUpgrades card.id) ∈ asked) ∧
        RowTold (urgentLibrary.client.listUpgrades card.id) card := by
  have from_ : ∀ event ∈ [.load, .gatherDone urgentData],
      FromFwupd (fun _ => urgentLibrary) event := by
    intro event member
    rcases List.mem_cons.mp member with rfl | member
    · trivial
    · obtain rfl := List.mem_singleton.mp member
      exact gatheredFrom_urgentLibrary
  rcases firmware_rows_told asciiCasing (fun _ => urgentLibrary) _ from_ _ rfl with
    none_ | ⟨data, log, asked, among, done, cards, told⟩
  · cases none_
  · refine ⟨_, asked, rfl, by decide, fun card shown => ?_⟩
    obtain ⟨_, answered⟩ := told card shown
    exact answered

end FirmwareSystem

end Lapcare.Pages
