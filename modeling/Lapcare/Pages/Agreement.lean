import Lapcare.Core.Verdicts
import Lapcare.Pages.Firmware
import Lapcare.Pages.Storage
import Lapcare.Semantics.FailFast

/-!
# Pages against the diagnostics run

Two loops read the same drives and the same firmware devices. The loop of a page keeps
going past a device that cannot be read, the loop of the run gives up its source. The
two agree exactly where that difference cannot be seen.
-/

namespace Lapcare.Pages

open Lapcare.Core Semantics Semantics.Logged

/-! ### Drives -/

/-- An answer of `read_smart` when no prompt is declined and no tool is missing. -/
inductive DriveAnswer
  | report (report : SmartReport)
  | parseError (source detail : String)
  | timeout (source detail : String)

namespace DriveAnswer

def answer : DriveAnswer → Except PyException SmartReport
  | .report read => .ok read
  | .parseError source detail => .error (.lapcare (.providerParseError source detail))
  | .timeout source detail => .error (.lapcare (.providerTimeout source detail))

/-- The report that was read, if one was. -/
def report? : DriveAnswer → Option SmartReport
  | .report read => some read
  | .parseError _ _ | .timeout _ _ => none

/-- What the page notes on the card of the drive. -/
def note : DriveAnswer → String
  | .report _ => ""
  | .parseError _ _ | .timeout _ _ => degradedNote

/-- The drive could be read, and says that it is failing. -/
def Failing (answer : DriveAnswer) : Prop :=
  ∃ report, answer.report? = some report ∧ report.Failing

theorem onlyLapcare_answer : ∀ answer : DriveAnswer, OnlyLapcare answer.answer
  | .report _ => onlyLapcare_ok _
  | .parseError _ _ | .timeout _ _ => onlyLapcare_lapcare _

theorem answer_of_report? {answer : DriveAnswer} {report : SmartReport}
    (read : answer.report? = some report) : answer.answer = .ok report := by
  cases answer with
  | report same =>
    obtain rfl := Option.some.inj read
    rfl
  | parseError | timeout => exact nomatch read

theorem answer_of_report?_none {answer : DriveAnswer} (unread : answer.report? = none) :
    ∃ error, answer.answer = .error (.lapcare error) := by
  cases answer with
  | report => exact nomatch unread
  | parseError | timeout => exact ⟨_, rfl⟩

/-- Neither failure ends a health action. -/
theorem turnOutcome_answer (name : String) (answer : DriveAnswer) :
    StorageViewModel.turnOutcome name answer.answer = .ok (name, answer.report?, answer.note) := by
  cases answer <;> rfl

end DriveAnswer

/-- Block devices that answer by name. -/
def drives (devices : List StorageDevice) (outcome : String → DriveAnswer) :
    StorageProvider where
  devices _ := .ok devices
  smart _ name := (outcome name).answer

theorem drives_keepsConvention (devices : List StorageDevice) (outcome : String → DriveAnswer) :
    (drives devices outcome).KeepsConvention :=
  ⟨fun _ => onlyLapcare_ok devices, fun _ name => (outcome name).onlyLapcare_answer⟩

/-- Some device answers that it is failing. -/
def SomeFailing (devices : List StorageDevice) (outcome : String → DriveAnswer) : Prop :=
  ∃ device ∈ devices, (outcome device.name).Failing

/-- Every device could be read. -/
def AllRead (devices : List StorageDevice) (outcome : String → DriveAnswer) : Prop :=
  ∀ device ∈ devices, ∃ report, (outcome device.name).report? = some report

/-- A health action on the loaded page, run to completion. -/
def healthOutcome (devices : List StorageDevice) (outcome : String → DriveAnswer) :
    Except PyException StorageViewModel :=
  alone ((({} : StorageViewModel).apply devices).completeHealth (drives devices outcome))

/-- After the action some card is marked as failing. -/
def PageMarksFailing (devices : List StorageDevice) (outcome : String → DriveAnswer) : Prop :=
  ∃ page, healthOutcome devices outcome = .ok page ∧
    ∃ card ∈ page.cards, card.healthFailed = true

/-- A health action that can start and whose gather returns ends in `_health_done`. -/
theorem alone_completeHealth {vm : StorageViewModel} {storage : StorageProvider}
    {results : List HealthResult} (idle : vm.busyText = "") (loaded : vm.cards ≠ [])
    (gathered : alone (StorageViewModel.gatherHealth storage (vm.cards.map (·.name))) =
      .ok results) :
    alone (vm.completeHealth storage) =
      .ok ({ vm with busyText := "Reading storage health…" }.healthDone results) := by
  have starts : ¬ (vm.busyText ≠ "" ∨ vm.cards = []) := by
    rintro (busy | empty)
    · exact busy idle
    · exact loaded empty
  rw [alone, StorageViewModel.completeHealth, StorageViewModel.readHealth, if_neg starts]
  exact exec_tryCatch_fst_of_ok gathered _ _

/-- Against devices that answer by name, and none of whose answers ends the action, the
gathered results are the answers, device by device. -/
theorem alone_gatherHealth_eq {storage : StorageProvider}
    {answer : String → Except PyException SmartReport}
    {result : String → Option SmartReport × String}
    (answers : ∀ log name, storage.smart log name = answer name)
    (turns : ∀ name, StorageViewModel.turnOutcome name (answer name) = .ok (name, result name))
    (names : List String) :
    alone (StorageViewModel.gatherHealth storage names) =
      .ok (names.map fun name => (name, result name)) := by
  rw [alone, StorageViewModel.gatherHealth,
    mapM_outcome (f := fun name => StorageViewModel.turnOutcome name (answer name))]
  · exact mapM_eq_map fun name _ => turns name
  · intro name log
    rw [StorageViewModel.exec_gatherOne, answers]

theorem alone_gatherHealth (devices : List StorageDevice) (outcome : String → DriveAnswer)
    (names : List String) :
    alone (StorageViewModel.gatherHealth (drives devices outcome) names) =
      .ok (names.map fun name => (name, (outcome name).report?, (outcome name).note)) :=
  alone_gatherHealth_eq (fun _ _ => rfl) (fun name => (outcome name).turnOutcome_answer name) names

theorem byName_map {names : List String} {name : String} (member : name ∈ names)
    (result : String → Option SmartReport × String) :
    StorageViewModel.byName (names.map fun name => (name, result name)) name = result name := by
  rw [StorageViewModel.byName]
  rcases found : (names.map fun name => (name, result name)).reverse.find? (·.1 = name) with
    _ | entry
  · -- the name is among the results, so the search succeeds
    rw [List.find?_eq_none] at found
    refine absurd ?_ (found (name, result name) ?_)
    · simp
    · rw [List.mem_reverse]
      exact List.mem_map.mpr ⟨name, member, rfl⟩
  · rw [found]
    have here := List.find?_some found
    have among := List.mem_reverse.mp (List.mem_of_find?_eq_some found)
    obtain ⟨other, -, rfl⟩ := List.mem_map.mp among
    obtain rfl : other = name := by simpa using here
    rfl

/-- A card is marked exactly when its own device answers that it is failing. -/
theorem healthFailed_withHealth {names : List String} {device : StorageDevice}
    (member : device.name ∈ names) (outcome : String → DriveAnswer) :
    (StorageViewModel.withHealth
        (names.map fun name => (name, (outcome name).report?, (outcome name).note))
        (StorageCard.ofDevice device)).healthFailed = true ↔
      (outcome device.name).Failing := by
  rw [StorageViewModel.withHealth, StorageCard.ofDevice_name,
    byName_map member fun name => ((outcome name).report?, (outcome name).note),
    DriveAnswer.Failing]
  rcases (outcome device.name).report? with _ | report
  · simp [StorageCard.ofDevice]
  · simp only [Option.some.injEq, exists_eq_left', SmartReport.Failing, summary]
    rcases report.passed with _ | _ | _ <;> simp

theorem pageMarksFailing_iff {devices : List StorageDevice} {outcome : String → DriveAnswer} :
    PageMarksFailing devices outcome ↔ SomeFailing devices outcome := by
  by_cases nothing : devices = []
  · subst nothing
    have page : healthOutcome [] outcome =
        .ok (({} : StorageViewModel).apply []) := rfl
    simp [PageMarksFailing, SomeFailing, page, StorageViewModel.apply]
  · -- the page with its cards, before any drive has answered
    let loaded : StorageViewModel :=
      { toPageViewModel := ({} : PageViewModel).showReady
        cards := devices.map StorageCard.ofDevice }
    have cards : ({} : StorageViewModel).apply devices = loaded := by
      rw [StorageViewModel.apply, if_neg nothing]
    have names : loaded.cards.map (·.name) = devices.map (·.name) := by
      simp [loaded, List.map_map]
    have gathered := alone_gatherHealth devices outcome (loaded.cards.map (·.name))
    have shown : loaded.cards ≠ [] := by simpa [loaded] using nothing
    have done := alone_completeHealth rfl shown gathered
    have starts : healthOutcome devices outcome =
        alone (loaded.completeHealth (drives devices outcome)) := by
      rw [healthOutcome, cards]
    rw [← starts, names] at done
    -- a card is marked exactly when its own drive answered that it is failing
    have marked (device : StorageDevice) (member : device ∈ devices) :=
      healthFailed_withHealth (List.mem_map_of_mem (f := StorageDevice.name) member) outcome
    constructor
    · rintro ⟨page, same, card, shown, failed⟩
      rw [done] at same
      obtain rfl := Except.ok.inj same
      obtain ⟨plain, listed, rfl⟩ := List.mem_map.mp shown
      obtain ⟨device, member, rfl⟩ := List.mem_map.mp listed
      exact ⟨device, member, (marked device member).mp failed⟩
    · rintro ⟨device, member, failing⟩
      refine ⟨_, done, _, ?_, (marked device member).mpr failing⟩
      exact List.mem_map_of_mem (List.mem_map_of_mem member)

/-! ### The run over the same drives -/

/-- The loop of the run over drives: all reports, or none. -/
theorem alone_readReports (devices : List StorageDevice) (outcome : String → DriveAnswer) :
    (exec (readReports (drives devices outcome)) []).1 =
      devices.mapM fun device => (outcome device.name).answer := by
  rw [readReports, exec_bind_fst]
  exact mapM_outcome (f := fun device : StorageDevice => (outcome device.name).answer)
    (fun _ _ => rfl) devices _

theorem gatherReports_allRead {devices : List StorageDevice} {outcome : String → DriveAnswer}
    (all : AllRead devices outcome) :
    ∃ reports, alone (gatherReports true (some (drives devices outcome))) =
        .ok (some reports, "not-requested") ∧
      ((∃ report ∈ reports, report.Failing) ↔ SomeFailing devices outcome) := by
  let read (device : StorageDevice) : SmartReport :=
    ((outcome device.name).report?).getD { deviceName := device.name }
  have each (device : StorageDevice) (member : device ∈ devices) :
      (outcome device.name).report? = some (read device) := by
    obtain ⟨report, same⟩ := all device member
    simp only [read, same, Option.getD_some]
  have loop := alone_readReports devices outcome
  -- no drive raises, so the loop is a map
  rw [mapM_eq_map fun device member => DriveAnswer.answer_of_report? (each device member)] at loop
  refine ⟨devices.map read, ?_, ?_⟩
  · rw [alone, gatherReports, if_pos rfl]
    exact exec_tryCatch_fst_of_ok loop _ _
  · constructor
    · rintro ⟨report, member, failing⟩
      obtain ⟨device, listed, rfl⟩ := List.mem_map.mp member
      exact ⟨device, listed, read device, each device listed, failing⟩
    · rintro ⟨device, listed, report, same, failing⟩
      rw [each device listed] at same
      obtain rfl := Option.some.inj same
      exact ⟨read device, List.mem_map_of_mem listed, failing⟩

/-- One unreadable drive costs the run every report. -/
theorem gatherReports_unread {devices : List StorageDevice} {outcome : String → DriveAnswer}
    (unread : ¬ AllRead devices outcome) :
    ∃ skipCode, alone (gatherReports true (some (drives devices outcome))) =
      .ok (none, skipCode) := by
  simp only [AllRead, not_forall, not_exists] at unread
  obtain ⟨device, member, missing⟩ := unread
  obtain ⟨error, failed⟩ := DriveAnswer.answer_of_report?_none
    (Option.eq_none_iff_forall_not_mem.mpr missing)
  have loop := alone_readReports devices outcome
  obtain ⟨e, raised⟩ := mapM_raises (f := fun device : StorageDevice =>
    (outcome device.name).answer) member failed
  rw [raised] at loop
  obtain ⟨other, -, came⟩ := mapM_error raised
  have lapcare := (outcome other.name).onlyLapcare_answer e came
  rw [gatherReports, if_pos rfl]
  rcases e with error | ⟨className, detail⟩
  · cases error <;> exact ⟨_, exec_tryCatch_fst_of_error loop _ fun _ => rfl⟩
  · exact lapcare.elim

/-- The other providers of a run beside these drives. -/
def withDrives (sources : Sources) (devices : List StorageDevice)
    (outcome : String → DriveAnswer) : Sources :=
  { sources with storage := some (drives devices outcome) }

theorem withDrives_keepConvention {sources : Sources} (keep : sources.KeepConvention)
    (devices : List StorageDevice) (outcome : String → DriveAnswer) :
    (withDrives sources devices outcome).KeepConvention :=
  { keep with
    storage := by
      rintro provider ⟨⟩
      exact drives_keepsConvention devices outcome }

theorem runReports_critical_iff {sources : Sources} (keep : sources.KeepConvention)
    {devices : List StorageDevice} {outcome : String → DriveAnswer} :
    RunReports (withDrives sources devices outcome) true .storage (·.status = .critical) ↔
      AllRead devices outcome ∧ SomeFailing devices outcome := by
  have kept := withDrives_keepConvention keep devices outcome
  by_cases all : AllRead devices outcome
  · obtain ⟨reports, gathered, failing⟩ := gatherReports_allRead all
    rw [runReports_storage_iff kept gathered, checkStorageHealth_critical_iff]
    simp [all, failing]
  · obtain ⟨skipCode, gathered⟩ := gatherReports_unread all
    rw [runReports_storage_iff kept gathered, checkStorageHealth_critical_iff]
    simp [all]

/-! ### The storage page and the run -/

/-- If the page marks a drive as failing, the run calls storage health critical. -/
def StorageAgrees (sources : Sources) (devices : List StorageDevice)
    (outcome : String → DriveAnswer) : Prop :=
  PageMarksFailing devices outcome →
    RunReports (withDrives sources devices outcome) true .storage (·.status = .critical)

/-- Page and run agree exactly when every drive can be read, or none of the drives that
can be read is failing. -/
theorem storage_agreement {sources : Sources} (keep : sources.KeepConvention)
    (devices : List StorageDevice) (outcome : String → DriveAnswer) :
    StorageAgrees sources devices outcome ↔
      AllRead devices outcome ∨ ¬ SomeFailing devices outcome := by
  rw [StorageAgrees, pageMarksFailing_iff, runReports_critical_iff keep]
  tauto

/-- Two drives: the first is failing, the second has no readable SMART data. -/
def failingBesideUnreadable : String → DriveAnswer
  | "sda" => .report { deviceName := "sda", passed := some false }
  | _ => .parseError "storage_smart" "helper: output-invalid"

/-- The page marks the first drive, and the run has no verdict on storage. -/
theorem storage_disagreement :
    ¬ StorageAgrees {} [{ name := "sda" }, { name := "sdb" }] failingBesideUnreadable := by
  intro agrees
  have marks : PageMarksFailing [{ name := "sda" }, { name := "sdb" }]
      failingBesideUnreadable :=
    pageMarksFailing_iff.mpr ⟨{ name := "sda" }, by simp, _, rfl, rfl⟩
  obtain ⟨all, -⟩ := (runReports_critical_iff Sources.keepConvention_absent).mp (agrees marks)
  obtain ⟨report, read⟩ := all { name := "sdb" } (by simp)
  exact nomatch read

/-- Two drives that can be read: the first is failing, the second is healthy. -/
def failingBesideHealthy : String → DriveAnswer
  | "sda" => .report { deviceName := "sda", passed := some false, reallocatedSectors := some 12 }
  | name => .report { deviceName := name, passed := some true, temperatureC := some 35 }

theorem storage_agreement_healthy :
    let devices : List StorageDevice := [{ name := "sda" }, { name := "sdb" }]
    (StorageAgrees {} devices failingBesideHealthy ↔
      AllRead devices failingBesideHealthy ∨ ¬ SomeFailing devices failingBesideHealthy) ∧
    AllRead devices failingBesideHealthy ∧ SomeFailing devices failingBesideHealthy := by
  intro devices
  refine ⟨storage_agreement Sources.keepConvention_absent _ _, fun device member => ?_,
    { name := "sda" }, by simp [devices], _, rfl, rfl⟩
  simp only [devices, List.mem_cons, List.not_mem_nil, or_false] at member
  rcases member with rfl | rfl <;> exact ⟨_, rfl⟩

/-! ### Firmware devices -/

/-- Firmware devices whose `list_upgrades` answers by device id. -/
def fwupd (devices : List FirmwareDevice)
    (upgrades : String → Except LapcareError (List FirmwareRelease)) : FirmwareProvider where
  devices _ := .ok devices
  upgrades _ id := (upgrades id).mapError .lapcare

section Firmware

variable {devices : List FirmwareDevice}
  {upgrades : String → Except LapcareError (List FirmwareRelease)}

theorem onlyLapcare_mapError {α : Type} (answer : Except LapcareError α) :
    OnlyLapcare (answer.mapError PyException.lapcare) := by
  cases answer with
  | error error => exact onlyLapcare_lapcare error
  | ok a => exact onlyLapcare_ok a

theorem fwupd_keepsConvention (devices : List FirmwareDevice)
    (upgrades : String → Except LapcareError (List FirmwareRelease)) :
    (fwupd devices upgrades).KeepsConvention :=
  ⟨fun _ => onlyLapcare_ok devices, fun _ id => onlyLapcare_mapError (upgrades id)⟩

/-- The upgrades of every updatable device could be listed. -/
def AllListed (devices : List FirmwareDevice)
    (upgrades : String → Except LapcareError (List FirmwareRelease)) : Prop :=
  ∀ device ∈ devices, device.updatable = true → ∃ releases, upgrades device.id = .ok releases

/-- What the page gathers for one device. -/
def gatheredFor (upgrades : String → Except LapcareError (List FirmwareRelease))
    (device : FirmwareDevice) : Gathered :=
  if device.updatable then
    match upgrades device.id with
    | .ok releases => (device, releases, "")
    | .error _ => (device, [], upgradesNote)
  else (device, [], "")

/-- The releases the page gathers for its cards. -/
def gatheredReleases (data : List Gathered) : List FirmwareRelease :=
  data.flatMap (·.2.1)

theorem exec_gatherOne_fst (device : FirmwareDevice) (log : List ProviderCall) :
    (exec (FirmwareViewModel.gatherOne (fwupd devices upgrades) device) log).1 =
      .ok (gatheredFor upgrades device) := by
  unfold FirmwareViewModel.gatherOne gatheredFor
  cases device.updatable with
  | false => rfl
  | true =>
    rw [if_pos rfl, if_pos rfl, exec_tryCatch, exec_map]
    have answered : exec ((fwupd devices upgrades).listUpgrades device.id) log =
        ((upgrades device.id).mapError .lapcare,
          log ++ [.listUpgrades device.id ((upgrades device.id).mapError .lapcare)]) := rfl
    rw [answered]
    rcases upgrades device.id with error | releases <;> rfl

/-- The page keeps going past a device whose upgrades cannot be listed. -/
theorem alone_gather :
    alone (FirmwareViewModel.gather (fwupd devices upgrades)) =
      .ok (devices.map (gatheredFor upgrades)) := by
  rw [alone, FirmwareViewModel.gather, exec_bind_fst]
  have turn (device : FirmwareDevice) (log : List ProviderCall) :
      (exec (FirmwareViewModel.gatherOne (fwupd devices upgrades) device) log).1 =
        .ok (gatheredFor upgrades device) :=
    exec_gatherOne_fst device log
  have loop := mapM_outcome turn devices (exec (fwupd devices upgrades).listDevices []).2
  rw [mapM_eq_map fun device _ => rfl] at loop
  exact loop

theorem mem_gatheredReleases {release : FirmwareRelease} :
    release ∈ gatheredReleases (devices.map (gatheredFor upgrades)) ↔
      ∃ device ∈ devices, device.updatable = true ∧
        ∃ releases, upgrades device.id = .ok releases ∧ release ∈ releases := by
  simp only [gatheredReleases, List.mem_flatMap, List.mem_map]
  constructor
  · rintro ⟨entry, ⟨device, member, rfl⟩, listed⟩
    unfold gatheredFor at listed
    split_ifs at listed with updatable
    · rcases answer : upgrades device.id with error | releases
      · rw [answer] at listed
        exact nomatch listed
      · rw [answer] at listed
        exact ⟨device, member, updatable, releases, answer, listed⟩
    · exact nomatch listed
  · rintro ⟨device, member, updatable, releases, answer, listed⟩
    refine ⟨_, ⟨device, member, rfl⟩, ?_⟩
    rw [gatheredFor, if_pos updatable, answer]
    exact listed

/-- Where nothing fails, page and run gather the same releases in the same order. -/
theorem gatheredReleases_eq (releasesOf : FirmwareDevice → List FirmwareRelease)
    (each : ∀ device ∈ devices, device.updatable = true →
      upgrades device.id = .ok (releasesOf device)) :
    gatheredReleases (devices.map (gatheredFor upgrades)) =
      ((devices.filter (·.updatable)).map releasesOf).flatten := by
  induction devices with
  | nil => rfl
  | cons device rest ih =>
    have tail := ih fun other member => each other (List.mem_cons_of_mem device member)
    have split : gatheredReleases ((device :: rest).map (gatheredFor upgrades)) =
        (gatheredFor upgrades device).2.1 ++
          gatheredReleases (rest.map (gatheredFor upgrades)) := by
      simp [gatheredReleases]
    rw [split, tail]
    cases updatable : device.updatable with
    | false => simp [gatheredFor, updatable]
    | true => simp [gatheredFor, updatable, each device List.mem_cons_self updatable]

theorem readPending_outcome (devices : List FirmwareDevice)
    (upgrades : String → Except LapcareError (List FirmwareRelease)) :
    (exec (readPending (fwupd devices upgrades)) []).1 =
      ((devices.filter (·.updatable)).mapM fun device =>
        (upgrades device.id).mapError PyException.lapcare).map List.flatten := by
  rw [readPending, exec_bind_fst]
  have loop (log : List ProviderCall) :
      (exec ((devices.filter (·.updatable)).mapM fun device : FirmwareDevice =>
        (fwupd devices upgrades).listUpgrades device.id) log).1 =
      (devices.filter (·.updatable)).mapM fun device =>
        (upgrades device.id).mapError PyException.lapcare :=
    mapM_outcome (f := fun device : FirmwareDevice =>
      (upgrades device.id).mapError PyException.lapcare) (fun _ _ => rfl) _ log
  change (exec (_ >>= _) _).1 = _
  rw [exec_bind_fst, loop]
  rfl

theorem gatherPending_allListed (all : AllListed devices upgrades) :
    alone (gatherPending (some (fwupd devices upgrades))) =
      .ok (some (gatheredReleases (devices.map (gatheredFor upgrades)))) := by
  let releasesOf (device : FirmwareDevice) : List FirmwareRelease :=
    (upgrades device.id).toOption.getD []
  have each (device : FirmwareDevice) (member : device ∈ devices)
      (updatable : device.updatable = true) :
      upgrades device.id = .ok (releasesOf device) := by
    obtain ⟨releases, listed⟩ := all device member updatable
    simp only [releasesOf, listed, Except.toOption, Option.getD_some]
  have loop := readPending_outcome devices upgrades
  rw [mapM_eq_map (g := releasesOf) fun device member => ?_] at loop
  · rw [gatheredReleases_eq releasesOf each]
    exact exec_tryCatch_fst_of_ok loop _ _
  · obtain ⟨listed, updatable⟩ := List.mem_filter.mp member
    rw [each device listed updatable]
    rfl

/-- One failed query costs the run every release. -/
theorem gatherPending_unlisted (unlisted : ¬ AllListed devices upgrades) :
    alone (gatherPending (some (fwupd devices upgrades))) = .ok none := by
  simp only [AllListed, not_forall, not_exists] at unlisted
  obtain ⟨device, member, updatable, missing⟩ := unlisted
  have failed : ∃ e, (upgrades device.id).mapError PyException.lapcare = .error e := by
    rcases answer : upgrades device.id with error | releases
    · exact ⟨_, rfl⟩
    · exact (missing releases answer).elim
  obtain ⟨e, failed⟩ := failed
  obtain ⟨e', raised⟩ := mapM_raises
    (f := fun device : FirmwareDevice => (upgrades device.id).mapError PyException.lapcare)
    (List.mem_filter.mpr ⟨member, updatable⟩) failed
  obtain ⟨other, -, came⟩ := mapM_error raised
  have lapcare := onlyLapcare_mapError (upgrades other.id) e' came
  have loop := readPending_outcome devices upgrades
  rw [raised] at loop
  rcases e' with error | ⟨className, detail⟩
  · exact exec_tryCatch_fst_of_error loop _ fun _ => rfl
  · exact lapcare.elim

end Firmware

/-! ### The firmware page and the run -/

/-- The other providers of a run beside these firmware devices. -/
def withFwupd (sources : Sources) (devices : List FirmwareDevice)
    (upgrades : String → Except LapcareError (List FirmwareRelease)) : Sources :=
  { sources with firmware := some (fwupd devices upgrades) }

theorem withFwupd_keepConvention {sources : Sources} (keep : sources.KeepConvention)
    (devices : List FirmwareDevice)
    (upgrades : String → Except LapcareError (List FirmwareRelease)) :
    (withFwupd sources devices upgrades).KeepConvention :=
  { keep with
    firmware := by
      rintro provider ⟨⟩
      exact fwupd_keepsConvention devices upgrades }

/-- What a run owes the page that gathered `releases`: a critical one is critical, any
one is at least a warning, and where every query succeeded the counts are the same. -/
structure Echoes (releases : List FirmwareRelease) (allListed : Prop)
    (result : DiagnosticResult) : Prop where
  critical : (∃ release ∈ releases, release.Critical) → result.status = .critical
  pending : releases ≠ [] → result.status = .warning ∨ result.status = .critical
  counted : allListed → result.pendingUpdates = toString releases.length

/-- The page gathers, the run reports, and what it reports echoes what was gathered. -/
def FirmwareAgrees (sources : Sources) (includeStorageHealth : Bool)
    (devices : List FirmwareDevice)
    (upgrades : String → Except LapcareError (List FirmwareRelease)) : Prop :=
  ∃ data, alone (FirmwareViewModel.gather (fwupd devices upgrades)) = .ok data ∧
    RunReports (withFwupd sources devices upgrades) includeStorageHealth .firmware
      (Echoes (gatheredReleases data) (AllListed devices upgrades))

/-- The run echoes the page when it keeps the releases it gathered. -/
theorem echoes_kept (releases : List FirmwareRelease) (allListed : Prop) :
    Echoes releases allListed (checkFirmwareCurrency (some releases)) where
  critical := checkFirmwareCurrency_critical
  pending := checkFirmwareCurrency_pending
  counted _ := checkFirmwareCurrency_pendingUpdates releases

/-- The run that gave up its source echoes only a page that gathered nothing. -/
theorem echoes_discarded_iff {releases : List FirmwareRelease} {allListed : Prop}
    (missing : ¬ allListed) :
    Echoes releases allListed (checkFirmwareCurrency none) ↔ releases = [] := by
  constructor
  · intro echoes
    by_contra gathered
    rcases echoes.pending gathered with warning | critical
    · exact absurd warning (by decide)
    · exact absurd critical (by decide)
  · rintro rfl
    exact
      { critical := fun ⟨_, member, _⟩ => nomatch member
        pending := fun something => (something rfl).elim
        counted := fun all => (missing all).elim }

/-- Page and run agree exactly when every query succeeded, or no release was found. -/
theorem firmware_agreement {sources : Sources} (keep : sources.KeepConvention)
    (includeStorageHealth : Bool) (devices : List FirmwareDevice)
    (upgrades : String → Except LapcareError (List FirmwareRelease)) :
    FirmwareAgrees sources includeStorageHealth devices upgrades ↔
      AllListed devices upgrades ∨
        ∀ device ∈ devices, device.updatable = true →
          ∀ releases, upgrades device.id = .ok releases → releases = [] := by
  have kept := withFwupd_keepConvention keep devices upgrades
  have none_iff : gatheredReleases (devices.map (gatheredFor upgrades)) = [] ↔
      ∀ device ∈ devices, device.updatable = true →
        ∀ releases, upgrades device.id = .ok releases → releases = [] := by
    rw [List.eq_nil_iff_forall_not_mem]
    simp only [mem_gatheredReleases, List.eq_nil_iff_forall_not_mem]
    constructor
    · intro nothing device member updatable releases listed release among
      exact nothing release ⟨device, member, updatable, releases, listed, among⟩
    · rintro nothing release ⟨device, member, updatable, releases, listed, among⟩
      exact nothing device member updatable releases listed release among
  -- the page shows what it gathered, so agreement is about the report alone
  have gathered : FirmwareAgrees sources includeStorageHealth devices upgrades ↔
      RunReports (withFwupd sources devices upgrades) includeStorageHealth .firmware
        (Echoes (gatheredReleases (devices.map (gatheredFor upgrades)))
          (AllListed devices upgrades)) := by
    rw [FirmwareAgrees, alone_gather]
    simp
  rw [gathered, ← none_iff]
  -- one failed query discards every release that the run had gathered
  by_cases all : AllListed devices upgrades
  · rw [runReports_firmware_iff kept (gatherPending_allListed all)]
    simp only [all, true_or, iff_true]
    exact echoes_kept _ _
  · rw [runReports_firmware_iff kept (gatherPending_unlisted all), echoes_discarded_iff all]
    simp [all]

/-- Two updatable devices: a critical update for the first, no answer for the second. -/
def criticalBesideSilent : String → Except LapcareError (List FirmwareRelease)
  | "bios" => .ok [{ version := "2.0", urgency := some "critical" }]
  | _ => .error (.providerTimeout "fwupd" "get_upgrades")

/-- The page offers the critical update, and the run has no verdict on firmware. -/
theorem firmware_disagreement :
    ¬ FirmwareAgrees {} false
        [{ id := "bios", updatable := true }, { id := "dock", updatable := true }]
        criticalBesideSilent := by
  rintro ⟨data, gathered, reports⟩
  rw [alone_gather] at gathered
  obtain rfl := Except.ok.inj gathered
  have unlisted : ¬ AllListed
      [{ id := "bios", updatable := true }, { id := "dock", updatable := true }]
      criticalBesideSilent := by
    intro all
    obtain ⟨releases, listed⟩ := all { id := "dock", updatable := true } (by simp) rfl
    exact nomatch listed
  have kept := withFwupd_keepConvention Sources.keepConvention_absent
    [{ id := "bios", updatable := true }, { id := "dock", updatable := true }]
    criticalBesideSilent
  rw [runReports_firmware_iff kept (gatherPending_unlisted unlisted)] at reports
  exact absurd ((echoes_discarded_iff unlisted).mp reports) (by decide)

/-- A critical update for the first device, and no update for any other. -/
def criticalBesideCurrent : String → Except LapcareError (List FirmwareRelease)
  | "bios" => .ok [{ version := "2.0", urgency := some "critical" }, { version := "1.9" }]
  | _ => .ok []

theorem firmware_agreement_current :
    let devices : List FirmwareDevice := [{ id := "bios", updatable := true },
      { id := "dock", updatable := true }, { id := "reader" }]
    (FirmwareAgrees {} false devices criticalBesideCurrent ↔
      AllListed devices criticalBesideCurrent ∨
        ∀ device ∈ devices, device.updatable = true →
          ∀ releases, criticalBesideCurrent device.id = .ok releases → releases = []) ∧
    AllListed devices criticalBesideCurrent := by
  intro devices
  refine ⟨firmware_agreement Sources.keepConvention_absent false _ _, fun device member _ => ?_⟩
  simp only [devices, List.mem_cons, List.not_mem_nil, or_false] at member
  rcases member with rfl | rfl | rfl <;> exact ⟨_, rfl⟩

end Lapcare.Pages
