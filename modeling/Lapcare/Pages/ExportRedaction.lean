import Lapcare.Core.Degradation
import Lapcare.Pages.Export
import Lapcare.Semantics.TwoRuns

/-!
# Exports do not depend on identifiers

Two machines that differ in serial numbers and hostnames only give the same documents in
the same session. Nothing but the answers of three providers carries an identifier, and
what the page keeps of these answers does not.

## Main results

* `alike_run` — runs on such machines come to the same report
* `exports_independent` — every session writes the same documents
-/

namespace Lapcare

namespace Core

open Semantics Semantics.Logged

/-! ### Without identifiers -/

def SystemIdentity.anonymous (identity : SystemIdentity) : SystemIdentity :=
  { identity with serial := none }

def OsInfo.anonymous (osInfo : OsInfo) : OsInfo :=
  { osInfo with hostname := none }

def SmartReport.anonymous (report : SmartReport) : SmartReport :=
  { report with serialNumber := none }

/-- Only an answer to `readSmart` carries an identifier. -/
def ProviderCall.anonymous : ProviderCall → ProviderCall
  | .readSmart deviceName answer => .readSmart deviceName (answer.map SmartReport.anonymous)
  | call => call

theorem ProviderCall.anonymous_source (call : ProviderCall) :
    call.anonymous.source = call.source := by
  cases call <;> rfl

theorem ProviderCall.anonymous_of_source {call : ProviderCall}
    (other : call.source ≠ .storage) : call.anonymous = call := by
  cases call with
  | readSmart => exact absurd rfl other
  | _ => rfl

/-- Logs that look the same without identifiers. -/
def SameCalls (log log' : List ProviderCall) : Prop :=
  log.map ProviderCall.anonymous = log'.map ProviderCall.anonymous

theorem SameCalls.filter {log log' : List ProviderCall} (same : SameCalls log log')
    (source : Source) :
    SameCalls (log.filter (·.from? source)) (log'.filter (·.from? source)) := by
  have kept (log : List ProviderCall) :
      (log.filter (·.from? source)).map ProviderCall.anonymous =
        (log.map ProviderCall.anonymous).filter (·.from? source) := by
    rw [List.filter_map]
    congr 1
    apply List.filter_congr
    intro call _
    simp [ProviderCall.from?, ProviderCall.anonymous_source]
  rw [SameCalls, kept, kept, same]

/-- The calls to a source without identifiers are the same calls. -/
theorem SameCalls.filter_eq {log log' : List ProviderCall} (same : SameCalls log log')
    {source : Source} (other : source ≠ .storage) :
    log.filter (·.from? source) = log'.filter (·.from? source) := by
  have plain (log : List ProviderCall) :
      (log.filter (·.from? source)).map ProviderCall.anonymous = log.filter (·.from? source) := by
    have same (call) (member : call ∈ log.filter (·.from? source)) : call.anonymous = call := by
      have mine := ProviderCall.from?_eq_true_iff.mp (List.mem_filter.mp member).2
      exact ProviderCall.anonymous_of_source (mine ▸ other)
    exact (List.map_congr_left same).trans (List.map_id _)
  rw [← plain log, ← plain log']
  exact same.filter source

/-! ### Gathering -/

/-- A block of a source without identifiers runs alike on logs that look the same: it sees
the same calls, and adds the same. -/
theorem Block.alike {α : Type} {source : Source} {m : Gather α} (block : Block source m)
    (other : source ≠ .storage) : Alike ProviderCall.anonymous (· = ·) m m := by
  intro log log' same
  obtain ⟨outcomes, own⟩ := block.own log log' (SameCalls.filter_eq same other)
  refine ⟨outcomesAlike_eq_iff.mpr outcomes, ?_⟩
  obtain ⟨entries, appended, mine⟩ := block.logs log
  obtain ⟨entries', appended', mine'⟩ := block.logs log'
  have all (entries : List ProviderCall) (mine : ∀ entry ∈ entries, entry.source = source) :
      entries.filter (·.from? source) = entries :=
    List.filter_eq_self.mpr fun entry member =>
      ProviderCall.from?_eq_true_iff.mpr (mine entry member)
  rw [appended, appended', List.filter_append, List.filter_append, all entries mine,
    all entries' mine', SameCalls.filter_eq same other] at own
  rw [appended, appended', List.append_cancel_left own, List.map_append, List.map_append, same]

/-- The storage providers of the two machines: equal devices, and reports that are equal
without the serial number. -/
structure StorageProvider.Alike (first second : StorageProvider) : Prop where
  devices : ∀ log log', SameCalls log log' → first.devices log = second.devices log'
  smart : ∀ log log' deviceName, SameCalls log log' →
    (first.smart log deviceName).map SmartReport.anonymous =
      (second.smart log' deviceName).map SmartReport.anonymous

theorem alike_ask {α β : Type} (f : α → β) {source : Source}
    {answer answer' : List ProviderCall → Except PyException α}
    {entry : Except PyException α → ProviderCall}
    (answers : ∀ log log', SameCalls log log' → (answer log).map f = (answer' log').map f)
    (entries : ∀ outcome outcome', Except.map f outcome = Except.map f outcome' →
      (entry outcome).anonymous = (entry outcome').anonymous) :
    Alike ProviderCall.anonymous (fun a a' => f a = f a') (ask source answer entry)
      (ask source answer' entry) := by
  apply alike_perform
  · intro log log' same
    exact (outcomesAlike_map_iff f).mpr (answers _ _ (SameCalls.filter same source))
  · intro outcome outcome' related
    exact entries outcome outcome' ((outcomesAlike_map_iff f).mp related)

theorem forall₂_eq_map_iff {α β : Type} {f : α → β} {xs ys : List α} :
    List.Forall₂ (fun x y => f x = f y) xs ys ↔ xs.map f = ys.map f := by
  rw [← List.forall₂_eq_eq_eq, List.forall₂_map_left_iff, List.forall₂_map_right_iff]

theorem alike_readReports {first second : StorageProvider} (alike : first.Alike second) :
    Alike ProviderCall.anonymous
      (fun reports reports' => reports.map SmartReport.anonymous =
        reports'.map SmartReport.anonymous)
      (readReports first) (readReports second) := by
  have devices : Alike ProviderCall.anonymous (fun a a' => id a = id a') first.listDevices
      second.listDevices := by
    apply alike_ask id
    · intro log log' same
      rw [alike.devices log log' same]
    · intro outcome outcome' same
      rw [Except.map_id, id, id] at same
      rw [same]
  have reports (deviceName : String) : Alike ProviderCall.anonymous
      (fun report report' => SmartReport.anonymous report = SmartReport.anonymous report')
      (first.readSmart deviceName) (second.readSmart deviceName) := by
    apply alike_ask SmartReport.anonymous
    · intro log log' same
      exact alike.smart log log' deviceName same
    · intro outcome outcome' same
      exact congrArg (ProviderCall.readSmart deviceName) same
  refine devices.bind fun listed listed' same => ?_
  obtain rfl : listed = listed' := same
  exact (alike_mapM (fun device => reports device.name) listed).mono fun _ _ related =>
    forall₂_eq_map_iff.mp related

theorem alike_gatherReports {first second : Option StorageProvider}
    (alike : Option.Rel StorageProvider.Alike first second) :
    Alike ProviderCall.anonymous
      (fun gathered gathered' =>
        gathered.1.map (List.map SmartReport.anonymous) =
          gathered'.1.map (List.map SmartReport.anonymous) ∧ gathered.2 = gathered'.2)
      (gatherReports true first) (gatherReports true second) := by
  cases alike with
  | none => exact alike_pure ⟨rfl, rfl⟩
  | some storage =>
    apply Alike.tryCatch
    · apply (alike_readReports storage).map
      intro reports reports' same
      exact ⟨congrArg some same, rfl⟩
    · -- why a block gives up is told by the exception, not by an answer
      rintro (error | ⟨className, detail⟩)
      · cases error <;> exact alike_pure ⟨rfl, rfl⟩
      · exact alike_throw _

/-- What a run hands to the checks, without identifiers. -/
def Inputs.anonymous (inputs : Inputs) : Inputs :=
  { inputs with reports := inputs.reports.map (List.map SmartReport.anonymous) }

/-- The checks look at no identifier. -/
theorem checkStorageHealth_anonymous (reports : Option (List SmartReport)) (skipCode : String) :
    checkStorageHealth (reports.map (List.map SmartReport.anonymous)) skipCode =
      checkStorageHealth reports skipCode := by
  match reports with
  | none => rfl
  | some [] => rfl
  | some (report :: reports) =>
    have scanned : ((report :: reports).map SmartReport.anonymous).foldl StorageScan.turn {} =
        (report :: reports).foldl StorageScan.turn {} := by
      rw [List.foldl_map]
      rfl
    rw [List.map_cons] at scanned
    simp only [Option.map_some, List.map_cons, checkStorageHealth, scanned, List.length_cons,
      List.length_map]

theorem Inputs.report_anonymous (inputs : Inputs) : inputs.anonymous.report = inputs.report := by
  have results : inputs.anonymous.results = inputs.results := by
    have storage := checkStorageHealth_anonymous inputs.reports inputs.storageSkip
    simp only [Inputs.results, Inputs.anonymous, storage]
  rw [Inputs.report, results]
  rfl

/-- The sources of the two machines: the same, but for what the drives say of themselves. -/
structure Sources.Alike (first second : Sources) : Prop where
  batteryWear : first.batteryWear = second.batteryWear
  storage : Option.Rel StorageProvider.Alike first.storage second.storage
  firmware : first.firmware = second.firmware
  thermal : first.thermal = second.thermal
  disk : first.disk = second.disk

theorem alike_gatherInputs {first second : Sources} (alike : first.Alike second) :
    Logged.Alike ProviderCall.anonymous
      (fun inputs inputs' => inputs.anonymous = inputs'.anonymous)
      (gatherInputs first true) (gatherInputs second true) := by
  rw [gatherInputs, gatherInputs, alike.batteryWear, alike.firmware, alike.thermal, alike.disk]
  refine ((block_gatherWears _).alike (by decide)).bind fun wears wears' sameWears => ?_
  refine (alike_gatherReports alike.storage).bind fun gathered gathered' sameReports => ?_
  refine ((block_gatherPending _).alike (by decide)).bind fun pending pending' samePending => ?_
  refine ((block_gatherTemps _).alike (by decide)).bind fun temps temps' sameTemps => ?_
  refine ((block_gatherUsages _).alike (by decide)).bind fun usages usages' sameUsages => ?_
  apply alike_pure
  rw [Inputs.anonymous, Inputs.anonymous, sameWears, sameReports.1, sameReports.2, samePending,
    sameTemps, sameUsages]

/-- Runs on such machines come to the same report. -/
theorem alike_run {first second : Sources} (alike : first.Alike second) :
    Logged.Alike ProviderCall.anonymous (· = ·) (run first true) (run second true) := by
  apply (alike_gatherInputs alike).map
  intro inputs inputs' same
  rw [← inputs.report_anonymous, same, inputs'.report_anonymous]

end Core

namespace Pages

open Lapcare.Core Semantics Semantics.Logged

/-! ### Exporting -/

/-- Answers that are equal without identifiers make for answers that are. -/
def SystemIdentityProvider.Alike (first second : SystemIdentityProvider) : Prop :=
  ∀ answers answers', answers.map (Except.map SystemIdentity.anonymous) =
      answers'.map (Except.map SystemIdentity.anonymous) →
    (first.identity answers).map SystemIdentity.anonymous =
      (second.identity answers').map SystemIdentity.anonymous

def OsInfoProvider.Alike (first second : OsInfoProvider) : Prop :=
  ∀ answers answers', answers.map (Except.map OsInfo.anonymous) =
      answers'.map (Except.map OsInfo.anonymous) →
    (first.os answers).map OsInfo.anonymous = (second.os answers').map OsInfo.anonymous

/-- The machines differ in serial numbers and hostnames only. -/
structure Machine.Alike (first second : Machine) : Prop where
  sources : first.sources.Alike second.sources
  identity : Option.Rel SystemIdentityProvider.Alike first.identity second.identity
  osInfo : Option.Rel OsInfoProvider.Alike first.osInfo second.osInfo
  writer : first.writer = second.writer

/-- The page shows and writes the same, and the answers it was given differ in identifiers
only. -/
structure Session.Alike (session session' : Session) : Prop where
  model : session.model = session'.model
  calls : SameCalls session.calls session'.calls
  identities : session.identities.map (Except.map SystemIdentity.anonymous) =
    session'.identities.map (Except.map SystemIdentity.anonymous)
  osInfos : session.osInfos.map (Except.map OsInfo.anonymous) =
    session'.osInfos.map (Except.map OsInfo.anonymous)
  documents : session.documents = session'.documents

theorem suppress_map {α β : Type} (f : α → β) (outcome : Except PyException α) :
    suppress (outcome.map f) = (suppress outcome).map (Option.map f) := by
  cases outcome with
  | ok a => rfl
  | error e => cases e <;> rfl

theorem systemDocument_anonymous (identity : Option SystemIdentity) (osInfo : Option OsInfo) :
    systemDocument (identity.map SystemIdentity.anonymous) (osInfo.map OsInfo.anonymous) =
      systemDocument identity osInfo := by
  cases identity <;> cases osInfo <;> rfl

theorem systemRows_anonymous (identity : Option SystemIdentity) (osInfo : Option OsInfo) :
    systemRows (identity.map SystemIdentity.anonymous) (osInfo.map OsInfo.anonymous) =
      systemRows identity osInfo := by
  cases identity <;> cases osInfo <;> rfl

def anonymousContext (context : ExportContext) : ExportContext :=
  { context with
    identity := context.identity.map SystemIdentity.anonymous
    osInfo := context.osInfo.map OsInfo.anonymous }

/-- No format has a place for an identifier. -/
theorem content_anonymous (model : DiagnosticsViewModel) (report : DiagnosticsReport)
    (context : ExportContext) (path : String) :
    model.content report (anonymousContext context) path = model.content report context path := by
  have json : toJson (anonymousContext context) report = toJson context report := by
    have system := systemDocument_anonymous context.identity context.osInfo
    simp only [toJson, reportDocument, anonymousContext, system]
  have rows : model.rendered (anonymousContext context) = model.rendered context := by
    have system := systemRows_anonymous context.identity context.osInfo
    simp only [DiagnosticsViewModel.rendered, anonymousContext, system]
  rw [DiagnosticsViewModel.content, DiagnosticsViewModel.content, json, rows]

section Sessions

variable {session session' : Session} (alike : session.Alike session')

include alike

theorem Session.Alike.readIdentity {provider provider' : Option SystemIdentityProvider}
    (providers : Option.Rel SystemIdentityProvider.Alike provider provider') :
    (session.readIdentity provider).1.map (Option.map SystemIdentity.anonymous) =
        (session'.readIdentity provider').1.map (Option.map SystemIdentity.anonymous) ∧
      (session.readIdentity provider).2.Alike (session'.readIdentity provider').2 := by
  cases providers with
  | none => exact ⟨rfl, alike⟩
  | some answers =>
    have same := answers _ _ alike.identities
    constructor
    · change (suppress _).map _ = (suppress _).map _
      rw [← suppress_map, ← suppress_map, same]
    · refine { alike with identities := ?_ }
      change (_ ++ [_]).map _ = (_ ++ [_]).map _
      simp only [List.map_append, List.map_cons, List.map_nil, alike.identities, same]

theorem Session.Alike.readOs {provider provider' : Option OsInfoProvider}
    (providers : Option.Rel OsInfoProvider.Alike provider provider') :
    (session.readOs provider).1.map (Option.map OsInfo.anonymous) =
        (session'.readOs provider').1.map (Option.map OsInfo.anonymous) ∧
      (session.readOs provider).2.Alike (session'.readOs provider').2 := by
  cases providers with
  | none => exact ⟨rfl, alike⟩
  | some answers =>
    have same := answers _ _ alike.osInfos
    constructor
    · change (suppress _).map _ = (suppress _).map _
      rw [← suppress_map, ← suppress_map, same]
    · refine { alike with osInfos := ?_ }
      change (_ ++ [_]).map _ = (_ ++ [_]).map _
      simp only [List.map_append, List.map_cons, List.map_nil, alike.osInfos, same]

theorem Session.Alike.renderAndWrite {first second : Machine} (machines : first.Alike second)
    (writer : ReportWriter) (report : DiagnosticsReport) (path generated : String) :
    (session.renderAndWrite first writer report path generated).1 =
        (session'.renderAndWrite second writer report path generated).1 ∧
      (session.renderAndWrite first writer report path generated).2.Alike
        (session'.renderAndWrite second writer report path generated).2 := by
  obtain ⟨identities, alike⟩ := alike.readIdentity machines.identity
  rw [Session.renderAndWrite, Session.renderAndWrite]
  rcases read : session.readIdentity first.identity with ⟨e | identity, session⟩ <;>
    rcases read' : session'.readIdentity second.identity with ⟨e' | identity', session'⟩ <;>
    rw [read, read'] at identities alike
  · exact ⟨congrArg Except.error (Except.error.inj identities), alike⟩
  · cases identities
  · cases identities
  -- both came to an identity, or to none
  replace identities := Except.ok.inj identities
  obtain ⟨osInfos, alike⟩ := Session.Alike.readOs alike machines.osInfo
  dsimp only at osInfos alike ⊢
  rcases readOs : session.readOs first.osInfo with ⟨e | osInfo, session⟩ <;>
    rcases readOs' : session'.readOs second.osInfo with ⟨e' | osInfo', session'⟩ <;>
    rw [readOs, readOs'] at osInfos alike
  · exact ⟨congrArg Except.error (Except.error.inj osInfos), alike⟩
  · cases osInfos
  · cases osInfos
  replace osInfos := Except.ok.inj osInfos
  have same : session.model.content report ⟨generated, appVersion, identity, osInfo⟩ path =
      session'.model.content report ⟨generated, appVersion, identity', osInfo'⟩ path := by
    rw [← content_anonymous session.model, ← content_anonymous session'.model, alike.model]
    simp only [anonymousContext, identities, osInfos]
  refine ⟨congrArg (writer.write path) same, { alike with documents := ?_ }⟩
  change session.documents ++ [_] = session'.documents ++ [_]
  rw [alike.documents, same]

theorem Session.Alike.step {first second : Machine} (machines : first.Alike second)
    (action : PageAction) : (session.step first action).Alike (session'.step second action) := by
  cases action with
  | load =>
    refine { alike with model := ?_ }
    exact congrArg DiagnosticsViewModel.load alike.model
  | run =>
    obtain ⟨outcomes, calls⟩ := alike_run machines.sources session.calls session'.calls alike.calls
    refine { alike with model := ?_, calls := calls }
    change session.model.runEnded _ = session'.model.runEnded _
    rw [alike.model, outcomesAlike_eq_iff.mp outcomes]
  | export_ path generated =>
    rw [Session.step, Session.step, Session.export_, Session.export_, machines.writer, alike.model]
    cases second.writer with
    | none => exact alike
    | some writer =>
      cases session'.model.lastReport with
      | none => exact alike
      | some report =>
        obtain ⟨outcomes, later⟩ :=
          alike.renderAndWrite machines writer report path generated
        refine { later with model := ?_ }
        change DiagnosticsViewModel.exportEnded _ _ = DiagnosticsViewModel.exportEnded _ _
        rw [later.model, outcomes]

end Sessions

/-- Sessions of the same actions on such machines never look different. By induction on the
actions. -/
theorem alike_session {first second : Machine} (machines : first.Alike second)
    (actions : List PageAction) : (session first actions).Alike (session second actions) := by
  induction actions using List.reverseRecOn with
  | nil => exact ⟨rfl, rfl, rfl, rfl, rfl⟩
  | append_singleton actions action ih =>
    rw [session, session, List.foldl_append, List.foldl_append]
    exact ih.step machines action

/-- Machines that differ in serial numbers and hostnames only write the same documents in
every session. -/
theorem exports_independent {first second : Machine} (machines : first.Alike second)
    (actions : List PageAction) :
    (session first actions).documents = (session second actions).documents :=
  (alike_session machines actions).documents

/-- A machine with one healthy drive. -/
def thinkpad (serial hostname : String) : Machine where
  sources :=
    { storage := some
        { devices := fun _ => .ok [{ name := "nvme0n1" }]
          smart := fun _ deviceName =>
            .ok { deviceName, passed := some true, serialNumber := some serial } } }
  identity := some ⟨fun _ => .ok { vendor := some "LENOVO", serial := some serial }⟩
  osInfo := some ⟨fun _ => .ok { kernel := some "6.8.0", hostname := some hostname }⟩
  writer := some ⟨fun _ _ => .ok ()⟩

/-- Two machines of one kind export the same three documents. -/
theorem exports_of_two_thinkpads :
    let actions : List PageAction := [.run, .export_ "report.json" "2026-07-01 12:00 UTC",
      .export_ "report.html" "2026-07-01 12:00 UTC", .export_ "report.md" "2026-07-01 12:00 UTC"]
    (session (thinkpad "PF0001" "alice-laptop") actions).documents =
        (session (thinkpad "PF0002" "bob-laptop") actions).documents ∧
      (session (thinkpad "PF0001" "alice-laptop") actions).documents.length = 3 := by
  have storage : StorageProvider.Alike
      { devices := fun _ => .ok [{ name := "nvme0n1" }]
        smart := fun _ deviceName =>
          .ok { deviceName, passed := some true, serialNumber := some "PF0001" } }
      { devices := fun _ => .ok [{ name := "nvme0n1" }]
        smart := fun _ deviceName =>
          .ok { deviceName, passed := some true, serialNumber := some "PF0002" } } :=
    ⟨fun _ _ _ => rfl, fun _ _ _ _ => rfl⟩
  have machines : Machine.Alike (thinkpad "PF0001" "alice-laptop")
      (thinkpad "PF0002" "bob-laptop") :=
    { sources := ⟨rfl, .some storage, rfl, rfl, rfl⟩
      identity := .some fun _ _ _ => rfl
      osInfo := .some fun _ _ _ => rfl
      writer := rfl }
  exact ⟨exports_independent machines _, rfl⟩

end Pages

end Lapcare
