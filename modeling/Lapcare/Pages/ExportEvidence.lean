import Lapcare.Core.Evidence
import Lapcare.Pages.Agreement
import Lapcare.Pages.ReportRender

/-!
# Evidence in the JSON export

The cards of a run, from which the Markdown and HTML exports are made, show every pair
that a check recorded. The JSON export shows the pairs of a dict.

## Main results

* `json_export_keeps_evidence` — the runs whose JSON export loses nothing
-/

namespace Lapcare.Pages

open Lapcare.Core Semantics Semantics.Logged

/-- The labels of a failing device and of a critically full filesystem. -/
def criticalLabels : List String :=
  [lookupOr metricLabels "failing_device" "", lookupOr metricLabels "critical_mount" ""]

/-- Every device and filesystem that the cards name as failing or critically full is named
by the exported check too. -/
def NamesCritical (text : String) (diagnostics : DiagnosticsReport) : Prop :=
  ∃ checks, exportedChecks text = some checks ∧
    ∀ card ∈ resultCards diagnostics, ∀ row ∈ card.evidence, row.1 ∈ criticalLabels →
      ∃ check ∈ checks, check.id = card.checkId ∧ row ∈ check.metrics.map evidenceRow

/-- The JSON export of a report loses nothing. -/
structure LosesNothing (context : ExportContext) (diagnostics : DiagnosticsReport) : Prop where
  evidence : KeepsEvidence (toJson context diagnostics) diagnostics
  names : NamesCritical (toJson context diagnostics) diagnostics

/-- At most one drive that was read is failing, and at most one filesystem is critically
full. -/
def SingleEvidence (sources : Sources) (includeStorageHealth : Bool) : Prop :=
  ∃ inputs, inputsAlone sources includeStorageHealth = .ok inputs ∧
    inputs.failingDrives ≤ 1 ∧ inputs.criticalFilesystems ≤ 1

theorem namesCritical_of_keepsEvidence {text : String} {diagnostics : DiagnosticsReport}
    (keeps : KeepsEvidence text diagnostics) : NamesCritical text diagnostics := by
  obtain ⟨checks, read, shown⟩ := keeps
  refine ⟨checks, read, ?_⟩
  intro card among row member _
  obtain ⟨result, ran, rfl⟩ := List.mem_map.mp among
  obtain ⟨metric, recorded, rfl⟩ := List.mem_map.mp member
  obtain ⟨check, other, shows_⟩ := exists_shows shown ran
  exact ⟨check, other, shows_.id, List.mem_map_of_mem (shows_.metrics.mem_iff.mpr recorded)⟩

section Runs

variable {sources sources' : Sources} {includeStorageHealth includeStorageHealth' : Bool}
  {diagnostics diagnostics' : DiagnosticsReport}

/-- A run has evidence under one key twice exactly where its sources do. -/
theorem keepsEvidence_run_iff (context : ExportContext)
    (done : runOutcome sources includeStorageHealth = .ok diagnostics) :
    KeepsEvidence (toJson context diagnostics) diagnostics ↔
      SingleEvidence sources includeStorageHealth := by
  obtain ⟨inputs, gathered, rfl⟩ := runOutcome_eq_ok_iff.mp done
  rw [keepsEvidence_iff, SingleEvidence, gathered]
  simp only [Except.ok.injEq, exists_eq_left']
  exact inputs.nodup_iff

/-- The JSON export loses nothing exactly where at most one drive is failing and at most
one filesystem is critically full. Two such runs with the same export have the same
evidence. -/
theorem json_export_keeps_evidence (context context' : ExportContext)
    (done : runOutcome sources includeStorageHealth = .ok diagnostics)
    (done' : runOutcome sources' includeStorageHealth' = .ok diagnostics') :
    (LosesNothing context diagnostics ↔ SingleEvidence sources includeStorageHealth) ∧
      (SingleEvidence sources includeStorageHealth →
        SingleEvidence sources' includeStorageHealth' →
        toJson context diagnostics = toJson context' diagnostics' →
        List.Forall₂ DiagnosticResult.SameEvidence diagnostics.results diagnostics'.results) := by
  have keeps := keepsEvidence_run_iff context done
  have keeps' := keepsEvidence_run_iff context' done'
  refine ⟨⟨fun lossless => keeps.mp lossless.evidence, fun single => ?_⟩, ?_⟩
  · have kept := keeps.mpr single
    exact ⟨kept, namesCritical_of_keepsEvidence kept⟩
  · intro single single' same
    have kept := keeps.mpr single
    rw [same] at kept
    exact kept.unique (keeps'.mpr single')

end Runs

/-! ### Two failing drives -/

/-- Two drives that can be read, of which those in `failing` are failing. -/
def twoDrives (failing : List String) : Sources :=
  { storage := some (drives [{ name := "sda" }, { name := "sdb" }] fun name =>
      .report { deviceName := name, passed := some (name ∉ failing) }) }

/-- The report of a run that has read failing drives and nothing else. -/
def failingReport (metrics : List (String × String)) : DiagnosticsReport where
  results :=
    [skippedResult "battery-wear" "unavailable",
      { checkId := "storage-health", status := .critical, confidence := .high, metrics },
      skippedResult "firmware-currency" "unavailable",
      skippedResult "thermal" "unavailable",
      skippedResult "disk-space" "unavailable"]
  score := some 0
  measured := 1
  total := 5

def bothFailing : DiagnosticsReport :=
  failingReport [("failing_device", "sda"), ("failing_device", "sdb"), ("devices", "2")]

def secondFailing : DiagnosticsReport :=
  failingReport [("failing_device", "sdb"), ("devices", "2")]

theorem runOutcome_bothFailing :
    runOutcome (twoDrives ["sda", "sdb"]) true = .ok bothFailing := by
  rw [runOutcome_eq_ok_iff]
  refine ⟨_, rfl, ?_⟩
  decide +kernel

theorem runOutcome_secondFailing :
    runOutcome (twoDrives ["sdb"]) true = .ok secondFailing := by
  rw [runOutcome_eq_ok_iff]
  refine ⟨_, rfl, ?_⟩
  decide +kernel

def bareContext : ExportContext where
  generated := "2026-07-10 00:00 UTC"
  appVersion := "0.5.0"
  identity := none
  osInfo := none

/-- The export of two failing drives names the second one only, and is the export of a run
in which the first is fine. -/
theorem json_export_loses_evidence :
    runOutcome (twoDrives ["sda", "sdb"]) true = .ok bothFailing ∧
      runOutcome (twoDrives ["sdb"]) true = .ok secondFailing ∧
      ¬ KeepsEvidence (toJson bareContext bothFailing) bothFailing ∧
      ¬ NamesCritical (toJson bareContext bothFailing) bothFailing ∧
      toJson bareContext bothFailing = toJson bareContext secondFailing ∧
      ¬ List.Forall₂ DiagnosticResult.SameEvidence bothFailing.results secondFailing.results := by
  refine ⟨runOutcome_bothFailing, runOutcome_secondFailing, ?_, ?_, rfl, ?_⟩
  · rw [keepsEvidence_iff]
    decide
  · rintro ⟨checks, read, named⟩
    rw [exportedChecks_toJson] at read
    obtain rfl := Option.some.inj read
    revert named
    decide
  · intro same
    cases same with
    | cons _ rest =>
      cases rest with
      | cons storage _ =>
        have lengths := storage.metrics.length_eq
        exact absurd lengths (by decide)

theorem json_export_keeps_single_drive :
    LosesNothing bareContext secondFailing ∧
      List.Forall₂ DiagnosticResult.SameEvidence secondFailing.results secondFailing.results := by
  have single : SingleEvidence (twoDrives ["sdb"]) true := ⟨_, rfl, by decide, by decide⟩
  obtain ⟨lossless, same⟩ := json_export_keeps_evidence bareContext bareContext
    runOutcome_secondFailing runOutcome_secondFailing
  exact ⟨lossless.mpr single, same single single rfl⟩

end Lapcare.Pages
