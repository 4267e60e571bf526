import Lapcare.Core.Diagnostics
import Lapcare.Json.RoundTrip

/-!
# The machine-readable report

`core/report.py`: the JSON export of a diagnostics report, and what a reader of the text
finds for each check.

## Main results

* `exportedChecks_toJson` — what is read back, for every report
* `keepsEvidence_iff` — the reports that are read back with all of their evidence
-/

namespace Lapcare.Core

open Json

/-- `SCHEMA_VERSION`. -/
def schemaVersion : Int := 1

/-- `str | None` as JSON. -/
def optionalText : Option String → Value
  | none => .null
  | some text => .str text

def systemDocument (identity : Option SystemIdentity) (osInfo : Option OsInfo) : Value :=
  let identityMembers :=
    match identity with
    | none => []
    | some identity =>
        -- no serial: redaction by construction
        [("model", optionalText identity.productFamily),
          ("machine_type", optionalText identity.productName),
          ("vendor", optionalText identity.vendor),
          ("bios_version", optionalText identity.biosVersion)]
  let osMembers :=
    match osInfo with
    | none => []
    | some osInfo =>
        [("os", optionalText osInfo.distroName), ("kernel", optionalText osInfo.kernel)]
  .obj (identityMembers ++ osMembers)

def metricsDocument (metrics : List (String × String)) : Value :=
  .obj ((dict metrics).map fun metric => (metric.1, .str metric.2))

def checkDocument (result : DiagnosticResult) : Value :=
  .obj [("id", .str result.checkId),
    ("status", .str result.status.value),
    ("confidence", .str result.confidence.value),
    ("skip_code", if result.skipCode = "" then .null else .str result.skipCode),
    ("metrics", metricsDocument result.metrics)]

def diagnosticsDocument (diagnostics : DiagnosticsReport) : Value :=
  .obj [("score", match diagnostics.score with
      | none => .null
      | some score => .int score),
    ("measured", .int diagnostics.measured),
    ("total", .int diagnostics.total),
    ("checks", .arr (diagnostics.results.map checkDocument))]

/-- What an export is made of, the diagnostics apart. -/
structure ExportContext where
  generated : String
  appVersion : String
  identity : Option SystemIdentity
  osInfo : Option OsInfo

def reportDocument (context : ExportContext) (diagnostics : DiagnosticsReport) : Value :=
  .obj [("lapcare_report", .int schemaVersion),
    ("generated", .str context.generated),
    ("app_version", .str context.appVersion),
    ("redacted", .bool true),
    ("system", systemDocument context.identity context.osInfo),
    ("diagnostics", diagnosticsDocument diagnostics)]

def toJson (context : ExportContext) (diagnostics : DiagnosticsReport) : String :=
  String.ofList (dumps (reportDocument context diagnostics) ++ ['\n'])

/-! ### Reading a report -/

/-- `value[key]`. -/
def member? (key : String) : Value → Option Value
  | .obj members => members.lookup key
  | _ => none

def asText : Value → Option String
  | .str text => some text
  | _ => none

/-- A text that may be `null`, which is read as the empty one. -/
def asTextOrEmpty : Value → Option String
  | .null => some ""
  | value => asText value

def asItems : Value → Option (List Value)
  | .arr items => some items
  | _ => none

def asMembers : Value → Option (List (String × Value))
  | .obj members => some members
  | _ => none

/-- One check as an export shows it. -/
structure ExportedCheck where
  id : String
  status : String
  confidence : String
  skipCode : String
  metrics : List (String × String)
  deriving DecidableEq

def readMetric (pair : String × Value) : Option (String × String) :=
  (asText pair.2).map fun value => (pair.1, value)

def readCheck (check : Value) : Option ExportedCheck := do
  let id ← member? "id" check >>= asText
  let status ← member? "status" check >>= asText
  let confidence ← member? "confidence" check >>= asText
  let skipCode ← member? "skip_code" check >>= asTextOrEmpty
  let members ← member? "metrics" check >>= asMembers
  let metrics ← members.mapM readMetric
  return { id, status, confidence, skipCode, metrics }

/-- The checks of an exported report, from its text. -/
def exportedChecks (text : String) : Option (List ExportedCheck) := do
  let document ← loads text.toList
  let diagnostics ← member? "diagnostics" document
  let checks ← member? "checks" diagnostics >>= asItems
  checks.mapM readCheck

/-! ### What comes back -/

/-- What is left of a result in an export. -/
def exported (result : DiagnosticResult) : ExportedCheck where
  id := result.checkId
  status := result.status.value
  confidence := result.confidence.value
  skipCode := result.skipCode
  metrics := dict result.metrics

theorem unique_optionalText (text : Option String) : (optionalText text).Unique := by
  cases text with
  | none => exact .null
  | some text => exact .str text

theorem unique_systemDocument (identity : Option SystemIdentity) (osInfo : Option OsInfo) :
    (systemDocument identity osInfo).Unique := by
  have texts := unique_optionalText
  cases identity <;> cases osInfo <;> refine .obj (by simp) ?_ <;> simp [texts]

theorem unique_metricsDocument (metrics : List (String × String)) :
    (metricsDocument metrics).Unique := by
  apply Value.Unique.obj
  · rw [List.map_map]
    exact dict_keys_nodup metrics
  · intro member among
    obtain ⟨metric, -, rfl⟩ := List.mem_map.mp among
    exact .str metric.2

theorem unique_checkDocument (result : DiagnosticResult) : (checkDocument result).Unique := by
  have metrics := unique_metricsDocument result.metrics
  have skipCode :
      Value.Unique (if result.skipCode = "" then .null else .str result.skipCode) := by
    split_ifs
    · exact .null
    · exact .str _
  refine .obj (by simp) ?_
  simp only [List.mem_cons, List.not_mem_nil, or_false, forall_eq_or_imp, forall_eq]
  exact ⟨.str _, .str _, .str _, skipCode, metrics⟩

theorem unique_reportDocument (context : ExportContext) (diagnostics : DiagnosticsReport) :
    (reportDocument context diagnostics).Unique := by
  have score : Value.Unique (match diagnostics.score with
      | none => .null
      | some score => .int score) := by
    cases diagnostics.score with
    | none => exact .null
    | some score => exact .int score
  have checks : Value.Unique (.arr (diagnostics.results.map checkDocument)) := by
    apply Value.Unique.arr
    intro item among
    obtain ⟨result, -, rfl⟩ := List.mem_map.mp among
    exact unique_checkDocument result
  -- the keys of each object are distinct, which leaves its values
  have body : (diagnosticsDocument diagnostics).Unique := by
    refine .obj (by simp) ?_
    simp only [List.mem_cons, List.not_mem_nil, or_false, forall_eq_or_imp, forall_eq]
    exact ⟨score, .int _, .int _, checks⟩
  refine .obj (by simp) ?_
  simp only [List.mem_cons, List.not_mem_nil, or_false, forall_eq_or_imp, forall_eq]
  exact ⟨.int _, .str _, .str _, .bool true, unique_systemDocument _ _, body⟩

theorem mapM_readMetric (metrics : List (String × String)) :
    (metrics.map fun metric => (metric.1, (.str metric.2 : Value))).mapM readMetric =
      some metrics := by
  induction metrics with
  | nil => rfl
  | cons metric metrics ih =>
    rw [List.map_cons, List.mapM_cons, ih]
    rfl

theorem readCheck_checkDocument (result : DiagnosticResult) :
    readCheck (checkDocument result) = some (exported result) := by
  have metrics := mapM_readMetric (dict result.metrics)
  have skipCode : asTextOrEmpty
      (if result.skipCode = "" then .null else .str result.skipCode) = some result.skipCode := by
    split_ifs with empty
    · rw [empty]
      rfl
    · rfl
  simp only [readCheck, checkDocument, member?, List.lookup_cons, metricsDocument]
  simp [asText, asMembers, skipCode, metrics, exported]

theorem mapM_readCheck (results : List DiagnosticResult) :
    (results.map checkDocument).mapM readCheck = some (results.map exported) := by
  induction results with
  | nil => rfl
  | cons result results ih =>
    rw [List.map_cons, List.mapM_cons, readCheck_checkDocument, ih]
    rfl

/-- Everything comes back but the pairs whose key comes again later. -/
theorem exportedChecks_toJson (context : ExportContext) (diagnostics : DiagnosticsReport) :
    exportedChecks (toJson context diagnostics) = some (diagnostics.results.map exported) := by
  have blank : ∀ c ∈ ['\n'], isBlank c = true := by simp [isBlank]
  have loaded := loads_dumps (unique_reportDocument context diagnostics) blank
  rw [exportedChecks, toJson, String.toList_ofList, loaded]
  exact mapM_readCheck diagnostics.results

/-! ### Evidence -/

/-- What is read back for a check is its result, evidence and all. -/
structure ExportedCheck.Shows (check : ExportedCheck) (result : DiagnosticResult) : Prop where
  id : check.id = result.checkId
  status : check.status = result.status.value
  confidence : check.confidence = result.confidence.value
  skipCode : check.skipCode = result.skipCode
  metrics : check.metrics.Perm result.metrics

/-- Every check of a report can be read off a text. -/
def KeepsEvidence (text : String) (diagnostics : DiagnosticsReport) : Prop :=
  ∃ checks, exportedChecks text = some checks ∧
    List.Forall₂ ExportedCheck.Shows checks diagnostics.results

theorem exists_shows {checks : List ExportedCheck} {results : List DiagnosticResult}
    (shown : List.Forall₂ ExportedCheck.Shows checks results) {result : DiagnosticResult}
    (ran : result ∈ results) : ∃ check ∈ checks, check.Shows result := by
  induction shown with
  | nil => cases ran
  | cons head _ ih =>
    rcases List.mem_cons.mp ran with rfl | later
    · exact ⟨_, List.mem_cons_self, head⟩
    · obtain ⟨check, other, shows_⟩ := ih later
      exact ⟨check, List.mem_cons_of_mem _ other, shows_⟩

theorem shows_exported_iff (result : DiagnosticResult) :
    (exported result).Shows result ↔ (result.metrics.map (·.1)).Nodup := by
  rw [← dict_perm_iff]
  exact ⟨(·.metrics), fun kept => ⟨rfl, rfl, rfl, rfl, kept⟩⟩

/-- A report keeps its evidence exactly when no check records a key twice. -/
theorem keepsEvidence_iff (context : ExportContext) (diagnostics : DiagnosticsReport) :
    KeepsEvidence (toJson context diagnostics) diagnostics ↔
      ∀ result ∈ diagnostics.results, (result.metrics.map (·.1)).Nodup := by
  rw [KeepsEvidence, exportedChecks_toJson]
  simp only [Option.some.injEq, exists_eq_left', List.forall₂_map_left_iff, List.forall₂_same,
    shows_exported_iff]

/-- Results with the same verdict and the same evidence, in whatever order. -/
structure DiagnosticResult.SameEvidence (first second : DiagnosticResult) : Prop where
  checkId : first.checkId = second.checkId
  status : first.status = second.status
  confidence : first.confidence = second.confidence
  skipCode : first.skipCode = second.skipCode
  metrics : first.metrics.Perm second.metrics

theorem ExportedCheck.Shows.sameEvidence {check : ExportedCheck} {first second : DiagnosticResult}
    (shows_ : check.Shows first) (shows' : check.Shows second) : first.SameEvidence second where
  checkId := shows_.id.symm.trans shows'.id
  status := CheckStatus.value_injective (shows_.status.symm.trans shows'.status)
  confidence := Confidence.value_injective (shows_.confidence.symm.trans shows'.confidence)
  skipCode := shows_.skipCode.symm.trans shows'.skipCode
  metrics := shows_.metrics.symm.trans shows'.metrics

/-- One text keeps the evidence of one report only. -/
theorem KeepsEvidence.unique {text : String} {first second : DiagnosticsReport}
    (keeps : KeepsEvidence text first) (keeps' : KeepsEvidence text second) :
    List.Forall₂ DiagnosticResult.SameEvidence first.results second.results := by
  obtain ⟨checks, read, shown⟩ := keeps
  obtain ⟨checks', read', shown'⟩ := keeps'
  rw [read] at read'
  obtain rfl := Option.some.inj read'
  clear read read'
  generalize first.results = results at shown
  generalize second.results = results' at shown'
  -- both lists of results fit one list of checks
  induction shown generalizing results' with
  | nil =>
    cases shown'
    exact .nil
  | cons head _ ih =>
    cases shown' with
    | cons head' tail' => exact .cons (head.sameEvidence head') (ih _ tail')

end Lapcare.Core
