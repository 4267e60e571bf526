import Lapcare.Core.Degradation
import Lapcare.Core.DiskSpace
import Lapcare.Core.Score
import Lapcare.Json.Printed
import Lapcare.Pages.Export
import Lapcare.Pages.RenderedTexts

/-!
# Where an identifier can stand in an export

The texts of a machine that the three formats of an export show: what the user's system is
called, and the evidence of the checks. Labels, titles and numbers of an export have no long
word of hexadecimal digits and dashes.

## Main results

* `shows_rendered_iff` — what the Markdown and the HTML export show after a run
* `infix_toJson_iff` — what the JSON export shows, as JSON escapes it
-/

namespace Lapcare.Pages

open Lapcare.Core Json Text

/-! ### What the checks record -/

theorem checkBatteryWear_skipCode (wears : Option (List BatteryWear)) :
    (checkBatteryWear wears).skipCode ∈ ["", "unavailable", "no-data"] := by
  unfold checkBatteryWear
  split
  · decide
  · decide
  · split
    · decide
    · exact List.mem_cons_self

theorem checkStorageHealth_skipCode {reports : Option (List SmartReport)} (skipCode : String)
    (read : reports ≠ none) :
    (checkStorageHealth reports skipCode).skipCode ∈ ["", "unavailable", "no-data"] := by
  unfold checkStorageHealth
  split
  · exact absurd rfl read
  · decide
  · exact List.mem_cons_self

theorem checkFirmwareCurrency_skipCode (pending : Option (List FirmwareRelease)) :
    (checkFirmwareCurrency pending).skipCode ∈ ["", "unavailable", "no-data"] := by
  unfold checkFirmwareCurrency
  split
  · decide
  · decide
  · exact List.mem_cons_self

theorem checkThermal_skipCode (temps : Option (List TemperatureReading)) :
    (checkThermal temps).skipCode ∈ ["", "unavailable", "no-data"] := by
  unfold checkThermal
  split
  · decide
  · split
    · decide
    · exact List.mem_cons_self

theorem checkDiskSpace_skipCode (usages : Option (List DiskUsage)) :
    (checkDiskSpace usages).skipCode ∈ ["", "unavailable", "no-data"] := by
  unfold checkDiskSpace checkDiskSpaceBy
  split
  · decide
  · decide
  · dsimp only
    split
    · decide
    · exact List.mem_cons_self

/-- Every key of the evidence has a label. -/
def Labelled (metrics : List (String × String)) : Prop :=
  ∀ metric ∈ metrics, metric.1 ∈ metricLabels.map (·.1)

theorem labelled_nil : Labelled [] :=
  fun _ member => nomatch member

theorem Labelled.append {front rest : List (String × String)} (first : Labelled front)
    (second : Labelled rest) : Labelled (front ++ rest) :=
  List.forall_mem_append.2 ⟨first, second⟩

theorem labelled_checkBatteryWear (wears : Option (List BatteryWear)) :
    Labelled (checkBatteryWear wears).metrics := by
  unfold checkBatteryWear
  split
  · exact labelled_nil
  · exact labelled_nil
  · split
    · exact labelled_nil
    · simp [Labelled, metricLabels]

/-- A turn of the loop over the drives records labelled keys. -/
theorem labelled_turn {scan : StorageScan} (report : SmartReport)
    (keys : Labelled scan.metrics) : Labelled (scan.turn report).metrics := by
  -- each of the three steps of a turn adds keys that have a label, or none
  have verdict {scan : StorageScan} (keys : Labelled scan.metrics) :
      Labelled (scan.verdict report).metrics := by
    unfold StorageScan.verdict
    split
    · exact keys.append (by simp [Labelled, metricLabels])
    · exact keys
    · exact keys
  have pending {scan : StorageScan} (keys : Labelled scan.metrics) :
      Labelled (scan.pending report).metrics := by
    unfold StorageScan.pending
    split
    · split_ifs
      · exact keys.append (by simp [Labelled, metricLabels])
      · exact keys
    · exact keys
  have endurance {scan : StorageScan} (keys : Labelled scan.metrics) :
      Labelled (scan.endurance report).metrics := by
    unfold StorageScan.endurance
    split
    · split_ifs
      · exact keys.append (by simp [Labelled, metricLabels])
      · exact keys
    · exact keys
  exact endurance (pending (verdict keys))

theorem labelled_checkStorageHealth (reports : Option (List SmartReport)) (skipCode : String) :
    Labelled (checkStorageHealth reports skipCode).metrics := by
  have run (reports : List SmartReport) {scan : StorageScan} (keys : Labelled scan.metrics) :
      Labelled (reports.foldl StorageScan.turn scan).metrics := by
    induction reports generalizing scan with
    | nil => exact keys
    | cons report reports ih => exact ih (labelled_turn report keys)
  unfold checkStorageHealth
  split
  · exact labelled_nil
  · exact labelled_nil
  · exact (run _ labelled_nil).append (by simp [Labelled, metricLabels])

theorem labelled_checkFirmwareCurrency (pending : Option (List FirmwareRelease)) :
    Labelled (checkFirmwareCurrency pending).metrics := by
  unfold checkFirmwareCurrency
  split
  · exact labelled_nil
  · exact labelled_nil
  · simp [Labelled, metricLabels]

theorem labelled_checkThermal (temps : Option (List TemperatureReading)) :
    Labelled (checkThermal temps).metrics := by
  unfold checkThermal
  split
  · exact labelled_nil
  · split
    · exact labelled_nil
    · simp [Labelled, metricLabels]

theorem labelled_checkDiskSpace (usages : Option (List DiskUsage)) :
    Labelled (checkDiskSpace usages).metrics := by
  cases usages with
  | none => exact labelled_nil
  | some usages =>
    rw [checkDiskSpace, checkDiskSpaceBy_eq]
    rcases (usages.foldl (DiskScan.turn DiskUsage.freePct) {}).fullest with _ | ⟨share, mount⟩
    · exact labelled_nil
    · refine Labelled.append (fun metric member => ?_) (by simp [Labelled, metricLabels])
      have start : ∀ metric ∈ ({} : DiskScan).metrics,
          metric.1 = "critical_mount" ∨ metric.1 = "low_mount" :=
        fun _ member => absurd member List.not_mem_nil
      rcases DiskScan.metrics_keys _ usages start metric member with same | same <;>
        simp [same, metricLabels]

theorem labelled_of_mem_results {inputs : Inputs} {result : DiagnosticResult}
    (member : result ∈ inputs.results) : Labelled result.metrics := by
  simp only [Inputs.results, List.mem_cons, List.not_mem_nil, or_false] at member
  rcases member with rfl | rfl | rfl | rfl | rfl
  · exact labelled_checkBatteryWear _
  · exact labelled_checkStorageHealth _ _
  · exact labelled_checkFirmwareCurrency _
  · exact labelled_checkThermal _
  · exact labelled_checkDiskSpace _

theorem checkId_of_mem_results {inputs : Inputs} {result : DiagnosticResult}
    (member : result ∈ inputs.results) : result.checkId ∈ checkIds := by
  rw [← inputs.results_checkIds]
  exact List.mem_map_of_mem member

theorem report_measured (inputs : Inputs) :
    inputs.report.measured < 6 ∧ inputs.report.total = 5 := by
  obtain ⟨measured, total⟩ := score_measured_le inputs.results
  exact ⟨Nat.lt_succ_of_le measured, total⟩

theorem report_score {inputs : Inputs} {value : Int} (scored : inputs.report.score = some value) :
    ∃ n ∈ List.range 101, value = (n : ℕ) := by
  have percentage : (score inputs.results).1 = some value := scored
  obtain ⟨least, most⟩ := score_bounds percentage
  exact ⟨value.toNat, List.mem_range.2 (by omega), (Int.toNat_of_nonneg least).symm⟩

/-! ### System rows -/

/-- The texts that an export shows of the system. -/
def systemTexts (context : ExportContext) : List String :=
  (context.identity.elim [] fun identity =>
      [identity.productFamily, identity.productName, identity.vendor,
        identity.biosVersion].filterMap id) ++
    context.osInfo.elim [] fun osInfo => [osInfo.distroName, osInfo.kernel].filterMap id

theorem isIdLetter_bounds {c : Char} (letter : isIdLetter c = true) :
    0x2d ≤ c.toNat ∧ c.toNat ≤ 0x66 := by
  simp only [isIdLetter, Char.isDigit, Bool.or_eq_true, Bool.and_eq_true, decide_eq_true_eq,
    beq_iff_eq, Char.le_def, UInt32.le_iff_toNat_le, ge_iff_le] at letter
  rcases letter with ((digit | lower) | upper) | rfl
  · exact ⟨le_trans (by decide) digit.1, digit.2.trans (by decide)⟩
  · exact ⟨le_trans (by decide) lower.1, lower.2.trans (by decide)⟩
  · exact ⟨le_trans (by decide) upper.1, upper.2.trans (by decide)⟩
  · decide

theorem isIdLetter_of_isSpace {c : Char} (space : isSpace c = true) : isIdLetter c = false := by
  by_contra letter
  have bounds := isIdLetter_bounds (by simpa using letter)
  simp only [isSpace, Bool.or_eq_true, Bool.and_eq_true, decide_eq_true_eq, beq_iff_eq] at space
  omega

/-! ### Tables of texts -/

/-- A looked-up text is in the table, or one of the fallbacks. -/
theorem lookupOr_mem_append {fallbacks : List String} {table : List (String × String)}
    {fallback : String} (key : String) (among : fallback ∈ fallbacks) :
    lookupOr table key fallback ∈ fallbacks ++ table.map (·.2) := by
  rcases List.mem_cons.1 (lookupOr_mem table key fallback) with same | found
  · rw [same]
    exact List.mem_append_left _ among
  · exact List.mem_append_right _ found

theorem plain_titles :
    ∀ text ∈ checkIds ++ checkTitles.map (·.2), plainText text.toList = true := by
  simp only [checkIds, checkTitles, List.map_cons, List.map_nil, List.cons_append, List.nil_append,
    List.forall_mem_cons]
  refine ⟨?_, ?_, ?_, ?_, ?_, ?_, ?_, ?_, ?_, ?_, List.forall_mem_nil _⟩ <;>
    exact spelled rfl rfl

theorem plain_skips :
    ∀ text ∈ ("" :: skipText.map (·.2)) ++ skipText.map (·.2), plainText text.toList = true := by
  have table : ∀ text ∈ skipText.map (·.2), plainText text.toList = true := by
    simp only [skipText, List.map_cons, List.map_nil, List.forall_mem_cons]
    refine ⟨?_, ?_, ?_, ?_, List.forall_mem_nil _⟩ <;> exact spelled rfl rfl
  have blank : plainText "".toList = true := spelled rfl rfl
  exact List.forall_mem_append.2 ⟨List.forall_mem_cons.2 ⟨blank, table⟩, table⟩

theorem plain_labels :
    ∀ text ∈ metricLabels.map (·.1) ++ metricLabels.map (·.2), plainText text.toList = true := by
  simp only [metricLabels, List.map_cons, List.map_nil, List.cons_append, List.nil_append,
    List.forall_mem_cons]
  and_intros
  iterate 28 exact spelled rfl rfl
  exact List.forall_mem_nil _

/-- A key as JSON escapes it. -/
theorem escaped_spelled {text : String} {chars : List Char} (same : String.ofList chars = text)
    (plain : plainText (chars.flatMap escapeChar) = true) : plainText (escaped text) = true := by
  rw [escaped, ← same, String.toList_ofList]
  exact plain

theorem plain_keys : ∀ key ∈ metricLabels.map (·.1), plainText (escaped key) = true := by
  simp only [metricLabels, List.map_cons, List.map_nil, List.forall_mem_cons]
  and_intros
  iterate 14 exact escaped_spelled rfl rfl
  exact List.forall_mem_nil _

theorem plain_ids : ∀ checkId ∈ checkIds, plainText (escaped checkId) = true := by
  simp only [checkIds, List.forall_mem_cons]
  and_intros
  iterate 5 exact escaped_spelled rfl rfl
  exact List.forall_mem_nil _

section Page

variable {word : List Char} (idWord : IdWord word)

include idWord

theorem infix_stripped_iff (value : String) :
    word <:+: (stripped value).toList ↔ word <:+: value.toList := by
  rw [stripped, String.toList_ofList]
  exact (infix_rdropWhile_iff idWord.letters (fun _ => isIdLetter_of_isSpace) _).trans
    (infix_dropWhile_iff idWord.letters (fun _ => isIdLetter_of_isSpace) _)

/-- An empty value has no row, and nothing to show. -/
theorem exists_systemRow_iff {shown : String → String}
    (same : ∀ value, word <:+: (shown value).toList ↔ word <:+: value.toList)
    (rows : List (String × Option String))
    (plain : ∀ label ∈ rows.map (·.1), plainText label.toList = true) :
    (∃ row ∈ rows.filterMap (systemRow shown), RowShows word row) ↔
      ∃ text ∈ (rows.map (·.2)).filterMap id, word <:+: text.toList := by
  induction rows with
  | nil => simp
  | cons row rows ih =>
    obtain ⟨label, value⟩ := row
    rw [List.map_cons, List.forall_mem_cons] at plain
    have labelled := infix_plain_iff idWord label plain.1
    cases value with
    | none => exact ih plain.2
    | some value =>
      have found : (List.map (·.2) ((label, some value) :: rows)).filterMap id =
          value :: (rows.map (·.2)).filterMap id := List.filterMap_cons_some rfl
      rw [found, List.exists_mem_cons_iff, ← ih plain.2]
      by_cases empty : value = ""
      · have skipped : systemRow shown (label, some value) = none := if_pos empty
        rw [List.filterMap_cons_none skipped, empty, infix_plain_iff idWord "" (by decide),
          false_or]
      · have kept : systemRow shown (label, some value) = some (label, shown value) := if_neg empty
        rw [List.filterMap_cons_some kept, List.exists_mem_cons_iff, RowShows, labelled, same,
          false_or]

theorem exists_systemRows_iff (context : ExportContext) :
    (∃ row ∈ systemRows context.identity context.osInfo, RowShows word row) ↔
      ∃ text ∈ systemTexts context, word <:+: text.toList := by
  have identityLabels : ["Model", "Machine type", "Vendor", "BIOS / UEFI"].all
      (fun label => plainText label.toList) = true := by rfl
  have osLabels : ["Operating system", "Kernel"].all (fun label => plainText label.toList) = true :=
    by rfl
  have identity (identity : SystemIdentity) :=
    exists_systemRow_iff idWord (infix_stripped_iff idWord)
    [("Model", identity.productFamily), ("Machine type", identity.productName),
      ("Vendor", identity.vendor), ("BIOS / UEFI", identity.biosVersion)]
    (List.all_eq_true.1 identityLabels)
  have osInfo (osInfo : OsInfo) := exists_systemRow_iff idWord (fun _ => Iff.rfl)
    [("Operating system", osInfo.distroName), ("Kernel", osInfo.kernel)]
    (List.all_eq_true.1 osLabels)
  simp only [systemRows, systemTexts, List.mem_append, or_and_right, exists_or]
  apply or_congr
  · cases context.identity with
    | none => simp
    | some given => exact identity given
  · cases context.osInfo with
    | none => simp
    | some given => exact osInfo given

/-! ### Cards -/

theorem infix_metricValue_iff (key value : String) :
    word <:+: (metricValue key value).toList ↔ word <:+: value.toList := by
  have percent : isIdLetter '%' = false := by decide
  have blank : isIdLetter ' ' = false := by decide
  have short : ¬ word <:+: "°C".toList := idWord.not_infix_of_short (by decide)
  unfold metricValue
  split_ifs
  · rw [String.toList_append]
    exact infix_concat_other_iff idWord.letters percent _
  · rw [String.toList_append]
    exact (infix_append_cons_iff idWord.letters blank _ "°C".toList).trans (or_iff_left short)
  · rfl

theorem rowShows_evidenceRow_iff {metric : String × String}
    (known : metric.1 ∈ metricLabels.map (·.1)) :
    RowShows word (evidenceRow metric) ↔ word <:+: metric.2.toList := by
  have label := infix_plain_iff idWord _ (plain_labels _ (lookupOr_mem_append metric.1 known))
  rw [RowShows, evidenceRow, label, infix_metricValue_iff idWord, false_or]

theorem cardShows_resultCard_iff {inputs : Inputs} {result : DiagnosticResult}
    (member : result ∈ inputs.results) :
    CardShows word (resultCard result) ↔
      ∃ value ∈ result.metrics.map (·.2), word <:+: value.toList := by
  have title := infix_plain_iff idWord _
    (plain_titles _ (lookupOr_mem_append result.checkId (checkId_of_mem_results member)))
  have status : word <:+: (statusText result.status).toList ↔ False := by
    apply infix_plain_iff idWord
    cases result.status <;> exact spelled rfl rfl
  have subtitle : word <:+: (resultCard result).subtitle.toList ↔ False := by
    apply infix_plain_iff idWord
    rw [resultCard]
    dsimp only
    split_ifs
    · exact plain_skips _ (lookupOr_mem_append result.skipCode (lookupOr_mem ..))
    · cases result.confidence <;> exact spelled rfl rfl
  have evidence : (∃ row ∈ (resultCard result).evidence, RowShows word row) ↔
      ∃ value ∈ result.metrics.map (·.2), word <:+: value.toList := by
    have labelled := labelled_of_mem_results member
    simp only [resultCard, List.mem_map, exists_exists_and_eq_and]
    exact exists_congr fun metric => and_congr_right fun recorded =>
      rowShows_evidenceRow_iff idWord (labelled metric recorded)
  rw [CardShows, subtitle, evidence]
  dsimp only [resultCard]
  rw [title, status, false_or, false_or, false_or]

/-- The values that results record. -/
def evidenceTexts (results : List DiagnosticResult) : List String :=
  results.flatMap fun result => result.metrics.map (·.2)

theorem exists_resultCards_iff (inputs : Inputs) :
    (∃ card ∈ resultCards inputs.report, CardShows word card) ↔
      ∃ text ∈ evidenceTexts inputs.results, word <:+: text.toList := by
  have cards : (∃ card ∈ resultCards inputs.report, CardShows word card) ↔
      ∃ result ∈ inputs.results, CardShows word (resultCard result) := by
    simp only [resultCards, Inputs.report, List.mem_map, exists_exists_and_eq_and]
  rw [cards]
  simp only [evidenceTexts, List.mem_flatMap]
  constructor
  · rintro ⟨result, member, shows_⟩
    obtain ⟨text, among, within⟩ := (cardShows_resultCard_iff idWord member).1 shows_
    exact ⟨text, ⟨result, member, among⟩, within⟩
  · rintro ⟨text, ⟨result, member, among⟩, within⟩
    exact ⟨result, member, (cardShows_resultCard_iff idWord member).2 ⟨text, among, within⟩⟩

/-! ### The score -/

theorem not_infix_scoreText (inputs : Inputs) :
    ¬ word <:+: (scoreTexts inputs.report).1.toList := by
  have numbers : (List.range 101).all (fun n => (Nat.toDigits 10 n).length < 9) = true := by
    rfl
  have blank : isIdLetter ' ' = false := by decide
  have none : ¬ word <:+: "No score".toList := idWord.not_infix_of_short (by decide)
  rw [scoreTexts]
  cases scored : inputs.report.score with
  | none => exact none
  | some value =>
    obtain ⟨n, small, rfl⟩ := report_score scored
    have number : ¬ word <:+: (toString (n : Int)).toList := by
      change ¬ word <:+: n.repr.toList
      rw [Nat.toList_repr]
      exact idWord.not_infix_of_short (of_decide_eq_true (List.all_eq_true.1 numbers n small))
    have share : ¬ word <:+: "/ 100".toList := idWord.not_infix_of_short (by decide)
    change ¬ word <:+: (toString (n : Int) ++ " / 100").toList
    rw [String.toList_append]
    have split :=
      infix_append_cons_iff idWord.letters blank (toString (n : Int)).toList "/ 100".toList
    exact split.not.2 (not_or.2 ⟨number, share⟩)

theorem not_infix_coverageText (inputs : Inputs) :
    ¬ word <:+: (scoreTexts inputs.report).2.toList := by
  have numbers : (List.range 6).all (fun n => (Nat.toDigits 10 n).length < 9) = true := by
    rfl
  obtain ⟨few, five⟩ := report_measured inputs
  have number {n : ℕ} (small : n < 6) : ¬ word <:+: (toString n).toList := by
    rw [Nat.toString_eq_repr, Nat.toList_repr]
    exact idWord.not_infix_of_short (of_decide_eq_true
      (List.all_eq_true.1 numbers n (List.mem_range.2 small)))
  have measured := number few
  have total : ¬ word <:+: (toString inputs.report.total).toList := number (by omega)
  change ¬ word <:+: ("Experimental — based on " ++ toString inputs.report.measured ++ " of " ++
    toString inputs.report.total ++ " signals").toList
  simp only [String.toList_append, String.reduceToList, List.append_assoc]
  rw [idWord.opening_iff (by rfl), idWord.fence_iff (by rfl),
    idWord.append_fence_iff (by rfl)]
  exact not_or.2 ⟨measured, total⟩

/-- What the Markdown and the HTML export show after a run. -/
theorem shows_rendered_iff (context : ExportContext) (inputs : Inputs) :
    ((({} : DiagnosticsViewModel).runDone inputs.report).rendered context).Shows word ↔
      ∃ text ∈ context.generated :: context.appVersion ::
        (systemTexts context ++ evidenceTexts inputs.results), word <:+: text.toList := by
  have score := iff_false_intro (not_infix_scoreText idWord inputs)
  have coverage := iff_false_intro (not_infix_coverageText idWord inputs)
  rw [List.exists_mem_cons_iff, List.exists_mem_cons_iff]
  simp only [List.mem_append, or_and_right, exists_or]
  rw [← exists_systemRows_iff idWord, ← exists_resultCards_iff idWord]
  change (_ ∨ _ ∨ _ ∨ word <:+: (scoreTexts inputs.report).1.toList ∨
    word <:+: (scoreTexts inputs.report).2.toList ∨ _) ↔ _
  rw [score, coverage, false_or, false_or]
  rfl

/-! ### The JSON export -/

/-- A plain key has no word. -/
theorem has_object_iff (keys : List String)
    (plain : keys.all (fun key => plainText (escaped key)) = true) {members : List (String × Value)}
    (same : members.map (·.1) = keys) :
    Has word (.obj members) ↔ ∃ member ∈ members, Has word member.2 := by
  apply has_obj
  intro member among
  refine idWord.not_infix_of_brief (List.all_eq_true.1 plain _ ?_)
  rw [← same]
  exact List.mem_map_of_mem among

omit idWord in
theorem has_optionalText_iff (text : Option String) :
    Has word (optionalText text) ↔ ∃ value, some value = text ∧ word <:+: escaped value := by
  cases text <;> simp [optionalText]

theorem has_systemDocument_iff (context : ExportContext) :
    Has word (systemDocument context.identity context.osInfo) ↔
      ∃ text ∈ systemTexts context, word <:+: escaped text := by
  unfold systemDocument
  rw [has_obj_append]
  simp only [systemTexts, List.mem_append, or_and_right, exists_or]
  apply or_congr
  · cases context.identity with
    | none => simp [Has, printed, printedMembers]
    | some identity =>
      rw [has_object_iff idWord ["model", "machine_type", "vendor", "bios_version"]
        (by rfl) rfl]
      simp only [List.exists_mem_cons_iff, has_optionalText_iff]
      simp [or_and_right, exists_or]
  · cases context.osInfo with
    | none => simp [Has, printed, printedMembers]
    | some osInfo =>
      rw [has_object_iff idWord ["os", "kernel"] (by rfl) rfl]
      simp only [List.exists_mem_cons_iff, has_optionalText_iff]
      simp [or_and_right, exists_or]

/-! ### Checks in the JSON export -/

/-- The values that a `dict` of each result's evidence keeps. -/
def dictTexts (results : List DiagnosticResult) : List String :=
  results.flatMap fun result => (dict result.metrics).map (·.2)

theorem has_metricsDocument_iff {metrics : List (String × String)} (labelled : Labelled metrics) :
    Has word (metricsDocument metrics) ↔
      ∃ value ∈ (dict metrics).map (·.2), word <:+: escaped value := by
  rw [metricsDocument, has_obj]
  · simp only [List.mem_map, exists_exists_and_eq_and, has_str]
  · intro member among
    obtain ⟨metric, kept, rfl⟩ := List.mem_map.1 among
    refine idWord.not_infix_of_brief (plain_keys _ (labelled metric ?_))
    exact dict_subset _ kept

theorem has_checkDocument_iff {inputs : Inputs} {result : DiagnosticResult}
    (member : result ∈ inputs.results) :
    Has word (checkDocument result) ↔
      word <:+: escaped result.skipCode ∨
        ∃ value ∈ (dict result.metrics).map (·.2), word <:+: escaped value := by
  have check : ¬ word <:+: escaped result.checkId :=
    idWord.not_infix_of_brief (plain_ids _ (checkId_of_mem_results member))
  have status : ¬ word <:+: escaped result.status.value := by
    apply idWord.not_infix_of_brief
    cases result.status <;> exact escaped_spelled rfl rfl
  have confidence : ¬ word <:+: escaped result.confidence.value := by
    apply idWord.not_infix_of_brief
    cases result.confidence <;> exact escaped_spelled rfl rfl
  have skipCode : Has word (if result.skipCode = "" then .null else .str result.skipCode) ↔
      word <:+: escaped result.skipCode := by
    split_ifs with empty
    · simp [empty, escaped, idWord.ne_nil]
    · exact has_str ..
  rw [checkDocument, has_object_iff idWord ["id", "status", "confidence", "skip_code", "metrics"]
    (by rfl) rfl]
  simp only [List.exists_mem_cons_iff, has_str, check, status, confidence, skipCode,
    has_metricsDocument_iff idWord (labelled_of_mem_results member), false_or]
  simp

/-- Only a skipped storage check says what it was told. -/
def skipTexts (inputs : Inputs) : List String :=
  if inputs.reports = none then [inputs.storageSkip] else []

theorem exists_skipCode_iff (inputs : Inputs) :
    (∃ result ∈ inputs.results, word <:+: escaped result.skipCode) ↔
      ∃ text ∈ skipTexts inputs, word <:+: escaped text := by
  have plain :
      ["", "unavailable", "no-data"].all (fun text => plainText (escaped text)) = true := by
    rfl
  have silent {skipCode : String} (known : skipCode ∈ ["", "unavailable", "no-data"]) :
      ¬ word <:+: escaped skipCode :=
    idWord.not_infix_of_brief (List.all_eq_true.1 plain _ known)
  have battery := silent (checkBatteryWear_skipCode inputs.wears)
  have firmware := silent (checkFirmwareCurrency_skipCode inputs.pending)
  have thermal := silent (checkThermal_skipCode inputs.temps)
  have disk := silent (checkDiskSpace_skipCode inputs.usages)
  have storage : word <:+: escaped (checkStorageHealth inputs.reports inputs.storageSkip).skipCode ↔
      ∃ text ∈ skipTexts inputs, word <:+: escaped text := by
    unfold skipTexts
    split_ifs with unread
    · simp [unread, checkStorageHealth, skippedResult]
    · simpa using silent (checkStorageHealth_skipCode inputs.storageSkip unread)
  simp only [Inputs.results, List.exists_mem_cons_iff, battery, storage, firmware, thermal, disk,
    List.not_mem_nil, false_and, exists_false, false_or, or_false]

theorem has_diagnosticsDocument_iff (inputs : Inputs) :
    Has word (diagnosticsDocument inputs.report) ↔
      ∃ text ∈ skipTexts inputs ++ dictTexts inputs.results, word <:+: escaped text := by
  -- the numbers of the document are too short to hold the word
  have percentages : (List.range 101).all (fun n => plainText (printInt n)) = true := by
    rfl
  have counts : (List.range 6).all (fun n => plainText (printInt n)) = true := by rfl
  obtain ⟨few, five⟩ := report_measured inputs
  have count {n : ℕ} (small : n < 6) : ¬ word <:+: printInt n :=
    idWord.not_infix_of_brief (List.all_eq_true.1 counts _ (List.mem_range.2 small))
  have measured := count few
  have total : ¬ word <:+: printInt inputs.report.total := count (by omega)
  have checks : (∃ item ∈ inputs.report.results.map checkDocument, Has word item) ↔
      ∃ text ∈ skipTexts inputs ++ dictTexts inputs.results, word <:+: escaped text := by
    have each : (∃ item ∈ inputs.report.results.map checkDocument, Has word item) ↔
        ∃ result ∈ inputs.results, word <:+: escaped result.skipCode ∨
          ∃ value ∈ (dict result.metrics).map (·.2), word <:+: escaped value := by
      have listed : (∃ item ∈ inputs.report.results.map checkDocument, Has word item) ↔
          ∃ result ∈ inputs.results, Has word (checkDocument result) := by
        simp only [Inputs.report, List.mem_map, exists_exists_and_eq_and]
      rw [listed]
      exact exists_congr fun result => and_congr_right (has_checkDocument_iff idWord)
    rw [each]
    simp only [and_or_left, exists_or, exists_skipCode_iff idWord, List.mem_append, or_and_right]
    simp only [dictTexts, List.mem_flatMap]
    apply or_congr Iff.rfl
    constructor
    · rintro ⟨result, member, text, among, within⟩
      exact ⟨text, ⟨result, member, among⟩, within⟩
    · rintro ⟨text, ⟨result, member, among⟩, within⟩
      exact ⟨result, member, text, among, within⟩
  -- the keys do not hold it either, so only the checks are left
  rw [diagnosticsDocument, has_object_iff idWord ["score", "measured", "total", "checks"]
    (by rfl) rfl]
  simp only [List.exists_mem_cons_iff, has_int, measured, total, has_arr, checks, false_or,
    List.not_mem_nil, false_and, exists_false, or_false]
  apply or_iff_right
  split
  · exact has_null word
  · rename_i value scored
    obtain ⟨n, small, rfl⟩ := report_score scored
    exact (has_int word _).not.2
      (idWord.not_infix_of_brief (List.all_eq_true.1 percentages n small))

/-- What the JSON export shows after a run, as JSON escapes it. -/
theorem infix_toJson_iff (context : ExportContext) (inputs : Inputs) :
    word <:+: (toJson context inputs.report).toList ↔
      ∃ text ∈ context.generated :: context.appVersion ::
        (systemTexts context ++ (skipTexts inputs ++ dictTexts inputs.results)),
          word <:+: escaped text := by
  have newline : isIdLetter '\n' = false := by decide
  have apart : Apart isIdLetter := by
    intro c among
    simp only [List.mem_cons, List.not_mem_nil, or_false] at among
    rcases among with rfl | rfl | rfl | rfl | rfl | rfl | rfl | rfl | rfl <;> rfl
  have version : ¬ word <:+: printInt schemaVersion := idWord.not_infix_of_brief (by rfl)
  have dumped := infix_dumps_iff idWord apart (by decide) (reportDocument context inputs.report)
  rw [toJson, String.toList_ofList, infix_concat_other_iff idWord.letters newline, dumped]
  change Has word (reportDocument context inputs.report) ↔ _
  rw [reportDocument, has_object_iff idWord
    ["lapcare_report", "generated", "app_version", "redacted", "system", "diagnostics"]
    (by rfl) rfl]
  simp only [List.exists_mem_cons_iff, has_int, has_str, has_bool, version,
    has_systemDocument_iff idWord, has_diagnosticsDocument_iff idWord, List.mem_append,
    or_and_right, exists_or, List.not_mem_nil, false_and, exists_false, false_or, or_false]

end Page

end Lapcare.Pages
