import Lapcare.Pages.Agreement

/-!
# The rows of the storage page

`StoragePage._device_row` of `ui/pages/storage/view.py`, and what the rows show after one
health action and after many. A card with health rows unfolds into them and shows the
summary; a card without them is a plain row that shows the note.

## Main results

* `failing_drive_shown_iff` — when the row of a failing drive says so
* `rows_show_last_iff` — when the rows after a history of actions are those of the last one
-/

namespace Lapcare.Pages

open Lapcare.Core Semantics Semantics.Logged

/-- A row of the device list. -/
inductive DeviceRow
  | plain (title subtitle : String)
  | expander (title subtitle summary style : String) (details : List (String × String))
  deriving DecidableEq

/-- `_device_row`. -/
def deviceRow (card : StorageCard) : DeviceRow :=
  if card.healthRows = [] then
    .plain card.title
      (if card.healthNote = "" then card.subtitle
        else card.subtitle ++ " — " ++ card.healthNote)
  else
    .expander card.title card.subtitle card.healthSummary
      (if card.healthFailed then "error" else "success") card.healthRows

/-- The rows of `_fill_ready`. -/
def StorageViewModel.rows (vm : StorageViewModel) : List DeviceRow :=
  vm.cards.map deviceRow

/-! ### A failing drive -/

/-- The report fills at least one health row. -/
def SaysMore (report : SmartReport) : Prop :=
  report.temperatureC ≠ none ∨ report.percentageUsed ≠ none ∨ report.availableSparePct ≠ none ∨
    report.mediaErrors ≠ none ∨ report.reallocatedSectors ≠ none ∨ report.pendingSectors ≠ none ∨
    report.powerOnHours ≠ none ∨ report.powerCycles ≠ none ∨ report.unsafeShutdowns ≠ none ∨
    report.firmwareVersion ≠ none ∨ report.messages ≠ []

theorem healthRow_eq_nil_iff {label : String} {value : Option String} :
    healthRow label value = [] ↔ value = none := by
  cases value <;> simp [healthRow]

theorem healthRows_eq_nil_iff (report : SmartReport) :
    healthRows report = [] ↔ ¬ SaysMore report := by
  have notes : (if report.messages = [] then none else some ("; ".intercalate report.messages)) =
      none ↔ report.messages = [] := by
    split_ifs with quiet <;> simp [quiet]
  simp only [healthRows, List.append_eq_nil_iff, healthRow_eq_nil_iff, Option.map_eq_none_iff,
    notes, SaysMore]
  tauto

/-- The labels of the health rows, in their order. -/
def rowLabels : List String :=
  ["Temperature", "Rated endurance used", "Spare capacity available", "Media errors",
    "Reallocated sectors", "Sectors pending reallocation", "Powered on", "Power cycles",
    "Unsafe shutdowns", "Firmware", "Notes"]

/-- What a report has to say in a row: the number or the text that it gives, with its unit. -/
inductive HealthRowTold (report : SmartReport) : String → String → Prop
  | temperature {n : Int} (given : report.temperatureC = some n) :
      HealthRowTold report "Temperature" s!"{n} °C"
  | endurance {n : Int} (given : report.percentageUsed = some n) :
      HealthRowTold report "Rated endurance used" s!"{n}%"
  | spare {n : Int} (given : report.availableSparePct = some n) :
      HealthRowTold report "Spare capacity available" s!"{n}%"
  | media {n : Int} (given : report.mediaErrors = some n) :
      HealthRowTold report "Media errors" (toString n)
  | reallocated {n : Int} (given : report.reallocatedSectors = some n) :
      HealthRowTold report "Reallocated sectors" (toString n)
  | pending {n : Int} (given : report.pendingSectors = some n) :
      HealthRowTold report "Sectors pending reallocation" (toString n)
  | hours {n : Int} (given : report.powerOnHours = some n) :
      HealthRowTold report "Powered on" s!"{n} hours"
  | cycles {n : Int} (given : report.powerCycles = some n) :
      HealthRowTold report "Power cycles" (toString n)
  | shutdowns {n : Int} (given : report.unsafeShutdowns = some n) :
      HealthRowTold report "Unsafe shutdowns" (toString n)
  | firmware {version : String} (given : report.firmwareVersion = some version) :
      HealthRowTold report "Firmware" version
  | notes (given : report.messages ≠ []) :
      HealthRowTold report "Notes" ("; ".intercalate report.messages)

/-- The card says of the health what the report does: its verdict, and a row for everything that
it gives and for nothing else, each once and in order. -/
structure StorageCard.Shows (card : StorageCard) (report : SmartReport) : Prop where
  failing : report.passed = some false → card.healthSummary = "FAILING — back up your data now"
  healthy : report.passed = some true → card.healthSummary = "Healthy"
  unreported : report.passed = none → card.healthSummary = "Health not reported"
  failed : card.healthFailed = true ↔ report.passed = some false
  rows : ∀ label text, (label, text) ∈ card.healthRows ↔ HealthRowTold report label text
  order : (card.healthRows.map (·.1)).Sublist rowLabels

theorem healthRow_labels (label : String) (value : Option String) :
    ((healthRow label value).map (·.1)).Sublist [label] := by
  cases value with
  | none => exact List.nil_sublist _
  | some text => exact List.Sublist.refl _

theorem mem_healthRow_iff {label text own : String} {value : Option String} :
    (label, text) ∈ healthRow own value ↔ label = own ∧ value = some text := by
  cases value with
  | none => simp [healthRow]
  | some shown => simp [healthRow, eq_comm]

theorem mem_healthRows_iff {report : SmartReport} {label text : String} :
    (label, text) ∈ healthRows report ↔ HealthRowTold report label text := by
  simp only [healthRows, List.mem_append, mem_healthRow_iff, Option.map_eq_some_iff, or_assoc]
  constructor
  · rintro (⟨rfl, n, given, rfl⟩ | ⟨rfl, n, given, rfl⟩ | ⟨rfl, n, given, rfl⟩ |
      ⟨rfl, n, given, rfl⟩ | ⟨rfl, n, given, rfl⟩ | ⟨rfl, n, given, rfl⟩ | ⟨rfl, n, given, rfl⟩ |
      ⟨rfl, n, given, rfl⟩ | ⟨rfl, n, given, rfl⟩ | ⟨rfl, given⟩ | ⟨rfl, given⟩)
    · exact .temperature given
    · exact .endurance given
    · exact .spare given
    · exact .media given
    · exact .reallocated given
    · exact .pending given
    · exact .hours given
    · exact .cycles given
    · exact .shutdowns given
    · exact .firmware given
    · split_ifs at given with quiet
      obtain rfl := Option.some.inj given
      exact .notes quiet
  · intro told
    cases told <;> simp_all

theorem healthRows_labels (report : SmartReport) :
    ((healthRows report).map (·.1)).Sublist rowLabels := by
  simp only [healthRows, List.map_append]
  exact ((((((((((healthRow_labels _ _).append (healthRow_labels _ _)).append
    (healthRow_labels _ _)).append (healthRow_labels _ _)).append (healthRow_labels _ _)).append
    (healthRow_labels _ _)).append (healthRow_labels _ _)).append (healthRow_labels _ _)).append
    (healthRow_labels _ _)).append (healthRow_labels _ _)).append (healthRow_labels _ _)

/-- What a report makes of a card. -/
theorem shows_report {card : StorageCard} {report : SmartReport}
    (summary : card.healthSummary = (Pages.summary report).1)
    (failed : card.healthFailed = (Pages.summary report).2)
    (rows : card.healthRows = healthRows report) : card.Shows report := by
  refine ⟨fun is => ?_, fun is => ?_, fun is => ?_, ?_, fun label text => ?_, ?_⟩
  · rw [summary, Pages.summary, is]
  · rw [summary, Pages.summary, is]
  · rw [summary, Pages.summary, is]
  · rw [failed, Pages.summary]
    rcases report.passed with _ | _ | _ <;> simp
  · rw [rows]
    exact mem_healthRows_iff
  · rw [rows]
    exact healthRows_labels report

/-- The row shows the verdict on a failing drive, in the style of an error. -/
def ShowsFailing (row : DeviceRow) : Prop :=
  ∃ title subtitle details,
    row = .expander title subtitle "FAILING — back up your data now" "error" details

/-- A health action on an idle page with cards, run to completion. -/
structure CompletesWith (storage : StorageProvider) (vm : StorageViewModel)
    (results : List HealthResult) (page : StorageViewModel) : Prop where
  idle : vm.busyText = ""
  shown : vm.cards ≠ []
  gathered : alone (StorageViewModel.gatherHealth storage (vm.cards.map (·.name))) = .ok results
  completed : alone (vm.completeHealth storage) = .ok page

theorem CompletesWith.cards {storage : StorageProvider} {vm page : StorageViewModel}
    {results : List HealthResult} (completes : CompletesWith storage vm results page) :
    page.cards = vm.cards.map (StorageViewModel.withHealth results) := by
  have done := alone_completeHealth completes.idle completes.shown completes.gathered
  rw [completes.completed] at done
  rw [Except.ok.inj done]
  rfl

/-- The row of a device whose report says that it is failing shows that exactly when the
report fills a health row. -/
theorem failing_drive_shown_iff {storage : StorageProvider} {vm page : StorageViewModel}
    {results : List HealthResult} (completes : CompletesWith storage vm results page)
    {card : StorageCard} (listed : card ∈ page.cards) {report : SmartReport}
    (read : (StorageViewModel.byName results card.name).1 = some report)
    (failing : report.passed = some false) :
    ShowsFailing (deviceRow card) ↔ SaysMore report := by
  rw [completes.cards] at listed
  obtain ⟨before, -, rfl⟩ := List.mem_map.mp listed
  rw [StorageViewModel.withHealth_name] at read
  obtain ⟨note, found⟩ : ∃ note, StorageViewModel.byName results before.name =
      (some report, note) := ⟨_, Prod.ext read rfl⟩
  have summary_eq : summary report = ("FAILING — back up your data now", true) := by
    rw [summary, failing]
  simp only [StorageViewModel.withHealth, found, deviceRow, summary_eq]
  by_cases rows : healthRows report = []
  · -- a plain row, which never shows the summary
    rw [if_pos rows]
    refine iff_of_false ?_ ((healthRows_eq_nil_iff report).mp rows)
    rintro ⟨title, subtitle, details, same⟩
    cases same
  · rw [if_neg rows]
    refine iff_of_true ⟨_, _, _, rfl⟩ ?_
    by_contra silent
    exact rows ((healthRows_eq_nil_iff report).mpr silent)

/-! ### Many health actions -/

/-- A failed read that is a note on one device: no denial, and no missing tool. -/
def PerDevice : LapcareError → Prop
  | .privilegedActionDenied _ | .providerUnavailable _ _ _ => False
  | .lapcareError _ | .providerTimeout _ _ | .providerParseError _ _
  | .firmwareInstallFailed _ _ => True

/-- What one device answers to one health action. -/
abbrev ReadOutcome := Except {error : LapcareError // PerDevice error} SmartReport

/-- Block devices of which each answers one health action as given. -/
def readable (devices : List StorageDevice) (outcome : String → ReadOutcome) :
    StorageProvider where
  devices _ := .ok devices
  smart _ name := (outcome name).mapError fun error => .lapcare error.1

/-- The page after a history of health actions, each run to completion before the next. -/
def afterActions (devices : List StorageDevice) (history : List (String → ReadOutcome)) :
    Except PyException StorageViewModel :=
  history.foldlM (fun vm outcome => alone (vm.completeHealth (readable devices outcome)))
    (({} : StorageViewModel).apply devices)

def rowsAfter (devices : List StorageDevice) (history : List (String → ReadOutcome)) :
    Except PyException (List DeviceRow) :=
  (afterActions devices history).map (·.rows)

/-- The row of a device that could not be read and has nothing else to show. -/
def noteRow (device : StorageDevice) : DeviceRow :=
  .plain (StorageCard.ofDevice device).title
    ((StorageCard.ofDevice device).subtitle ++ " — " ++ degradedNote)

/-- After a history that ends in `last` the rows are those of `last` alone, and every
device that it could not read shows the note. -/
def ShowsLast (devices : List StorageDevice) (past : List (String → ReadOutcome))
    (last : String → ReadOutcome) : Prop :=
  rowsAfter devices (past ++ [last]) = rowsAfter devices [last] ∧
    ∃ rows, rowsAfter devices (past ++ [last]) = .ok rows ∧
      List.Forall₂ (fun device row =>
        ∀ error, last device.name = .error error → row = noteRow device) devices rows

/-- The last report of a device in a history. -/
def latestReport (history : List (String → ReadOutcome)) (name : String) : Option SmartReport :=
  history.reverse.findSome? fun outcome => (outcome name).toOption

/-- No device that the last action could not read has a report before it that fills a
health row. -/
def NothingStale (devices : List StorageDevice) (past : List (String → ReadOutcome))
    (last : String → ReadOutcome) : Prop :=
  ∀ device ∈ devices, ∀ error, last device.name = .error error →
    ∀ report, latestReport past device.name = some report → ¬ SaysMore report

/-- What an outcome brings home for a device. -/
def ReadOutcome.result : ReadOutcome → Option SmartReport × String
  | .ok report => (some report, "")
  | .error _ => (none, degradedNote)

/-- A card after the outcome of its device. -/
def ReadOutcome.onCard (outcome : ReadOutcome) (card : StorageCard) : StorageCard :=
  match outcome with
  | .ok report =>
      { card with
        healthNote := ""
        healthSummary := (summary report).1
        healthFailed := (summary report).2
        healthRows := healthRows report }
  | .error _ => { card with healthNote := degradedNote }

theorem turnOutcome_readable (outcome : ReadOutcome) (name : String) :
    StorageViewModel.turnOutcome name (outcome.mapError fun error => .lapcare error.1) =
      .ok (name, outcome.result) := by
  rcases outcome with ⟨error, perDevice⟩ | report
  · cases error with
    | privilegedActionDenied | providerUnavailable => exact perDevice.elim
    | lapcareError | providerTimeout | providerParseError | firmwareInstallFailed => rfl
  · rfl

theorem withHealth_readable {names : List String} {card : StorageCard}
    (member : card.name ∈ names) (outcome : String → ReadOutcome) :
    StorageViewModel.withHealth (names.map fun name => (name, (outcome name).result)) card =
      (outcome card.name).onCard card := by
  rw [StorageViewModel.withHealth, byName_map member fun name => (outcome name).result]
  rcases outcome card.name with error | report <;> rfl

theorem onCard_name (outcome : ReadOutcome) (card : StorageCard) :
    (outcome.onCard card).name = card.name := by
  rcases outcome with error | report <;> rfl

/-- The card of a device after a history. -/
def cardAfter (history : List (String → ReadOutcome)) (device : StorageDevice) : StorageCard :=
  history.foldl (fun card outcome => (outcome device.name).onCard card)
    (StorageCard.ofDevice device)

theorem cardAfter_concat (past : List (String → ReadOutcome)) (last : String → ReadOutcome)
    (device : StorageDevice) :
    cardAfter (past ++ [last]) device = (last device.name).onCard (cardAfter past device) :=
  List.foldl_concat ..

theorem cardAfter_name (history : List (String → ReadOutcome)) (device : StorageDevice) :
    (cardAfter history device).name = device.name := by
  induction history using List.reverseRecOn with
  | nil => rfl
  | append_singleton past last ih => rw [cardAfter_concat, onCard_name, ih]

/-- Every history leaves the page idle, with one card for each device. -/
theorem afterActions_eq (devices : List StorageDevice) (history : List (String → ReadOutcome)) :
    ∃ page, afterActions devices history = .ok page ∧ page.busyText = "" ∧
      page.cards = devices.map (cardAfter history) := by
  induction history using List.reverseRecOn with
  | nil =>
    refine ⟨_, rfl, ?_⟩
    unfold StorageViewModel.apply
    split_ifs with nothing
    · rw [nothing]
      exact ⟨rfl, rfl⟩
    · exact ⟨rfl, rfl⟩
  | append_singleton past last ih =>
    obtain ⟨page, ran, idle, cards⟩ := ih
    have again : afterActions devices (past ++ [last]) =
        alone (page.completeHealth (readable devices last)) := by
      rw [afterActions, List.foldlM_append]
      change (afterActions devices past >>= _) = _
      rw [ran]
      exact bind_pure (alone (page.completeHealth (readable devices last)))
    rw [again]
    by_cases nothing : devices = []
    · -- a page without cards starts no action
      have blank : page.cards = [] := by rw [cards, nothing, List.map_nil]
      refine ⟨page, ?_, idle, by rw [blank, nothing, List.map_nil]⟩
      rw [alone, StorageViewModel.completeHealth, StorageViewModel.readHealth,
        if_pos (.inr blank)]
      rfl
    · have shown : page.cards ≠ [] := by
        rw [cards]
        simpa using nothing
      have answers (log : List ProviderCall) (name : String) :
          (readable devices last).smart log name =
            (last name).mapError fun error => .lapcare error.1 := rfl
      have gathered := alone_gatherHealth_eq answers
        (fun name => turnOutcome_readable (last name) name) (page.cards.map (·.name))
      refine ⟨_, alone_completeHealth idle shown gathered, rfl, ?_⟩
      have health (card : StorageCard) (member : card ∈ page.cards) :=
        withHealth_readable (List.mem_map_of_mem (f := (·.name)) member) last
      change page.cards.map (StorageViewModel.withHealth _) = _
      rw [List.map_congr_left health, cards, List.map_map]
      apply List.map_congr_left
      intro device _
      rw [Function.comp_apply, cardAfter_name, cardAfter_concat]

theorem rowsAfter_eq (devices : List StorageDevice) (history : List (String → ReadOutcome)) :
    rowsAfter devices history =
      .ok (devices.map fun device => deviceRow (cardAfter history device)) := by
  obtain ⟨page, ran, -, cards⟩ := afterActions_eq devices history
  rw [rowsAfter, ran]
  change Except.ok page.rows = _
  rw [StorageViewModel.rows, cards, List.map_map]
  rfl

/-- Actions change the health of a card, not what it says of the device. -/
theorem cardAfter_device (history : List (String → ReadOutcome)) (device : StorageDevice) :
    (cardAfter history device).title = (StorageCard.ofDevice device).title ∧
      (cardAfter history device).subtitle = (StorageCard.ofDevice device).subtitle := by
  induction history using List.reverseRecOn with
  | nil => exact ⟨rfl, rfl⟩
  | append_singleton past last ih =>
    rw [cardAfter_concat]
    rcases last device.name with error | report <;> exact ih

/-- The health rows of a card are those of the latest report. -/
theorem cardAfter_healthRows (history : List (String → ReadOutcome)) (device : StorageDevice) :
    (cardAfter history device).healthRows =
      ((latestReport history device.name).map healthRows).getD [] := by
  induction history using List.reverseRecOn with
  | nil => rfl
  | append_singleton past last ih =>
    rw [cardAfter_concat, latestReport, List.reverse_concat, List.findSome?_cons]
    rcases last device.name with error | report
    · exact ih
    · rfl

/-- After a report the row is the one that the report alone gives. -/
theorem deviceRow_of_report {past : List (String → ReadOutcome)} {last : String → ReadOutcome}
    {device : StorageDevice} {report : SmartReport} (read : last device.name = .ok report) :
    deviceRow (cardAfter (past ++ [last]) device) = deviceRow (cardAfter [last] device) := by
  have same := cardAfter_device past device
  rw [cardAfter_concat, ← List.nil_append [last], cardAfter_concat, read]
  simp only [ReadOutcome.onCard, deviceRow, same]
  rfl

/-- After a failed read the row is the note exactly when no earlier row is left. -/
theorem deviceRow_of_error {past : List (String → ReadOutcome)} {last : String → ReadOutcome}
    {device : StorageDevice} {error : {error : LapcareError // PerDevice error}}
    (failed : last device.name = .error error) :
    deviceRow (cardAfter (past ++ [last]) device) = noteRow device ↔
      ∀ report, latestReport past device.name = some report → ¬ SaysMore report := by
  have same := cardAfter_device past device
  have rows := cardAfter_healthRows past device
  have note : degradedNote ≠ "" := by decide
  rw [cardAfter_concat, failed]
  simp only [ReadOutcome.onCard, deviceRow, same, if_neg note, noteRow]
  rcases latest : latestReport past device.name with _ | report
  · rw [latest] at rows
    have nothing : (cardAfter past device).healthRows = [] := rows
    rw [if_pos nothing]
    simp
  · rw [latest] at rows
    have left : (cardAfter past device).healthRows = healthRows report := rows
    rw [left]
    by_cases blank : healthRows report = []
    · rw [if_pos blank]
      refine iff_of_true rfl ?_
      rintro _ ⟨⟩
      exact (healthRows_eq_nil_iff report).mp blank
    · rw [if_neg blank]
      refine iff_of_false (fun impossible => by cases impossible) fun silent => ?_
      exact blank ((healthRows_eq_nil_iff report).mpr (silent report rfl))

/-- The rows after a history are those of its last action exactly when the last action
could read, or no earlier report left a row on, every device. -/
theorem rows_show_last_iff (devices : List StorageDevice) (past : List (String → ReadOutcome))
    (last : String → ReadOutcome) :
    ShowsLast devices past last ↔ NothingStale devices past last := by
  have alone_note (device : StorageDevice) (error) (failed : last device.name = .error error) :
      deviceRow (cardAfter [last] device) = noteRow device := by
    rw [← List.nil_append [last]]
    refine (deviceRow_of_error failed).mpr ?_
    intro report none_read
    cases none_read
  rw [ShowsLast, rowsAfter_eq, rowsAfter_eq, NothingStale]
  constructor
  · rintro ⟨same, -⟩ device listed error failed
    have row := List.map_inj_left.mp (Except.ok.inj same) device listed
    exact (deviceRow_of_error failed).mp (row.trans (alone_note device error failed))
  · intro nothing
    have note (device : StorageDevice) (listed : device ∈ devices) (error)
        (failed : last device.name = .error error) :
        deviceRow (cardAfter (past ++ [last]) device) = noteRow device :=
      (deviceRow_of_error failed).mpr (nothing device listed error failed)
    refine ⟨congrArg _ (List.map_congr_left fun device listed => ?_), _, rfl, ?_⟩
    · rcases read : last device.name with error | report
      · rw [note device listed error read, alone_note device error read]
      · exact deviceRow_of_report read
    · rw [List.forall₂_map_right_iff, List.forall₂_same]
      exact note

/-! ### Two drives -/

/-- A bridge answers nothing but that the drive behind it is failing. -/
def silentFailing : SmartReport where
  deviceName := "sda"
  passed := some false

def healthyDrive : SmartReport where
  deviceName := "sda"
  passed := some true
  temperatureC := some 35

def readFailed : ReadOutcome :=
  .error ⟨.providerTimeout "storage_smart" "smartctl", trivial⟩

def loadedDrive : StorageViewModel :=
  ({} : StorageViewModel).apply [{ name := "sda" }]

def driveAnswering (outcome : ReadOutcome) : StorageProvider :=
  readable [{ name := "sda" }] fun _ => outcome

/-- The page of a drive after an action that brought home `report`. -/
def pageWith (report : SmartReport) : StorageViewModel :=
  { loadedDrive with
    cards := loadedDrive.cards.map (StorageViewModel.withHealth [("sda", some report, "")]) }

theorem completesWith_report (report : SmartReport) :
    CompletesWith (driveAnswering (.ok report)) loadedDrive [("sda", some report, "")]
      (pageWith report) :=
  ⟨rfl, by simp [loadedDrive, StorageViewModel.apply], rfl, rfl⟩

/-- The row of the failing drive is a plain one, with neither a verdict nor a note. -/
theorem silent_failing_drive_hidden :
    CompletesWith (driveAnswering (.ok silentFailing)) loadedDrive
        [("sda", some silentFailing, "")] (pageWith silentFailing) ∧
      (pageWith silentFailing).rows = [.plain "sda" "Disk · sda"] ∧
      ¬ ∃ row ∈ (pageWith silentFailing).rows, ShowsFailing row := by
  refine ⟨completesWith_report silentFailing, by decide, ?_⟩
  have rows : (pageWith silentFailing).rows = [.plain "sda" "Disk · sda"] := by decide
  rw [rows]
  rintro ⟨row, shown, title, subtitle, details, rfl⟩
  simp at shown

theorem failing_drive_shown_with_temperature :
    ShowsFailing (deviceRow (cardAfter [fun _ => .ok { healthyDrive with passed := some false }]
      { name := "sda" })) :=
  (failing_drive_shown_iff (completesWith_report { healthyDrive with passed := some false })
    (List.mem_singleton_self _) rfl rfl).mpr (.inl (by decide))

/-- A drive that was healthy and then could not be read still shows as healthy. -/
theorem stale_verdict_shown :
    rowsAfter [{ name := "sda" }] [fun _ => .ok healthyDrive, fun _ => readFailed] =
        .ok [.expander "sda" "Disk · sda" "Healthy" "success" [("Temperature", "35 °C")]] ∧
      rowsAfter [{ name := "sda" }] [fun _ => readFailed] =
        .ok [.plain "sda" ("Disk · sda — " ++ degradedNote)] ∧
      ¬ ShowsLast [{ name := "sda" }] [fun _ => .ok healthyDrive] fun _ => readFailed := by
  refine ⟨?_, ?_, ?_⟩
  · rw [rowsAfter_eq]
    exact congrArg _ (by decide)
  · rw [rowsAfter_eq]
    exact congrArg _ (by decide)
  · rw [rows_show_last_iff]
    intro nothing
    exact nothing { name := "sda" } (by simp) _ rfl healthyDrive rfl (.inl (by decide))

end Lapcare.Pages
