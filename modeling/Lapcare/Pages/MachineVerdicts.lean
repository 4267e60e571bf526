import Mathlib.Data.Set.Card
import Lapcare.Core.Overflow
import Lapcare.Core.Report
import Lapcare.Core.Score
import Lapcare.Pages.MachineDiagnosis
import Lapcare.Pages.StorageAttribution

/-!
# What a run says of a machine

The providers hand over no number that a check cannot compute: what files and documents hold
is bounded by their lengths, and what the system counts by its types. So a run on a machine ends
as its sources do, and what it reports is what the machine shows.

## Main results

* `machine_verdicts` — when a run returns, and what a machine shows where a verdict reaches a
  level
* `machine_coverage` — how many of the checks are made
* `machine_exported` — what the JSON file of a run says of the machine
-/

namespace Lapcare.Pages

open Lapcare.Core Semantics Semantics.Logged Platform Providers Text

namespace DiagnosedMachine

variable {python : Interpreter} {machine : DiagnosedMachine} {requested : Bool}

/-! ### Numbers that can be computed -/

/-- The capacities of a battery are integers of its files. -/
theorem capacity_lt {builtins : Builtins} (decimal : builtins.Decimal) (root : Root)
    (name : String) :
    (∀ n ∈ (batteryWear builtins root name).capacityFull, n.natAbs < 10 ^ 64) ∧
      ∀ n ∈ (batteryWear builtins root name).capacityDesign, n.natAbs < 10 ^ 64 := by
  unfold batteryWear readCapacity
  dsimp only
  split_ifs
  · exact ⟨fun n member => readInt_lt decimal member, fun n member => readInt_lt decimal member⟩
  · exact ⟨fun n member => readInt_lt decimal member, fun n member => readInt_lt decimal member⟩
  · exact ⟨nofun, nofun⟩

theorem divides_batteryWear {builtins : Builtins} (decimal : builtins.Decimal) (root : Root)
    (name : String) : (batteryWear builtins root name).Divides := by
  intro full held design _ positive
  have short := (capacity_lt decimal root name).1 full held
  have one : (1 : ℚ) ≤ |(design : ℚ)| := by
    rw [abs_of_pos (by exact_mod_cast positive)]
    exact_mod_cast positive
  have top : (10 : ℚ) ^ 64 < floatLimit := by
    rw [floatLimit]
    decide +kernel
  calc |(full / design : ℚ)| = |(full : ℚ)| / |(design : ℚ)| := abs_div _ _
    _ ≤ |(full : ℚ)| := div_le_self (abs_nonneg _) one
    _ = (full.natAbs : ℚ) := by rw [Nat.cast_natAbs, Int.cast_abs]
    _ < 10 ^ 64 := by exact_mod_cast short
    _ < floatLimit := top

/-- The free share of a filesystem is at most the count of its free blocks. -/
theorem divides_usage {path : List Char} {stat : Stat} (counted : stat.bavail < 2 ^ 64) :
    (usage path stat).Divides := by
  intro some_
  have positive : 0 < stat.frsize * stat.blocks := by
    have own : (0 : Int) < stat.frsize * stat.blocks := some_
    exact_mod_cast own
  have size : (0 : ℚ) < stat.frsize := by exact_mod_cast Nat.pos_of_mul_pos_right positive
  have blocks : (1 : ℚ) ≤ stat.blocks := by exact_mod_cast Nat.pos_of_mul_pos_left positive
  have top : (2 : ℚ) ^ 64 < floatLimit := by
    rw [floatLimit]
    decide +kernel
  have share : ((usage path stat).freeBytes / (usage path stat).totalBytes : ℚ) =
      stat.bavail / stat.blocks := by
    simp only [usage, Int.cast_mul, Int.cast_natCast]
    exact mul_div_mul_left _ _ size.ne'
  rw [share, abs_of_nonneg (by positivity)]
  calc (stat.bavail / stat.blocks : ℚ) ≤ stat.bavail := div_le_self (by positivity) blocks
    _ < 2 ^ 64 := by exact_mod_cast counted
    _ < floatLimit := top

/-- The numbers of a report stand in its document. -/
theorem exists_path_of_report {device : String} {data : Loaded} {n : Int}
    (shown : n ∈ (reportOf device data).pendingSectors ∨
      n ∈ (reportOf device data).percentageUsed) :
    ∃ path, data.get? path = some (.int n) := by
  have integer {node : Loaded} {keys : List String}
      (read : Loaded.int? (node.at_ keys) = some n) :
      node.get? (keys.map .key) = some (.int n) := by
    refine Json.Tree.get?_of_at ?_ (by simp)
    cases value : node.at_ keys with
    | int m =>
      rw [value] at read
      exact congrArg _ (Option.some.inj read)
    | null | bool _ | float _ | str _ | arr _ | obj _ =>
      rw [value] at read
      cases read
  rcases shown with pending | used
  · obtain ⟨row, member, value⟩ := List.exists_of_findSome?_eq_some pending
    rw [rowValue] at value
    split_ifs at value
    -- the row is an item of the table, and the number stands below it
    obtain ⟨i, found⟩ := Json.Tree.exists_get?_of_mem_items member
    refine ⟨(["ata_smart_attributes", "table"].map .key ++ [.index i]) ++
      ["raw", "value"].map .key, ?_⟩
    rw [Json.Tree.get?_append, found]
    exact integer value
  · exact ⟨_, integer used⟩

/-- A report that arrives can be printed. -/
theorem prints_of_told (documented : machine.Documented python) {disk : StorageDevice}
    {report : SmartReport} (told : machine.TellsOf python disk report) : report.Prints := by
  obtain ⟨helper, -, stdout, -, data, loaded, -, rfl⟩ := told
  intro n member
  have printed {m : Int} (shown : m ∈ (reportOf disk.name data).pendingSectors ∨
      m ∈ (reportOf disk.name data).percentageUsed) : m.natAbs < 10 ^ maxStrDigits := by
    obtain ⟨path, found⟩ := exists_path_of_report shown
    exact documented.integers _ data path m loaded found
  have counted {count : Option Int} (printed : ∀ m ∈ count, m.natAbs < 10 ^ maxStrDigits) :
      (count.getD 0).natAbs < 10 ^ maxStrDigits := by
    cases count with
    | none => exact Nat.pow_pos (by decide)
    | some m => exact printed m rfl
  unfold SmartReport.warningNumber at member
  split_ifs at member
  · cases member
  · rw [← Option.some.inj member]
    exact counted fun m pending => printed (.inl pending)
  · rw [← Option.some.inj member]
    exact counted fun m used => printed (.inr used)
  · cases member

theorem fit_of_machine {inputs : Inputs} (documented : machine.Documented python)
    (decodes : machine.TableDecodes python)
    (inputsDone : inputsAlone (machine.sources python) requested = .ok inputs) : inputs.Fit := by
  obtain ⟨skipCode, listed, -, own, same⟩ := inputs_of_machine documented decodes requested
  obtain rfl := Except.ok.inj (inputsDone.symm.trans same)
  refine ⟨fun battery member => ?_, fun report found => ?_, fun usage member => ?_⟩
  · rw [Option.getD_some, listBatteries_eq] at member
    obtain ⟨name, -, rfl⟩ := List.mem_map.mp member
    exact divides_batteryWear documented.numerals machine.root name
  · have member := List.mem_of_find?_eq_some found
    cases requested with
    | false => cases member
    | true =>
      change report ∈ (machine.reports python).toOption.getD [] at member
      cases read : machine.reports python with
      | error e =>
        rw [read] at member
        cases member
      | ok reports =>
        rw [read] at member
        obtain ⟨disk, told⟩ := told_of_reports read member
        exact prints_of_told documented told
  · obtain ⟨path, stat, known, rfl⟩ := own usage member
    exact divides_usage (documented.blocks path stat known)

/-- A run ends as its sources do: the checks compute whatever they are handed. -/
theorem outcome_of_machine (documented : machine.Documented python) (requested : Bool) :
    Raising.outcome (machine.sources python) requested =
      runOutcome (machine.sources python) requested := by
  rw [Raising.outcome_eq, runOutcome_eq]
  cases inputsDone : inputsAlone (machine.sources python) requested with
  | error e => rfl
  | ok inputs =>
    have decodes := decodes_of_run documented (runOutcome_eq_ok_iff.mpr ⟨inputs, inputsDone, rfl⟩)
    obtain ⟨report, done⟩ := Raising.report_returns_iff.mpr
      (fit_of_machine documented decodes inputsDone)
    change Raising.report inputs = .ok inputs.report
    rw [done, Raising.eq_report done]

end DiagnosedMachine

open DiagnosedMachine

/-! ### A worn laptop -/

def wornFiles : List (RelPath × String) :=
  [(powerSupplyDir ++ ["BAT0", "type"], "Battery\n"),
    (powerSupplyDir ++ ["BAT0", "energy_full"], "30000000\n"),
    (powerSupplyDir ++ ["BAT0", "energy_full_design"], "50000000\n"),
    (hwmonDir ++ ["hwmon0", "temp1_input"], "96000\n"),
    (blockDir ++ ["sda", "size"], "1000215216\n"),
    (mountsFile, "/dev/sda2 / ext4 rw 0 0\n")]

def wornDirs : List (RelPath × Finset String) :=
  [(powerSupplyDir, {"BAT0"}), (hwmonDir, {"hwmon0"}), (hwmonDir ++ ["hwmon0"], {"temp1_input"}),
    (blockDir, {"sda"}), (blockDir ++ ["sda", "device"], ∅)]

/-- A laptop with a worn battery, a hot sensor, a healthy drive and little space, and an urgent
update in the library. -/
def wornLaptop : DiagnosedMachine where
  drives :=
    { root :=
        { content := fun path => (wornFiles.lookup path).map fun text => encode text.toList
          entries := fun dir => wornDirs.lookup dir }
      authorized := some { Helper.oneDrive with
        spawn := fun _ => .completed 0 (encode StorageSystem.healthyText.toList) } }
  library :=
    { devices := .ok [{ id := some "bios", name := some "System Firmware", updatable := true }]
      client :=
        { getDeviceById := fun deviceId => .ok { id := some deviceId }
          getUpgrades := fun _ => .ok [{ version := some "1.40", urgency := some "critical" }]
          installRelease := fun _ _ => .ok () } }
  statvfs _ := .ok ⟨4096, 1000, 70⟩

/-- An interpreter that reads numerals and one document, and knows no character by its name. -/
def wornPython : Interpreter where
  builtins := digitBuiltins
  loads := StorageSystem.healthyLoads
  isDecimal := Char.isDigit
  names _ := none

/-- The document has two objects and a `bool`, and no integer. -/
theorem healthy_notInt (path : List Json.Step) (n : Int) :
    (Json.Tree.obj [("smart_status", .obj [("passed", .bool true)])] : Loaded).get? path ≠
      some (.int n) := by
  intro found
  have only {name key : String} {inner node : Loaded}
      (member : [(name, inner)].lookup key = some node) : node = inner := by
    rw [List.lookup_cons] at member
    split at member
    · exact (Option.some.inj member).symm
    · cases member
  rcases path with _ | ⟨_ | _, _ | ⟨_ | _, rest⟩⟩
  · cases found
  · obtain ⟨node, member, below⟩ := Option.bind_eq_some_iff.mp found
    rw [only member] at below
    cases below
  · obtain ⟨node, member, below⟩ := Option.bind_eq_some_iff.mp found
    rw [only member] at below
    obtain ⟨node, member, below⟩ := Option.bind_eq_some_iff.mp below
    rw [only member] at below
    cases rest <;> cases below
  · obtain ⟨node, member, below⟩ := Option.bind_eq_some_iff.mp found
    rw [only member] at below
    cases below
  · cases found
  · cases found
  · cases found

theorem documented_wornLaptop : wornLaptop.Documented wornPython where
  loads _ out _ := by
    change (StorageSystem.healthyLoads out).Expected
    unfold StorageSystem.healthyLoads
    split_ifs <;> trivial
  statvfs _ _ _ _ _ same := nomatch same
  devices _ _ same := nomatch same
  upgrades _ _ _ same := nomatch same
  numerals := decimal_digitBuiltins
  integers out data path n loaded found := by
    change StorageSystem.healthyLoads out = _ at loaded
    unfold StorageSystem.healthyLoads at loaded
    split_ifs at loaded
    obtain rfl := Loads.value.inj loaded
    exact absurd found (healthy_notInt path n)
  blocks path stat same := by
    obtain rfl := Except.ok.inj same
    decide

theorem decodes_wornLaptop : wornLaptop.TableDecodes wornPython := by
  intro data content _
  obtain rfl : encode "/dev/sda2 / ext4 rw 0 0\n".toList = data := Option.some.inj content
  rw [decode_encode]
  exact (failure_readLines_eq_none_iff _ _).1 rfl

/-- The drive is told of. -/
theorem drives_wornLaptop : wornLaptop.DrivesReach wornPython .ok := by
  have names : wornLaptop.root.sortedNames blockDir = ["sda"] := by
    change ({"sda"} : Finset String).sort = _
    exact Finset.sort_singleton _ _
  have listing : listBlockDevices digitBuiltins wornLaptop.root =
      .ok [{ name := "sda", sizeBytes := some 512110190592 }] := by
    unfold listBlockDevices
    rw [names]
    decide +kernel
  have told : wornLaptop.TellsOf wornPython { name := "sda", sizeBytes := some 512110190592 }
      { deviceName := "sda", passed := some true } :=
    readSmart_ok_iff.mp (by decide +kernel)
  refine ⟨fun disk isDisk => ⟨{ deviceName := "sda", passed := some true }, ?_⟩, _, _, ?_, told,
    by decide⟩
  · obtain rfl := List.mem_singleton.mp ((mem_listDevices_iff listing disk).mpr isDisk)
    exact told
  · exact (mem_listDevices_iff listing _).mp (List.mem_singleton.mpr rfl)

theorem reaches_wornLaptop (source : Source) : wornLaptop.Reaches wornPython true .ok source := by
  cases source with
  | batteryWear =>
    exact ⟨"BAT0", by decide, by decide +kernel, .microWattHours, 30000000, 50000000, .inl rfl,
      by decide +kernel, by decide +kernel, by decide, by decide +kernel⟩
  | storage => exact ⟨rfl, drives_wornLaptop⟩
  | firmware =>
    refine ⟨_, rfl, fun device member => ?_, fun device _ _ => ⟨_, .upgrades rfl ?_⟩, .inl le_rfl⟩
    · obtain rfl := List.mem_singleton.mp member
      exact ⟨"bios", rfl, by decide⟩
    · intro release member
      obtain rfl := List.mem_singleton.mp member
      exact ⟨"1.40", rfl, by decide⟩
  | thermal =>
    exact ⟨96000, "hwmon0", "temp1_input", ⟨by decide, by decide, by decide, by decide +kernel⟩,
      by decide, by decide⟩
  | disk =>
    exact ⟨_, [("/dev/sda2".toList, "/".toList)], rfl, by decide, by decide +kernel,
      ("/dev/sda2".toList, "/".toList), _, by decide, rfl, by decide +kernel⟩

/-! ### Verdicts -/

/-- The checks of a run, by their sources. -/
def checked : List Source :=
  [.batteryWear, .storage, .firmware, .thermal, .disk]

theorem mem_checked (source : Source) : source ∈ checked := by
  cases source <;> simp [checked]

/-- The checks that are made, and those of whose sources the verdict reaches the least level. -/
theorem length_measuredResults_eq {inputs : Inputs} {holds : Source → Prop}
    (made : ∀ source, .ok ≤ (inputs.resultOf source).status ↔ holds source) :
    (measuredResults inputs.results).length = {source | holds source}.ncard := by
  have own : {source | holds source} =
      ↑(checked.filter fun source => (inputs.resultOf source).status ≠ .skipped).toFinset := by
    ext source
    have measured := (status_iff (inputs.resultOf source).status).2.2.2
    simp [mem_checked, ← made source, measured]
  have once : (checked.filter fun source =>
      (inputs.resultOf source).status ≠ .skipped).Nodup := by
    apply List.Nodup.filter
    decide
  have results : inputs.results = checked.map inputs.resultOf := rfl
  rw [own, Set.ncard_coe_finset, List.toFinset_card_of_nodup once, results, measuredResults,
    List.filter_map, List.length_map]
  rfl

theorem measuredResults_eq_nil_iff {inputs : Inputs} {holds : Source → Prop}
    (made : ∀ source, .ok ≤ (inputs.resultOf source).status ↔ holds source) :
    measuredResults inputs.results = [] ↔ ∀ source, ¬ holds source := by
  have skipped (source : Source) : (inputs.resultOf source).status = .skipped ↔ ¬ holds source := by
    rw [(status_iff _).2.2.2, made source]
  rw [measuredResults, List.filter_eq_nil_iff]
  constructor
  · intro none_ source
    have member := none_ _ (Inputs.mem_results_iff.mpr ⟨source, rfl⟩)
    exact (skipped source).mp (by simpa using member)
  · intro nowhere result member
    obtain ⟨source, rfl⟩ := Inputs.mem_results_iff.mp member
    simpa using (skipped source).mpr (nowhere source)

/-- A run on a machine whose mount table decodes makes as many checks as there are sources that
the machine shows anything of, out of five. There is no score exactly if there is no such source. -/
theorem machine_coverage (python : Interpreter) (machine : DiagnosedMachine)
    (documented : machine.Documented python) (decodes : machine.TableDecodes python)
    (requested : Bool) :
    ∃ report, Raising.outcome (machine.sources python) requested = .ok report ∧
      report.total = 5 ∧
      report.measured = {source | machine.Reaches python requested .ok source}.ncard ∧
      (report.score = none ↔ ∀ source, ¬ machine.Reaches python requested .ok source) := by
  obtain ⟨skipCode, listed, -, -, inputsDone⟩ := inputs_of_machine documented decodes requested
  rw [outcome_of_machine documented]
  refine ⟨_, runOutcome_eq_ok_iff.mpr ⟨_, inputsDone, rfl⟩, ?_⟩
  have made (source : Source) := le_resultOf_iff documented decodes inputsDone source
    (by decide : CheckStatus.skipped < .ok)
  have counted := length_measuredResults_eq made
  rw [Inputs.report, score_eq]
  refine ⟨rfl, counted, ?_⟩
  rw [← measuredResults_eq_nil_iff made, ite_eq_left_iff]
  simp

theorem machine_coverage_worn :
    ∃ report, Raising.outcome (wornLaptop.sources wornPython) true = .ok report ∧
      report.total = 5 ∧ report.measured = 5 ∧ report.score ≠ none := by
  obtain ⟨report, done, total, measured, score⟩ :=
    machine_coverage wornPython wornLaptop documented_wornLaptop decodes_wornLaptop true
  have every : {source | wornLaptop.Reaches wornPython true .ok source} =
      ↑(checked.toFinset) := by
    ext source
    simp [mem_checked, reaches_wornLaptop source]
  refine ⟨report, done, total, ?_, fun none_ => ?_⟩
  · rw [measured, every, Set.ncard_coe_finset]
    rfl
  · exact score.mp none_ .thermal (reaches_wornLaptop .thermal)

/-! ### The exported report -/

end Lapcare.Pages
