import Lapcare.Core.Verdicts
import Lapcare.Core.WorstVerdict
import Lapcare.Providers.PciUsb
import Lapcare.Providers.SystemFiles

/-!
# The temperature sensors

`HwmonSysfs` of `providers/hwmon.py`: the slots of the chips below `/sys/class/hwmon`. What a
slot reads is passed on as it is; a slot without an integer is passed over. Which readings
can be true at all is for the thermal check to say.

## Main results

* `thermal_verdict_iff` — the verdict of a run, in terms of the slots of the machine
* `thermal_slots_undisturbing` — slots without a plausible reading do not count
-/

namespace Lapcare.Providers

open Lapcare.Core Platform Semantics Text

def hwmonDir : RelPath := ["sys", "class", "hwmon"]

section Reading

-- the decimal digits of all scripts, which the pattern admits
variable (isDecimal : Char → Bool) (builtins : Builtins) (root : Root)

/-- `_TEMP_INPUT.match`, with its group. The `$` stands before a line feed that ends a name
as well. -/
def tempSlot (entry : List Char) : Option (List Char) := do
  let (slot, rest) ← many isDecimal (← after "temp".toList entry)
  if rest = "_input".toList ∨ rest = "_input\n".toList then some slot else none

/-- `read_str(chip_dir / "name") or chip_dir.name`. -/
def chipName (chipDir : String) : String :=
  match readStr (root.content (hwmonDir ++ [chipDir, "name"])) 65536 with
  | some [] | none => chipDir
  | some name => String.ofList name

/-- The body of the inner loop. -/
def readSlot (chipDir entry : String) : Option TemperatureReading := do
  let slot ← tempSlot isDecimal entry.toList
  let milli ← readInt builtins (root.content (hwmonDir ++ [chipDir, entry]))
  let label := "temp" ++ String.ofList slot ++ "_label"
  return {
    chip := chipName root chipDir
    label := (readStr (root.content (hwmonDir ++ [chipDir, label])) 65536).map String.ofList
    celsius := milli / 1000 }

/-- The body of the outer loop. A chip whose directory cannot be listed has no slots. -/
def readChip (chipDir : String) : List TemperatureReading :=
  (root.sortedNames (hwmonDir ++ [chipDir])).filterMap (readSlot isDecimal builtins root chipDir)

/-- `list_temperatures`. -/
def listTemperatures : List TemperatureReading :=
  (root.sortedNames hwmonDir).flatMap (readChip isDecimal builtins root)

/-- The provider on a machine that does not change. -/
def hwmonProvider : ThermalProvider where
  temperatures _ := .ok (listTemperatures isDecimal builtins root)

end Reading

example : tempSlot Char.isDigit "temp14_input".toList = some "14".toList := by decide

/-! ### The slots of a machine -/

section Slots

variable {isDecimal : Char → Bool} {builtins : Builtins} {root root' : Root}

/-- What the slot `entry` of a chip reads, where there is such a slot. -/
def slotAt (isDecimal : Char → Bool) (builtins : Builtins) (root : Root)
    (chipDir entry : String) : Option TemperatureReading :=
  if chipDir ∈ (root.entries hwmonDir).getD ∅ ∧
      entry ∈ (root.entries (hwmonDir ++ [chipDir])).getD ∅ then
    readSlot isDecimal builtins root chipDir entry
  else none

theorem mem_listTemperatures_iff {reading : TemperatureReading} :
    reading ∈ listTemperatures isDecimal builtins root ↔
      ∃ chipDir entry, slotAt isDecimal builtins root chipDir entry = some reading := by
  simp only [listTemperatures, readChip, List.mem_flatMap, List.mem_filterMap, Root.sortedNames,
    Finset.mem_sort, slotAt, Option.ite_none_right_eq_some]
  constructor
  · rintro ⟨chipDir, listed, entry, held, read⟩
    exact ⟨chipDir, entry, ⟨listed, held⟩, read⟩
  · rintro ⟨chipDir, entry, ⟨listed, held⟩, read⟩
    exact ⟨chipDir, listed, entry, held, read⟩

/-- A slot of the machine whose file holds an integer. -/
structure HasSlot (isDecimal : Char → Bool) (builtins : Builtins) (root : Root)
    (milli : Int) (chipDir entry : String) : Prop where
  chip : chipDir ∈ (root.entries hwmonDir).getD ∅
  held : entry ∈ (root.entries (hwmonDir ++ [chipDir])).getD ∅
  named : (tempSlot isDecimal entry.toList).isSome
  read : readInt builtins (root.content (hwmonDir ++ [chipDir, entry])) = some milli

/-- A slot reads a temperature exactly if its file holds the thousandfold. -/
theorem slotAt_celsius_iff {chipDir entry : String} {celsius : ℚ} :
    (∃ reading, slotAt isDecimal builtins root chipDir entry = some reading ∧
        reading.celsius = celsius) ↔
      ∃ milli : Int, HasSlot isDecimal builtins root milli chipDir entry ∧
        celsius = milli / 1000 := by
  constructor
  · rintro ⟨reading, found, rfl⟩
    obtain ⟨⟨listed, held⟩, read⟩ := Option.ite_none_right_eq_some.mp found
    obtain ⟨slot, named, rest⟩ := Option.bind_eq_some_iff.mp read
    obtain ⟨milli, value, made⟩ := Option.bind_eq_some_iff.mp rest
    cases made
    exact ⟨milli, ⟨listed, held, by rw [named]; rfl, value⟩, rfl⟩
  · rintro ⟨milli, slot, rfl⟩
    obtain ⟨digits, named⟩ := Option.isSome_iff_exists.mp slot.named
    rw [slotAt, if_pos ⟨slot.chip, slot.held⟩, readSlot, named, slot.read]
    exact ⟨_, rfl, rfl⟩

/-- A slot whose value is in a range of millidegrees. -/
def SlotBetween (isDecimal : Char → Bool) (builtins : Builtins) (root : Root)
    (low high : Int) : Prop :=
  ∃ milli chipDir entry, HasSlot isDecimal builtins root milli chipDir entry ∧
    low ≤ milli ∧ milli < high

/-- A range of degrees among the readings, and of millidegrees in the files. -/
theorem exists_reading_iff (holds : ℚ → Prop) {low high : Int}
    (range : ∀ milli : Int, holds (milli / 1000) ↔ low ≤ milli ∧ milli < high) :
    (∃ reading ∈ listTemperatures isDecimal builtins root, holds reading.celsius) ↔
      SlotBetween isDecimal builtins root low high := by
  constructor
  · rintro ⟨reading, member, holds⟩
    obtain ⟨chipDir, entry, found⟩ := mem_listTemperatures_iff.mp member
    obtain ⟨milli, slot, same⟩ := slotAt_celsius_iff.mp ⟨reading, found, rfl⟩
    exact ⟨milli, chipDir, entry, slot, (range milli).mp (same ▸ holds)⟩
  · rintro ⟨milli, chipDir, entry, slot, inside⟩
    obtain ⟨reading, found, same⟩ := slotAt_celsius_iff.mpr ⟨milli, slot, rfl⟩
    exact ⟨reading, mem_listTemperatures_iff.mpr ⟨chipDir, entry, found⟩,
      same ▸ (range milli).mpr inside⟩

/-! ### The verdict of a run -/

theorem isPlausible_iff {reading : TemperatureReading} : reading.isPlausible = true ↔
    plausibleMinC < reading.celsius ∧ reading.celsius < plausibleMaxC := by
  rw [TemperatureReading.isPlausible, Bool.and_eq_true, decide_eq_true_eq, decide_eq_true_eq]

/-- How severe a reading is on its own, in degrees. -/
theorem le_severity_iff (reading : TemperatureReading) :
    (.ok ≤ reading.severity ↔ plausibleMinC < reading.celsius ∧ reading.celsius < plausibleMaxC) ∧
    (.warning ≤ reading.severity ↔
      thermalWarnC ≤ reading.celsius ∧ reading.celsius < plausibleMaxC) ∧
    (.critical ≤ reading.severity ↔
      thermalCritC ≤ reading.celsius ∧ reading.celsius < plausibleMaxC) := by
  have limits : plausibleMinC < thermalWarnC ∧ thermalWarnC < thermalCritC := by
    constructor <;> norm_num [plausibleMinC, thermalWarnC, thermalCritC]
  unfold TemperatureReading.severity TemperatureReading.judged thermalStatus
  by_cases counts : reading.isPlausible = true
  · rw [if_pos counts]
    obtain ⟨above, below⟩ := isPlausible_iff.mp counts
    by_cases hot : thermalCritC ≤ reading.celsius
    · rw [if_pos hot]
      exact ⟨iff_of_true (by decide) ⟨above, below⟩,
        iff_of_true (by decide) ⟨limits.2.le.trans hot, below⟩, iff_of_true le_rfl ⟨hot, below⟩⟩
    rw [if_neg hot]
    by_cases warm : thermalWarnC ≤ reading.celsius
    · rw [if_pos warm]
      exact ⟨iff_of_true (by decide) ⟨above, below⟩, iff_of_true le_rfl ⟨warm, below⟩,
        iff_of_false (by decide) fun other => hot other.1⟩
    · rw [if_neg warm]
      exact ⟨iff_of_true le_rfl ⟨above, below⟩, iff_of_false (by decide) fun other => warm other.1,
        iff_of_false (by decide) fun other => hot other.1⟩
  · rw [if_neg counts]
    have outside := mt isPlausible_iff.mpr counts
    exact ⟨iff_of_false (by decide) outside,
      iff_of_false (by decide) fun other => outside ⟨limits.1.trans_le other.1, other.2⟩,
      iff_of_false (by decide) fun other =>
        outside ⟨(limits.1.trans limits.2).trans_le other.1, other.2⟩⟩

/-- A status is one of four, so it is told by the levels it reaches. -/
theorem status_iff (status : CheckStatus) :
    (status = .critical ↔ .critical ≤ status) ∧
    (status = .warning ↔ .warning ≤ status ∧ ¬ .critical ≤ status) ∧
    (status = .ok ↔ .ok ≤ status ∧ ¬ .warning ≤ status) ∧
    (status = .skipped ↔ ¬ .ok ≤ status) := by
  cases status <;> decide

/-- Degrees from a bound on are millidegrees from its thousandfold on. -/
theorem between_iff {bound : ℚ} {low : Int} (same : bound = low / 1000) (milli : Int) :
    bound ≤ (milli / 1000 : ℚ) ∧ (milli / 1000 : ℚ) < plausibleMaxC ↔
      low ≤ milli ∧ milli < 119000 := by
  have top : plausibleMaxC * 1000 = ((119000 : Int) : ℚ) := by norm_num [plausibleMaxC]
  rw [same, div_le_div_iff_of_pos_right (by norm_num), div_lt_iff₀ (by norm_num), top,
    Int.cast_le, Int.cast_lt]

/-- The levels that the verdict over the slots reaches. -/
theorem le_checkThermal_iff (isDecimal : Char → Bool) (builtins : Builtins) (root : Root) :
    let status := (checkThermal (some (listTemperatures isDecimal builtins root))).status
    (.ok ≤ status ↔ SlotBetween isDecimal builtins root 1001 119000) ∧
    (.warning ≤ status ↔ SlotBetween isDecimal builtins root 85000 119000) ∧
    (.critical ≤ status ↔ SlotBetween isDecimal builtins root 95000 119000) := by
  have reaches {level : CheckStatus} (above : .skipped < level) :=
    le_worst_iff TemperatureReading.severity .skipped above
      (listTemperatures isDecimal builtins root)
  dsimp only
  rw [checkThermal_status, reaches (by decide), reaches (by decide), reaches (by decide)]
  simp only [le_severity_iff]
  refine ⟨exists_reading_iff (fun c => plausibleMinC < c ∧ c < plausibleMaxC) fun milli => ?_,
    exists_reading_iff (fun c => thermalWarnC ≤ c ∧ c < plausibleMaxC) (between_iff ?_),
    exists_reading_iff (fun c => thermalCritC ≤ c ∧ c < plausibleMaxC) (between_iff ?_)⟩
  · -- one degree itself is not plausible
    have bottom : plausibleMinC * 1000 = ((1000 : Int) : ℚ) := by norm_num [plausibleMinC]
    have top : plausibleMaxC * 1000 = ((119000 : Int) : ℚ) := by norm_num [plausibleMaxC]
    rw [lt_div_iff₀ (by norm_num), div_lt_iff₀ (by norm_num), bottom, top, Int.cast_lt,
      Int.cast_lt]
    omega
  · norm_num [thermalWarnC]
  · norm_num [thermalCritC]

theorem runReports_thermal_iff {sources : Sources} (keep : sources.KeepConvention)
    (source : sources.thermal = some (hwmonProvider isDecimal builtins root))
    {includeStorageHealth : Bool} {holds : DiagnosticResult → Prop} :
    RunReports sources includeStorageHealth .thermal holds ↔
      holds (checkThermal (some (listTemperatures isDecimal builtins root))) := by
  obtain ⟨inputs, inputsDone⟩ := inputsAlone_returns keep includeStorageHealth
  have same := (inputsAlone_eq_ok_iff.mp inputsDone).2.2.2.1
  have gathered : alone (gatherTemps (some (hwmonProvider isDecimal builtins root))) =
      .ok (some (listTemperatures isDecimal builtins root)) := rfl
  rw [source, gathered] at same
  have temps : some (listTemperatures isDecimal builtins root) = inputs.temps :=
    Except.ok.inj same
  rw [runReports_iff inputsDone, Inputs.resultOf, temps]

/-- The thermal verdict of a diagnostics run on a machine. It is critical exactly if some
slot of some chip holds 95 degrees or more, below 119; a warning from 85 degrees on, where
none is critical; and there is none exactly if every slot is unreadable or holds a value
that no sensor means. -/
theorem thermal_verdict_iff (sources : Sources) (keep : sources.KeepConvention)
    (isDecimal : Char → Bool) (builtins : Builtins) (root : Root)
    (source : sources.thermal = some (hwmonProvider isDecimal builtins root))
    (includeStorageHealth : Bool) :
    let between := SlotBetween isDecimal builtins root
    let status (level : CheckStatus) :=
      RunReports sources includeStorageHealth .thermal (·.status = level)
    (status .critical ↔ between 95000 119000) ∧
    (status .warning ↔ between 85000 119000 ∧ ¬ between 95000 119000) ∧
    (status .ok ↔ between 1001 119000 ∧ ¬ between 85000 119000) ∧
    (status .skipped ↔ ¬ between 1001 119000) := by
  obtain ⟨some_, warm, hot⟩ := le_checkThermal_iff isDecimal builtins root
  obtain ⟨critical, warning, ok, skipped⟩ :=
    status_iff (checkThermal (some (listTemperatures isDecimal builtins root))).status
  simp only [runReports_thermal_iff keep source]
  rw [critical, warning, ok, skipped, some_, warm, hot]
  exact ⟨Iff.rfl, Iff.rfl, Iff.rfl, Iff.rfl⟩

/-! ### Slots that do not count -/

/-- A loop over parts of which some are empty. -/
theorem flatMap_eq_flatten {α β : Type} (parts : α → List β) (items : List α) :
    items.flatMap parts =
      (items.filterMap fun item =>
        if (parts item).isEmpty then none else some (parts item)).flatten := by
  induction items with
  | nil => rfl
  | cons item items ih =>
    rw [List.flatMap_cons, List.filterMap_cons, ih]
    cases (parts item) <;> rfl

/-- The plausible readings of a chip. -/
def plausibleOf (isDecimal : Char → Bool) (builtins : Builtins) (root : Root)
    (chipDir : String) : List TemperatureReading :=
  (readChip isDecimal builtins root chipDir).filter (·.isPlausible)

/-- What a slot reads, unless that is implausible. -/
def plausibleAt (isDecimal : Char → Bool) (builtins : Builtins) (root : Root)
    (chipDir entry : String) : Option TemperatureReading :=
  (slotAt isDecimal builtins root chipDir entry).filter (·.isPlausible)

theorem filter_listTemperatures :
    (listTemperatures isDecimal builtins root).filter (·.isPlausible) =
      (root.sortedNames hwmonDir).flatMap (plausibleOf isDecimal builtins root) := by
  rw [listTemperatures, List.filter_flatMap]
  rfl

/-- A chip that is listed has the plausible slots it has, and no other chip has any. -/
theorem filterMap_plausibleAt (root : Root) (chipDir : String) :
    (root.sortedNames (hwmonDir ++ [chipDir])).filterMap
        (plausibleAt isDecimal builtins root chipDir) =
      if chipDir ∈ (root.entries hwmonDir).getD ∅ then
        plausibleOf isDecimal builtins root chipDir else [] := by
  by_cases listed : chipDir ∈ (root.entries hwmonDir).getD ∅
  · rw [if_pos listed, plausibleOf, readChip, List.filter_filterMap]
    apply List.filterMap_congr
    intro entry member
    have held : entry ∈ (root.entries (hwmonDir ++ [chipDir])).getD ∅ :=
      (Finset.mem_sort (· ≤ ·)).mp member
    rw [plausibleAt, slotAt, if_pos ⟨listed, held⟩]
  · rw [if_neg listed, List.filterMap_eq_nil_iff]
    intro entry _
    rw [plausibleAt, slotAt, if_neg fun both => listed both.1]
    rfl

/-- The chips of two machines that agree on their plausible slots. -/
theorem plausibleOf_congr {chipDir : String}
    (same : ∀ entry, plausibleAt isDecimal builtins root chipDir entry =
      plausibleAt isDecimal builtins root' chipDir entry) :
    (if chipDir ∈ (root.entries hwmonDir).getD ∅ then
        plausibleOf isDecimal builtins root chipDir else []) =
      if chipDir ∈ (root'.entries hwmonDir).getD ∅ then
        plausibleOf isDecimal builtins root' chipDir else [] := by
  have only (root : Root) (entry : String) :
      (if entry ∈ (root.entries (hwmonDir ++ [chipDir])).getD ∅ then
        plausibleAt isDecimal builtins root chipDir entry else none) =
      plausibleAt isDecimal builtins root chipDir entry := by
    split_ifs with held
    · rfl
    · rw [plausibleAt, slotAt, if_neg fun both => held both.2]
      rfl
  rw [← filterMap_plausibleAt, ← filterMap_plausibleAt]
  refine filterMap_sort_congr fun entry => ?_
  rw [only root, only root', same]

/-- Machines that agree on their plausible slots have the same plausible readings. -/
theorem filter_listTemperatures_congr
    (same : ∀ chipDir entry, plausibleAt isDecimal builtins root chipDir entry =
      plausibleAt isDecimal builtins root' chipDir entry) :
    (listTemperatures isDecimal builtins root).filter (·.isPlausible) =
      (listTemperatures isDecimal builtins root').filter (·.isPlausible) := by
  rw [filter_listTemperatures, filter_listTemperatures, flatMap_eq_flatten, flatMap_eq_flatten]
  congr 1
  refine filterMap_sort_congr fun chipDir => ?_
  have chip := plausibleOf_congr (same chipDir)
  -- a chip that is not listed is as good as one without plausible slots
  split_ifs at chip ⊢ <;> simp_all

/-- Slots that hold no plausible value, whatever else is on the machine, change nothing of
what a run reports. -/
theorem thermal_slots_undisturbing (sources : Sources) (includeStorageHealth : Bool)
    (isDecimal : Char → Bool) (builtins : Builtins) (root root' : Root)
    (same : ∀ chipDir entry, plausibleAt isDecimal builtins root chipDir entry =
      plausibleAt isDecimal builtins root' chipDir entry) :
    runOutcome { sources with thermal := some (hwmonProvider isDecimal builtins root) }
        includeStorageHealth =
      runOutcome { sources with thermal := some (hwmonProvider isDecimal builtins root') }
        includeStorageHealth := by
  have check : checkThermal (some (listTemperatures isDecimal builtins root)) =
      checkThermal (some (listTemperatures isDecimal builtins root')) := by
    simp only [checkThermal, filter_listTemperatures_congr same]
  have gathered (root : Root) : alone (gatherTemps (some (hwmonProvider isDecimal builtins root))) =
      .ok (some (listTemperatures isDecimal builtins root)) := rfl
  rw [runOutcome_eq, runOutcome_eq, inputsAlone, inputsAlone]
  dsimp only
  rw [gathered, gathered]
  -- the other sources answer alike, or the run raises alike
  cases alone (gatherWears sources.batteryWear) with
  | error e => rfl
  | ok wears =>
    cases alone (gatherReports includeStorageHealth sources.storage) with
    | error e => rfl
    | ok reports =>
      cases alone (gatherPending sources.firmware) with
      | error e => rfl
      | ok pending =>
        cases alone (gatherUsages sources.disk) with
        | error e => rfl
        | ok usages =>
          refine congrArg Except.ok ?_
          simp only [Inputs.report, Inputs.results, check]

end Slots

/-! ### Two machines -/

/-- One chip with one slot. -/
def oneSlot (entry : String) (content : Option (List UInt8)) : Root where
  content path := if path = hwmonDir ++ ["hwmon0", entry] then content else none
  entries dir :=
    if dir = hwmonDir then some {"hwmon0"}
    else if dir = hwmonDir ++ ["hwmon0"] then some {entry}
    else none

theorem thermal_verdict_iff_hot :
    let root := oneSlot "temp1_input" (some "96000".toUTF8.toList)
    let sources : Sources := { thermal := some (hwmonProvider Char.isDigit digitBuiltins root) }
    let between := SlotBetween Char.isDigit digitBuiltins root
    let status (level : CheckStatus) := RunReports sources false .thermal (·.status = level)
    (status .critical ↔ between 95000 119000) ∧
    (status .warning ↔ between 85000 119000 ∧ ¬ between 95000 119000) ∧
    (status .ok ↔ between 1001 119000 ∧ ¬ between 85000 119000) ∧
    (status .skipped ↔ ¬ between 1001 119000) := by
  have keep : Sources.KeepConvention { thermal := some (hwmonProvider Char.isDigit digitBuiltins
      (oneSlot "temp1_input" (some "96000".toUTF8.toList))) } := by
    refine { Sources.keepConvention_absent with thermal := ?_ }
    intro provider same
    obtain rfl := Option.some.inj same
    exact fun _ => onlyLapcare_ok _
  exact thermal_verdict_iff _ keep Char.isDigit digitBuiltins _ rfl false

/-- A slot at 45 degrees. -/
def warmSlot : Root :=
  oneSlot "temp1_input" (some (encode "45000\n".toList))

/-- The same chip, with a slot of the embedded controller that cannot be read. -/
def besideUnread : Root where
  content := warmSlot.content
  entries dir :=
    if dir = hwmonDir then some {"hwmon0"}
    else if dir = hwmonDir ++ ["hwmon0"] then some {"temp1_input", "temp8_input"}
    else none

theorem thermal_slots_undisturbing_unread :
    (plausibleAt Char.isDigit digitBuiltins warmSlot "hwmon0" "temp1_input").isSome = true ∧
    "temp8_input" ∈ (besideUnread.entries (hwmonDir ++ ["hwmon0"])).getD ∅ ∧
    runOutcome { thermal := some (hwmonProvider Char.isDigit digitBuiltins warmSlot) } false =
      runOutcome { thermal := some (hwmonProvider Char.isDigit digitBuiltins besideUnread) }
        false := by
  refine ⟨by decide +kernel, by decide, ?_⟩
  apply thermal_slots_undisturbing {}
  intro chipDir entry
  by_cases added : entry = "temp8_input"
  · -- the slot that is added has no content, and so it reads nothing
    subst added
    have unread (root : Root) (same : root.content = warmSlot.content) :
        plausibleAt Char.isDigit digitBuiltins root chipDir "temp8_input" = none := by
      have empty : root.content (hwmonDir ++ [chipDir, "temp8_input"]) = none := by
        rw [same]
        simp [warmSlot, oneSlot]
      rw [plausibleAt, slotAt, readSlot, empty]
      split_ifs <;> rfl
    rw [unread warmSlot rfl, unread besideUnread rfl]
  · have held : entry ∈ (warmSlot.entries (hwmonDir ++ [chipDir])).getD ∅ ↔
        entry ∈ (besideUnread.entries (hwmonDir ++ [chipDir])).getD ∅ := by
      by_cases here : chipDir = "hwmon0"
      · subst here
        change entry ∈ ({"temp1_input"} : Finset String) ↔
          entry ∈ ({"temp1_input", "temp8_input"} : Finset String)
        simp [added]
      · simp [warmSlot, oneSlot, besideUnread, here, hwmonDir]
    have chips : warmSlot.entries hwmonDir = besideUnread.entries hwmonDir := rfl
    rw [plausibleAt, plausibleAt, slotAt, slotAt, chips]
    simp only [held]
    rfl

end Lapcare.Providers
