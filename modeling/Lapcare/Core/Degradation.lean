import Lapcare.Core.Diagnostics

/-!
# Per-source degradation and isolation of sources

Each gathering block of a run calls its own source only and reads that source's
answers only, so a run ends as if every block had run alone. Under the port
convention no block raises: its `except LapcareError` arm gives up the block's
accumulator, and the checks turn the missing input into a skipped result.
-/

namespace Lapcare.Core

open Semantics Semantics.Logged

/-! ### Blocks of one source -/

/-- A block that calls `source` only and depends on the answers of `source` only. -/
structure Block {α : Type} (source : Source) (m : Gather α) : Prop where
  logs : Logs (fun call => call.source = source) m
  own : Local (·.from? source) m

namespace Block

variable {α β : Type} {source : Source}

theorem pure (a : α) : Block source (pure a : Gather α) :=
  ⟨logs_pure a, local_pure a⟩

theorem throw (e : PyException) : Block source (throw e : Gather α) :=
  ⟨logs_throw e, local_throw e⟩

theorem ask {answer : List ProviderCall → Except PyException α}
    {entry : Except PyException α → ProviderCall}
    (mine : ∀ outcome, (entry outcome).source = source) :
    Block source (Core.ask source answer entry) :=
  ⟨logs_ask mine, local_ask⟩

theorem bind {m : Gather α} {next : α → Gather β} (first : Block source m)
    (rest : ∀ a, Block source (next a)) : Block source (m >>= next) :=
  ⟨first.logs.bind fun a => (rest a).logs, first.own.bind fun a => (rest a).own⟩

theorem map {m : Gather α} (f : α → β) (first : Block source m) : Block source (f <$> m) := by
  rw [← bind_pure_comp]
  exact first.bind fun a => pure (f a)

theorem tryCatch {m : Gather α} {handler : PyException → Gather α} (first : Block source m)
    (rest : ∀ e, Block source (handler e)) : Block source (tryCatch m handler) :=
  ⟨first.logs.tryCatch fun e => (rest e).logs, first.own.tryCatch fun e => (rest e).own⟩

theorem mapM {visit : α → Gather β} (each : ∀ a, Block source (visit a)) (xs : List α) :
    Block source (xs.mapM visit) :=
  ⟨logs_mapM (fun a => (each a).logs) xs, local_mapM (fun a => (each a).own) xs⟩

theorem orElse {m : Gather α} (first : Block source m) (fallback : α) :
    Block source (Core.orElse m fallback) :=
  first.tryCatch fun
    | .lapcare _ => pure fallback
    | .foreign _ _ => throw _

/-- A block leaves the entries of every other source as they were. -/
theorem filter_other {m : Gather α} (block : Block source m) {other : Source}
    (different : source ≠ other) (log : List ProviderCall) :
    (exec m log).2.filter (·.from? other) = log.filter (·.from? other) := by
  refine Logs.filter_eq (fun log => ?_) log
  obtain ⟨entries, appended, mine⟩ := block.logs log
  exact ⟨entries, appended, fun entry member =>
    ProviderCall.from?_eq_false_of_ne (mine entry member) different⟩

end Block

theorem block_listBatteries (provider : BatteryWearProvider) :
    Block .batteryWear provider.listBatteries :=
  Block.ask fun _ => rfl

theorem block_listDevices (provider : StorageProvider) : Block .storage provider.listDevices :=
  Block.ask fun _ => rfl

theorem block_readSmart (provider : StorageProvider) (name : String) :
    Block .storage (provider.readSmart name) :=
  Block.ask fun _ => rfl

theorem block_listFirmwareDevices (provider : FirmwareProvider) :
    Block .firmware provider.listDevices :=
  Block.ask fun _ => rfl

theorem block_listUpgrades (provider : FirmwareProvider) (id : String) :
    Block .firmware (provider.listUpgrades id) :=
  Block.ask fun _ => rfl

theorem block_listTemperatures (provider : ThermalProvider) :
    Block .thermal provider.listTemperatures :=
  Block.ask fun _ => rfl

theorem block_listUsage (provider : DiskUsageProvider) : Block .disk provider.listUsage :=
  Block.ask fun _ => rfl

theorem block_gatherWears : ∀ provider, Block .batteryWear (gatherWears provider)
  | none => Block.pure none
  | some provider => ((block_listBatteries provider).map some).orElse none

theorem block_readReports (provider : StorageProvider) :
    Block .storage (readReports provider) :=
  (block_listDevices provider).bind fun devices =>
    Block.mapM (fun device => block_readSmart provider device.name) devices

theorem block_gatherReports (includeStorageHealth : Bool) :
    ∀ provider, Block .storage (gatherReports includeStorageHealth provider)
  | none => Block.pure (none, "not-requested")
  | some provider => by
      cases includeStorageHealth with
      | false => exact Block.pure (none, "not-requested")
      | true =>
        refine Block.tryCatch ((block_readReports provider).map _) fun e => ?_
        rcases e with error | ⟨className, detail⟩
        · cases error <;> exact Block.pure _
        · exact Block.throw _

theorem block_readPending (provider : FirmwareProvider) :
    Block .firmware (readPending provider) :=
  (block_listFirmwareDevices provider).bind fun _ =>
    (Block.mapM (fun device : FirmwareDevice => block_listUpgrades provider device.id) _).bind
      fun _ => Block.pure _

theorem block_gatherPending : ∀ provider, Block .firmware (gatherPending provider)
  | none => Block.pure none
  | some provider => ((block_readPending provider).map some).orElse none

theorem block_gatherTemps : ∀ provider, Block .thermal (gatherTemps provider)
  | none => Block.pure none
  | some provider => ((block_listTemperatures provider).map some).orElse none

theorem block_gatherUsages : ∀ provider, Block .disk (gatherUsages provider)
  | none => Block.pure none
  | some provider => ((block_listUsage provider).map some).orElse none

/-! ### A run is its blocks, each alone -/

/-- Outcome of a block that starts before its source was called. -/
def alone {α : Type} (m : Gather α) : Except PyException α :=
  (exec m []).1

/-- No call of `sources` is on the log. -/
def Untouched (sources : List Source) (log : List ProviderCall) : Prop :=
  ∀ source ∈ sources, log.filter (·.from? source) = []

theorem untouched_nil (sources : List Source) : Untouched sources [] :=
  fun _ _ => rfl

/-- A block on an untouched source ends as it does alone, and touches no other source. -/
theorem Block.step {α : Type} {source : Source} {m : Gather α} (block : Block source m)
    {rest : List Source} {log : List ProviderCall} (fresh : Untouched (source :: rest) log)
    (apart : source ∉ rest) :
    (exec m log).1 = alone m ∧ Untouched rest (exec m log).2 := by
  refine ⟨block.own.alone (fresh source (by simp)), fun other member => ?_⟩
  have different : source ≠ other := fun same => apart (same ▸ member)
  rw [block.filter_other different]
  exact fresh other (List.mem_cons_of_mem _ member)

/-- What a run reports, from the outcome of each block alone. -/
def inputsAlone (sources : Sources) (includeStorageHealth : Bool) :
    Except PyException Inputs := do
  let wears ← alone (gatherWears sources.batteryWear)
  let (reports, storageSkip) ← alone (gatherReports includeStorageHealth sources.storage)
  let pending ← alone (gatherPending sources.firmware)
  let temps ← alone (gatherTemps sources.thermal)
  let usages ← alone (gatherUsages sources.disk)
  return { wears, reports, storageSkip, pending, temps, usages }

/-- Each source of a run answers as if it were the only one. -/
theorem gatherInputs_outcome (sources : Sources) (includeStorageHealth : Bool) :
    (exec (gatherInputs sources includeStorageHealth) []).1 =
      inputsAlone sources includeStorageHealth := by
  have wears := (block_gatherWears sources.batteryWear).step
    (untouched_nil [.batteryWear, .storage, .firmware, .thermal, .disk]) (by decide)
  have reports := (block_gatherReports includeStorageHealth sources.storage).step wears.2
    (by decide)
  have pending := (block_gatherPending sources.firmware).step reports.2 (by decide)
  have temps := (block_gatherTemps sources.thermal).step pending.2 (by decide)
  have usages := (block_gatherUsages sources.disk).step temps.2 (by decide)
  simp only [gatherInputs, inputsAlone, exec_bind_fst, wears.1, reports.1, pending.1, temps.1,
    usages.1, exec_pure]
  rfl

/-- How a run started on no calls ends. -/
def runOutcome (sources : Sources) (includeStorageHealth : Bool) :
    Except PyException DiagnosticsReport :=
  (exec (run sources includeStorageHealth) []).1

theorem runOutcome_eq (sources : Sources) (includeStorageHealth : Bool) :
    runOutcome sources includeStorageHealth =
      (inputsAlone sources includeStorageHealth).map Inputs.report := by
  rw [runOutcome, run, exec_map, gatherInputs_outcome]

/-! ### No block raises under the port convention -/

/-- Every present provider raises only the `LapcareError` hierarchy. -/
structure Sources.KeepConvention (sources : Sources) : Prop where
  batteryWear : ∀ provider, sources.batteryWear = some provider → provider.KeepsConvention
  storage : ∀ provider, sources.storage = some provider → provider.KeepsConvention
  firmware : ∀ provider, sources.firmware = some provider → provider.KeepsConvention
  thermal : ∀ provider, sources.thermal = some provider → provider.KeepsConvention
  disk : ∀ provider, sources.disk = some provider → provider.KeepsConvention

/-- Absent providers raise nothing. -/
theorem Sources.keepConvention_absent : ({} : Sources).KeepConvention where
  batteryWear _ absent := nomatch absent
  storage _ absent := nomatch absent
  firmware _ absent := nomatch absent
  thermal _ absent := nomatch absent
  disk _ absent := nomatch absent

/-- `except LapcareError` stops everything a provider may raise by convention. -/
theorem raises_orElse {α : Type} {m : Gather α} (fallback : α)
    (only : Raises PyException.IsLapcare m) : Raises (fun _ => False) (orElse m fallback) :=
  only.tryCatch fun
    | .lapcare _, _ => raises_pure fallback
    | .foreign _ _, impossible => impossible.elim

theorem raises_map {α β : Type} {p : PyException → Prop} {m : Gather α} (f : α → β)
    (only : Raises p m) : Raises p (f <$> m) := by
  rw [← bind_pure_comp]
  exact only.bind fun a => raises_pure (f a)

theorem alone_returns {α : Type} {m : Gather α} (nothing : Raises (fun _ => False) m) :
    ∃ a, alone m = .ok a :=
  nothing.returns []

theorem gatherWears_returns {provider : Option BatteryWearProvider}
    (keeps : ∀ p, provider = some p → p.KeepsConvention) :
    ∃ wears, alone (gatherWears provider) = .ok wears := by
  cases provider with
  | none => exact ⟨none, rfl⟩
  | some p =>
    exact alone_returns (raises_orElse none (raises_map some (raises_ask fun log e raised =>
      keeps p rfl log e raised)))

theorem raises_readReports {provider : StorageProvider} (keeps : provider.KeepsConvention) :
    Raises PyException.IsLapcare (readReports provider) :=
  (raises_ask fun log e raised => keeps.1 log e raised).bind fun devices =>
    raises_mapM (fun device => raises_ask fun log e raised => keeps.2 log device.name e raised)
      devices

theorem gatherReports_returns (includeStorageHealth : Bool) {provider : Option StorageProvider}
    (keeps : ∀ p, provider = some p → p.KeepsConvention) :
    ∃ gathered, alone (gatherReports includeStorageHealth provider) = .ok gathered := by
  cases provider with
  | none => exact ⟨_, rfl⟩
  | some p =>
    cases includeStorageHealth with
    | false => exact ⟨_, rfl⟩
    | true =>
      refine alone_returns (Raises.tryCatch (raises_map _ (raises_readReports (keeps p rfl)))
        fun e lapcare => ?_)
      rcases e with error | ⟨className, detail⟩
      · cases error <;> exact raises_pure _
      · exact lapcare.elim

theorem gatherPending_returns {provider : Option FirmwareProvider}
    (keeps : ∀ p, provider = some p → p.KeepsConvention) :
    ∃ pending, alone (gatherPending provider) = .ok pending := by
  cases provider with
  | none => exact ⟨none, rfl⟩
  | some p =>
    have loop : Raises PyException.IsLapcare (readPending p) :=
      (raises_ask fun log e raised => (keeps p rfl).1 log e raised).bind fun devices =>
        (raises_mapM (fun device => raises_ask fun log e raised =>
          (keeps p rfl).2 log device.id e raised) _).bind fun _ => raises_pure _
    exact alone_returns (raises_orElse none (raises_map some loop))

theorem gatherTemps_returns {provider : Option ThermalProvider}
    (keeps : ∀ p, provider = some p → p.KeepsConvention) :
    ∃ temps, alone (gatherTemps provider) = .ok temps := by
  cases provider with
  | none => exact ⟨none, rfl⟩
  | some p =>
    exact alone_returns (raises_orElse none (raises_map some (raises_ask fun log e raised =>
      keeps p rfl log e raised)))

theorem gatherUsages_returns {provider : Option DiskUsageProvider}
    (keeps : ∀ p, provider = some p → p.KeepsConvention) :
    ∃ usages, alone (gatherUsages provider) = .ok usages := by
  cases provider with
  | none => exact ⟨none, rfl⟩
  | some p =>
    exact alone_returns (raises_orElse none (raises_map some (raises_ask fun log e raised =>
      keeps p rfl log e raised)))

/-- Under the port convention every block returns, so the run does. -/
theorem inputsAlone_returns {sources : Sources} (keep : sources.KeepConvention)
    (includeStorageHealth : Bool) :
    ∃ inputs, inputsAlone sources includeStorageHealth = .ok inputs := by
  obtain ⟨wears, wearsDone⟩ := gatherWears_returns keep.batteryWear
  obtain ⟨gathered, reportsDone⟩ := gatherReports_returns includeStorageHealth keep.storage
  obtain ⟨pending, pendingDone⟩ := gatherPending_returns keep.firmware
  obtain ⟨temps, tempsDone⟩ := gatherTemps_returns keep.thermal
  obtain ⟨usages, usagesDone⟩ := gatherUsages_returns keep.disk
  rw [inputsAlone, wearsDone, reportsDone, pendingDone, tempsDone, usagesDone]
  exact ⟨_, rfl⟩

/-- The inputs of a run that returns are what the blocks return alone. -/
theorem inputsAlone_eq_ok_iff {sources : Sources} {includeStorageHealth : Bool}
    {inputs : Inputs} :
    inputsAlone sources includeStorageHealth = .ok inputs ↔
      alone (gatherWears sources.batteryWear) = .ok inputs.wears ∧
      alone (gatherReports includeStorageHealth sources.storage) =
        .ok (inputs.reports, inputs.storageSkip) ∧
      alone (gatherPending sources.firmware) = .ok inputs.pending ∧
      alone (gatherTemps sources.thermal) = .ok inputs.temps ∧
      alone (gatherUsages sources.disk) = .ok inputs.usages := by
  rw [inputsAlone]
  constructor
  · intro done
    rcases wears : alone (gatherWears sources.batteryWear) with e | a
    · rw [wears] at done; exact nomatch done
    rcases reports : alone (gatherReports includeStorageHealth sources.storage) with e | b
    · rw [wears, reports] at done; exact nomatch done
    rcases pending : alone (gatherPending sources.firmware) with e | c
    · rw [wears, reports, pending] at done; exact nomatch done
    rcases temps : alone (gatherTemps sources.thermal) with e | d
    · rw [wears, reports, pending, temps] at done; exact nomatch done
    rcases usages : alone (gatherUsages sources.disk) with e | f
    · rw [wears, reports, pending, temps, usages] at done; exact nomatch done
    rw [wears, reports, pending, temps, usages] at done
    obtain rfl := Except.ok.inj done
    exact ⟨rfl, rfl, rfl, rfl, rfl⟩
  · rintro ⟨wears, reports, pending, temps, usages⟩
    rw [wears, reports, pending, temps, usages]
    rfl

theorem runOutcome_eq_ok_iff {sources : Sources} {includeStorageHealth : Bool}
    {report : DiagnosticsReport} :
    runOutcome sources includeStorageHealth = .ok report ↔
      ∃ inputs, inputsAlone sources includeStorageHealth = .ok inputs ∧
        inputs.report = report := by
  rw [runOutcome_eq]
  rcases inputsAlone sources includeStorageHealth with e | inputs
  · simp [Except.map]
  · simp [Except.map]

/-! ### Skip codes -/

def skipCodes : List String := ["no-data", "unavailable", "declined", "not-requested"]

/-- A skipped result says why, a measured one has nothing to say. -/
structure Explained (result : DiagnosticResult) : Prop where
  skipped : result.status = .skipped → result.skipCode ∈ skipCodes
  measured : result.status ≠ .skipped → result.skipCode = ""

theorem explained_skipped {checkId skipCode : String} (known : skipCode ∈ skipCodes) :
    Explained (skippedResult checkId skipCode) :=
  ⟨fun _ => known, fun measured => (measured rfl).elim⟩

theorem explained_measured {result : DiagnosticResult} (measured : result.status ≠ .skipped)
    (silent : result.skipCode = "") : Explained result :=
  ⟨fun skipped => (measured skipped).elim, fun _ => silent⟩

theorem wearStatus_ne_skipped (worst : ℚ) :
    wearStatus (classifyWear (some worst)) ≠ .skipped := by
  rw [classifyWear]
  split_ifs <;> simp [wearStatus]

theorem explained_checkBatteryWear (wears : Option (List BatteryWear)) :
    Explained (checkBatteryWear wears) := by
  unfold checkBatteryWear
  split
  · exact explained_skipped (by decide)
  · exact explained_skipped (by decide)
  · split
    · exact explained_skipped (by decide)
    · exact explained_measured (wearStatus_ne_skipped _) rfl

theorem StorageScan.turn_status_ne_skipped {scan : StorageScan} (report : SmartReport)
    (measured : scan.status ≠ .skipped) : (scan.turn report).status ≠ .skipped := by
  have verdict : (scan.verdict report).status ≠ .skipped := by
    unfold StorageScan.verdict
    split <;> simp [measured]
  have pending : ((scan.verdict report).pending report).status ≠ .skipped := by
    unfold StorageScan.pending
    split
    · split_ifs <;> simp [verdict]
    · exact verdict
  unfold StorageScan.turn StorageScan.endurance
  split
  · split_ifs <;> simp [pending]
  · exact pending

theorem storageScan_status_ne_skipped (reports : List SmartReport) {scan : StorageScan}
    (measured : scan.status ≠ .skipped) :
    (reports.foldl StorageScan.turn scan).status ≠ .skipped := by
  induction reports generalizing scan with
  | nil => exact measured
  | cons report rest ih => exact ih (StorageScan.turn_status_ne_skipped report measured)

theorem explained_checkStorageHealth (reports : Option (List SmartReport)) {skipCode : String}
    (known : skipCode ∈ skipCodes) : Explained (checkStorageHealth reports skipCode) := by
  unfold checkStorageHealth
  split
  · exact explained_skipped known
  · exact explained_skipped (by decide)
  · exact explained_measured (storageScan_status_ne_skipped _ (by decide)) rfl

theorem explained_checkFirmwareCurrency (pending : Option (List FirmwareRelease)) :
    Explained (checkFirmwareCurrency pending) := by
  unfold checkFirmwareCurrency
  split
  · exact explained_skipped (by decide)
  · exact explained_measured (by decide) rfl
  · exact explained_measured (by dsimp only; split_ifs <;> decide) rfl

theorem explained_checkThermal (temps : Option (List TemperatureReading)) :
    Explained (checkThermal temps) := by
  unfold checkThermal
  split
  · exact explained_skipped (by decide)
  · split
    · exact explained_skipped (by decide)
    · refine explained_measured ?_ rfl
      dsimp only [thermalStatus]
      split_ifs <;> decide

theorem DiskScan.turn_status_ne_skipped {share : DiskUsage → ℚ} {scan : DiskScan}
    (usage : DiskUsage) (measured : scan.status ≠ .skipped) :
    (scan.turn share usage).status ≠ .skipped := by
  unfold DiskScan.turn
  split_ifs <;> simp [measured]

theorem diskScan_status_ne_skipped {share : DiskUsage → ℚ} (usages : List DiskUsage)
    {scan : DiskScan} (measured : scan.status ≠ .skipped) :
    (usages.foldl (DiskScan.turn share) scan).status ≠ .skipped := by
  induction usages generalizing scan with
  | nil => exact measured
  | cons usage rest ih => exact ih (DiskScan.turn_status_ne_skipped usage measured)

theorem explained_checkDiskSpace (usages : Option (List DiskUsage)) :
    Explained (checkDiskSpace usages) := by
  unfold checkDiskSpace checkDiskSpaceBy
  split
  · exact explained_skipped (by decide)
  · exact explained_skipped (by decide)
  · dsimp only
    split
    · exact explained_skipped (by decide)
    · exact explained_measured (diskScan_status_ne_skipped _ (by decide)) rfl

/-- The storage block says why it has no reports. -/
theorem gatherReports_skipCode (includeStorageHealth : Bool) (provider : Option StorageProvider)
    {reports : Option (List SmartReport)} {skipCode : String}
    (done : alone (gatherReports includeStorageHealth provider) = .ok (reports, skipCode)) :
    skipCode ∈ skipCodes := by
  have requested (p : StorageProvider) :
      ∀ gathered, alone (gatherReports true (some p)) = .ok gathered →
        gathered.2 ∈ skipCodes := by
    intro gathered done
    rw [alone, gatherReports, if_pos rfl, exec_tryCatch, exec_map] at done
    rcases read : exec (readReports p) [] with ⟨e | reports, later⟩
    · rw [read] at done
      -- one `except` arm for each skip code
      rcases e with error | ⟨className, detail⟩
      · cases error <;> · obtain rfl := Except.ok.inj done; decide
      · exact nomatch done
    · rw [read] at done
      have given : gathered = (some reports, "not-requested") := (Except.ok.inj done).symm
      rw [given]
      exact (by decide : "not-requested" ∈ skipCodes)
  cases provider with
  | none =>
    obtain ⟨-, rfl⟩ := Prod.mk.inj (Except.ok.inj done)
    decide
  | some p =>
    cases includeStorageHealth with
    | false =>
      obtain ⟨-, rfl⟩ := Prod.mk.inj (Except.ok.inj done)
      decide
    | true => exact requested p _ done

/-! ### The run -/

theorem checkBatteryWear_checkId (wears : Option (List BatteryWear)) :
    (checkBatteryWear wears).checkId = "battery-wear" := by
  unfold checkBatteryWear
  split
  · rfl
  · rfl
  · split <;> rfl

theorem checkStorageHealth_checkId (reports : Option (List SmartReport)) (skipCode : String) :
    (checkStorageHealth reports skipCode).checkId = "storage-health" := by
  unfold checkStorageHealth
  split <;> rfl

theorem checkFirmwareCurrency_checkId (pending : Option (List FirmwareRelease)) :
    (checkFirmwareCurrency pending).checkId = "firmware-currency" := by
  unfold checkFirmwareCurrency
  split <;> rfl

theorem checkThermal_checkId (temps : Option (List TemperatureReading)) :
    (checkThermal temps).checkId = "thermal" := by
  unfold checkThermal
  split
  · rfl
  · split <;> rfl

theorem checkDiskSpace_checkId (usages : Option (List DiskUsage)) :
    (checkDiskSpace usages).checkId = "disk-space" := by
  unfold checkDiskSpace checkDiskSpaceBy
  split
  · rfl
  · rfl
  · dsimp only
    split <;> rfl

/-- Five results, in the order of `checkIds`. -/
theorem Inputs.results_checkIds (inputs : Inputs) :
    inputs.results.map (·.checkId) = checkIds := by
  simp only [Inputs.results, List.map_cons, List.map_nil, checkBatteryWear_checkId,
    checkStorageHealth_checkId, checkFirmwareCurrency_checkId, checkThermal_checkId,
    checkDiskSpace_checkId, checkIds]

theorem Inputs.report_score (inputs : Inputs) :
    (inputs.report.score, inputs.report.measured, inputs.report.total) =
      Core.score inputs.report.results := rfl

/-- The check that a source feeds. -/
def Source.checkId : Source → String
  | .batteryWear => "battery-wear"
  | .storage => "storage-health"
  | .firmware => "firmware-currency"
  | .thermal => "thermal"
  | .disk => "disk-space"

/-- The results of the four checks that `source` does not feed. -/
def DiagnosticsReport.without (report : DiagnosticsReport) (source : Source) :
    List DiagnosticResult :=
  report.results.filter (·.checkId ≠ source.checkId)

/-- Two runs that differ in one provider only. -/
structure Sources.AgreeOff (source : Source) (first second : Sources) : Prop where
  batteryWear : source ≠ .batteryWear → first.batteryWear = second.batteryWear
  storage : source ≠ .storage → first.storage = second.storage
  firmware : source ≠ .firmware → first.firmware = second.firmware
  thermal : source ≠ .thermal → first.thermal = second.thermal
  disk : source ≠ .disk → first.disk = second.disk

/-- The four checks that `source` does not feed, on the inputs of a run. -/
theorem Inputs.without_report (inputs : Inputs) (source : Source) :
    inputs.report.without source =
      (if source = .batteryWear then [] else [checkBatteryWear inputs.wears]) ++
      (if source = .storage then []
        else [checkStorageHealth inputs.reports inputs.storageSkip]) ++
      (if source = .firmware then [] else [checkFirmwareCurrency inputs.pending]) ++
      (if source = .thermal then [] else [checkThermal inputs.temps]) ++
      (if source = .disk then [] else [checkDiskSpace inputs.usages]) := by
  have results : inputs.report.results = inputs.results := rfl
  rw [DiagnosticsReport.without, results, Inputs.results]
  cases source <;>
    simp [checkBatteryWear_checkId, checkStorageHealth_checkId, checkFirmwareCurrency_checkId,
      checkThermal_checkId, checkDiskSpace_checkId, Source.checkId]

/-- What one source answers reaches only the check it feeds. -/
theorem without_eq_of_agreeOff {source : Source} {first second : Sources}
    {includeStorageHealth : Bool} {left right : DiagnosticsReport}
    (agree : first.AgreeOff source second)
    (leftDone : runOutcome first includeStorageHealth = .ok left)
    (rightDone : runOutcome second includeStorageHealth = .ok right) :
    left.without source = right.without source := by
  obtain ⟨one, oneDone, rfl⟩ := runOutcome_eq_ok_iff.mp leftDone
  obtain ⟨two, twoDone, rfl⟩ := runOutcome_eq_ok_iff.mp rightDone
  obtain ⟨wears, reports, pending, temps, usages⟩ := inputsAlone_eq_ok_iff.mp oneDone
  obtain ⟨wears', reports', pending', temps', usages'⟩ := inputsAlone_eq_ok_iff.mp twoDone
  -- an input is the same on both sides unless it comes from the source left out
  have sameWears (off : source ≠ .batteryWear) : one.wears = two.wears := by
    rw [agree.batteryWear off, wears'] at wears
    exact (Except.ok.inj wears).symm
  have sameReports (off : source ≠ .storage) :
      (one.reports, one.storageSkip) = (two.reports, two.storageSkip) := by
    rw [agree.storage off, reports'] at reports
    exact (Except.ok.inj reports).symm
  have samePending (off : source ≠ .firmware) : one.pending = two.pending := by
    rw [agree.firmware off, pending'] at pending
    exact (Except.ok.inj pending).symm
  have sameTemps (off : source ≠ .thermal) : one.temps = two.temps := by
    rw [agree.thermal off, temps'] at temps
    exact (Except.ok.inj temps).symm
  have sameUsages (off : source ≠ .disk) : one.usages = two.usages := by
    rw [agree.disk off, usages'] at usages
    exact (Except.ok.inj usages).symm
  rw [Inputs.without_report, Inputs.without_report]
  -- check by check: the one left out is removed on both sides
  congr 1
  · congr 1
    · congr 1
      · congr 1
        · split_ifs with here
          · rfl
          · rw [sameWears here]
        · split_ifs with here
          · rfl
          · obtain ⟨same, sameSkip⟩ := Prod.mk.inj (sameReports here)
            rw [same, sameSkip]
      · split_ifs with here
        · rfl
        · rw [samePending here]
    · split_ifs with here
      · rfl
      · rw [sameTemps here]
  · split_ifs with here
    · rfl
    · rw [sameUsages here]

/-- Every result of a run is explained. -/
theorem explained_of_runOutcome {sources : Sources} {includeStorageHealth : Bool}
    {report : DiagnosticsReport} (done : runOutcome sources includeStorageHealth = .ok report) :
    ∀ result ∈ report.results, Explained result := by
  obtain ⟨inputs, inputsDone, rfl⟩ := runOutcome_eq_ok_iff.mp done
  have known := gatherReports_skipCode includeStorageHealth sources.storage
    (inputsAlone_eq_ok_iff.mp inputsDone).2.1
  have results : inputs.report.results = inputs.results := rfl
  intro result member
  rw [results] at member
  simp only [Inputs.results, List.mem_cons, List.not_mem_nil, or_false] at member
  -- one case for each of the five checks
  rcases member with rfl | rfl | rfl | rfl | rfl
  · exact explained_checkBatteryWear _
  · exact explained_checkStorageHealth _ known
  · exact explained_checkFirmwareCurrency _
  · exact explained_checkThermal _
  · exact explained_checkDiskSpace _

end Lapcare.Core
