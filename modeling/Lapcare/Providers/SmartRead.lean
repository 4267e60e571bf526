import Lapcare.Providers.SmartErrors

/-!
# A SMART read from end to end

The client asks `pkexec`, `pkexec` runs the helper as root, the helper runs `smartctl`, and
what comes of it goes the same way back. A report that arrives is made of what `smartctl`
said of this block device, and every refusal arrives as the exception of its own code.

## Main results

* `smart_read_ok_iff` — when a report arrives, and which
* `smart_read_refused` — what arrives in its place
-/

namespace Lapcare.Providers

open Lapcare.Core Platform

/-- A host where the user authorizes the action: `pkexec` runs the program with its
arguments, and ends as the program does. -/
def authorizedHost (machine : Helper.Machine) : ToolHost where
  executable path := path = "/usr/bin/pkexec"
  spawn argv _ :=
    match argv with
    | _ :: command =>
        let child := Helper.process machine command
        .exited child.exitCode child.stdout (Text.encode child.stderr.toList)
    | [] => .osError "ValueError" "Program arguments must not be empty"

/-- The arguments that the helper gets. -/
def helperArgv (device : String) : List String :=
  [helperPath, "smart-report", device]

theorem requested_helperArgv (device : String) : Helper.Requested (helperArgv device) device :=
  ⟨helperPath, rfl⟩

/-- What the client makes of the output of a helper that reported. -/
def readOutput (loads : String → Loads) (deviceName out : String) :
    Except PyException SmartReport :=
  match loads out with
  | .value data =>
      if Loaded.isDict data then parseReport deviceName data
      else .error (.lapcare (.providerParseError storageSmartSource
        "helper output is not a JSON object"))
  | .valueError _ =>
      .error (.lapcare (.providerParseError storageSmartSource "helper output is not JSON"))
  | .other className detail => .error (.foreign className detail)

section Read

variable {loads : String → Loads} {machine : Helper.Machine} {device : String}

theorem executable_authorizedHost :
    (authorizedHost machine).executable "/usr/bin/pkexec" = true := rfl

theorem spawn_authorizedHost (machine : Helper.Machine) (device : String) :
    (authorizedHost machine).spawn ("/usr/bin/pkexec" :: helperArgv device) pkexecTimeoutS =
      .exited (Helper.process machine (helperArgv device)).exitCode
        (Helper.process machine (helperArgv device)).stdout
        (Text.encode (Helper.process machine (helperArgv device)).stderr.toList) := rfl

/-- A helper that fails, in whatever way, makes the read raise. -/
theorem readSmart_failed (failed : (Helper.process machine (helperArgv device)).exitCode ≠ 0) :
    ∃ error, readSmart loads (runTool (authorizedHost machine)) device =
      .error (.lapcare error) := by
  have nonzero : ((Helper.process machine (helperArgv device)).exitCode : Int) ≠ 0 := by
    exact_mod_cast failed
  have ran := runTool_pkexec_failed executable_authorizedHost
    (spawn_authorizedHost machine device) nonzero
  obtain ⟨error, translated, -⟩ := translateFailure_eq_ok
    (Helper.process machine (helperArgv device)).exitCode (stderrSnippet (Text.encode
      (Helper.process machine (helperArgv device)).stderr.toList))
  refine ⟨error, ?_⟩
  rw [readSmart, ← helperArgv, ran]
  change (translateFailure _ _ >>= fun error => throw (.lapcare error)) = _
  rw [translated]
  rfl

/-- A helper that reports hands its output to the parser. -/
theorem readSmart_reported {stdout : List UInt8}
    (exits : (Helper.process machine (helperArgv device)).exitCode = 0)
    (prints : (Helper.process machine (helperArgv device)).stdout = stdout)
    (bounded : stdout.length ≤ Helper.maxOutputBytes) :
    readSmart loads (runTool (authorizedHost machine)) device =
      readOutput loads device (String.ofList (Text.decode stdout)) := by
  have listed : allowedTools.lookup "pkexec" = some ["/usr/bin/pkexec"] := by decide
  have found : ["/usr/bin/pkexec"].find? (authorizedHost machine).executable =
      some "/usr/bin/pkexec" := List.find?_cons_of_pos rfl
  -- the helper's bound is half of the runner's
  have small : ¬ maxOutputBytes < stdout.length := by
    have twice : maxOutputBytes = 2 * Helper.maxOutputBytes := by decide
    omega
  have ran : runTool (authorizedHost machine) "pkexec" (helperArgv device) pkexecTimeoutS =
      .ok (String.ofList (Text.decode stdout)) := by
    simp only [runTool, listed, found, spawn_authorizedHost, exits, prints, if_neg small]
    rfl
  rw [readSmart, ← helperArgv, ran]
  rfl

/-- A refusal arrives as the exception of its code, whatever detail it has. -/
theorem readSmart_refusal {calls : List Helper.HelperEvent} (quiet : Helper.Quiet calls)
    {code detail : String} (known : code ∈ Helper.errorCodes)
    (ends : Helper.process machine (helperArgv device) =
      Helper.endProcess (.error (.systemExit 1)) (calls ++ [Helper.refusal code detail])) :
    readSmart loads (runTool (authorizedHost machine)) device =
      .error (.lapcare (errorOfCode code)) := by
  rw [Helper.endProcess_refusal quiet] at ends
  have exited := spawn_authorizedHost machine device
  rw [ends] at exited
  exact readSmart_of_code executable_authorizedHost exited (helperErrorCode_refused known detail)

/-! ### The ways of the helper -/

/-- An end that the interpreter reports, or a refusal. -/
theorem exitCode_ne_zero {e : Helper.HelperEnd} {events : List Helper.HelperEvent}
    (own : ∀ code, e = .systemExit code → code ≠ 0) :
    (Helper.endProcess (.error e) events).exitCode ≠ 0 := by
  cases e with
  | systemExit code => exact own code rfl
  | uncaught className detail => exact Nat.one_ne_zero

/-- Whatever ends a helper early, it does not exit with success. -/
theorem nodeRun_exit {e : Helper.HelperEnd} {events : List Helper.HelperEvent}
    (refused : Helper.NodeRun machine device (.error e) events) (code : ℕ)
    (exits : e = .systemExit code) : code ≠ 0 := by
  cases refused <;> cases exits <;> exact Nat.one_ne_zero

theorem reportRun_exit {node : String} {e : Helper.HelperEnd} {events : List Helper.HelperEvent}
    (ended : Helper.ReportRun machine node (.error e) events) (code : ℕ)
    (exits : e = .systemExit code) : code ≠ 0 := by
  cases ended <;> cases exits <;> exact Nat.one_ne_zero

/-- The device is an entry of `/sys/block`, and its node a block device. -/
def IsDevice (machine : Helper.Machine) (device : String) : Prop :=
  (∃ present, machine.listdir "/sys/block" = .ok present ∧ device ∈ present) ∧
    Helper.IsBlockDevice machine (Helper.deviceNodePath device)

/-- What is no device is refused with the one code for it. -/
theorem nodeRun_refusal {e : Helper.HelperEnd} {events : List Helper.HelperEvent}
    (refused : Helper.NodeRun machine device (.error e) events) :
    ¬ IsDevice machine device ∧ e = .systemExit 1 ∧ ∃ calls detail, Helper.Quiet calls ∧
      events = calls ++ [Helper.refusal "unknown-device" detail] := by
  cases refused with
  | unreadable listing =>
    refine ⟨?_, rfl, [_], _, Helper.quiet_listing, rfl⟩
    rintro ⟨⟨present, listed, -⟩, -⟩
    cases listing.symm.trans listed
  | unlisted listing absent =>
    refine ⟨?_, rfl, [_], _, Helper.quiet_listing, rfl⟩
    rintro ⟨⟨present, listed, member⟩, -⟩
    obtain rfl := Except.ok.inj (listing.symm.trans listed)
    exact absent member
  | noNode listing listed node =>
    refine ⟨?_, rfl, [_, _], _, Helper.quiet_stat _, rfl⟩
    rintro ⟨-, mode, found, -⟩
    cases node.symm.trans found
  | notBlock listing listed node other =>
    refine ⟨?_, rfl, [_, _], _, Helper.quiet_stat _, rfl⟩
    rintro ⟨-, mode, found, block⟩
    obtain rfl := Except.ok.inj (node.symm.trans found)
    exact absurd block (by rw [other]; decide)

/-- What `smartctl` said of the device, when the helper passes it on. -/
structure Reported (machine : Helper.Machine) (device : String) (stdout : List UInt8) : Prop where
  runs : Helper.Runs machine (helperArgv device) device
  child : ∃ returncode, machine.spawn (Helper.smartctlChild (Helper.deviceNodePath device)) =
    .completed returncode stdout ∧ Helper.fatalReturncode returncode = false
  bounded : stdout.length ≤ Helper.maxOutputBytes
  gate : machine.loads stdout = .value

/-- What the helper does when it gets as far as `smartctl`. -/
theorem process_of_runs (runs : Helper.Runs machine (helperArgv device) device) :
    ∃ result calls more, Helper.Quiet calls ∧
      Helper.ReportRun machine (Helper.deviceNodePath device) result more ∧
      Helper.process machine (helperArgv device) =
        Helper.endProcess (result.map fun _ => 0) (calls ++ more) := by
  obtain ⟨outcome, events, run, ends⟩ := Helper.process_run machine (helperArgv device)
  obtain ⟨result, calls, more, quiet, report, rfl, rfl⟩ := run.report_of_runs runs
  exact ⟨result, calls, more, quiet, report, ends⟩

/-- What is reported is all that is printed. -/
theorem process_report {calls : List Helper.HelperEvent} (quiet : Helper.Quiet calls)
    (node : String) (stdout : List UInt8) :
    (Helper.endProcess (.ok 0) (calls ++ [.access Helper.smartctl,
        .spawn (Helper.smartctlChild node), .stdout stdout])).exitCode = 0 ∧
      (Helper.endProcess (.ok 0) (calls ++ [.access Helper.smartctl,
        .spawn (Helper.smartctlChild node), .stdout stdout])).stdout = stdout := by
  refine ⟨rfl, ?_⟩
  simp only [Helper.endProcess, quiet.stdout_append]
  simp [Helper.HelperEvent.stdout?]

/-- What `smartctl` said is what the helper prints. -/
theorem Reported.process {stdout : List UInt8} (reported : Reported machine device stdout) :
    (Helper.process machine (helperArgv device)).exitCode = 0 ∧
      (Helper.process machine (helperArgv device)).stdout = stdout := by
  obtain ⟨returncode, completed, fine⟩ := reported.child
  obtain ⟨result, calls, more, quiet, report, ends⟩ := process_of_runs reported.runs
  rw [ends]
  cases report with
  | toolMissing tool => exact absurd reported.runs.tool (by rw [tool]; decide)
  | notSpawned tool child | timedOut tool child => cases child.symm.trans completed
  | toolFailed tool child fatal =>
    obtain ⟨rfl, rfl⟩ := Helper.ChildOutcome.completed.inj (child.symm.trans completed)
    exact absurd fatal (by rw [fine]; decide)
  | tooLarge tool child _ large =>
    obtain ⟨rfl, rfl⟩ := Helper.ChildOutcome.completed.inj (child.symm.trans completed)
    exact absurd reported.bounded (Nat.not_le.mpr large)
  | notJson tool child _ _ gate | notLoaded tool child _ _ gate =>
    obtain ⟨rfl, rfl⟩ := Helper.ChildOutcome.completed.inj (child.symm.trans completed)
    cases gate.symm.trans reported.gate
  | report tool child _ _ gate =>
    obtain ⟨rfl, rfl⟩ := Helper.ChildOutcome.completed.inj (child.symm.trans completed)
    exact process_report quiet _ _

/-- A helper that exits with success reported. -/
theorem reported_of_exit (exits : (Helper.process machine (helperArgv device)).exitCode = 0) :
    Reported machine device (Helper.process machine (helperArgv device)).stdout := by
  obtain ⟨outcome, events, run, ends⟩ := Helper.process_run machine (helperArgv device)
  rw [ends] at exits ⊢
  rcases run.of_requested (requested_helperArgv device) with ⟨e, rfl, refused⟩ |
    ⟨node, result, calls, more, found, report, rfl, rfl⟩
  · exact absurd exits (exitCode_ne_zero (nodeRun_exit refused))
  · obtain ⟨rfl, listed, block⟩ := found.found
    cases result with
    | error e => exact absurd exits (exitCode_ne_zero (reportRun_exit report))
    | ok done =>
      cases report with
      | @report returncode stdout tool child fine bounded gate =>
        have prints := (process_report found.quiet (Helper.deviceNodePath device) stdout).2
        change Reported machine device (Helper.endProcess (.ok 0) _).stdout
        rw [prints]
        exact ⟨⟨⟨requested_helperArgv device, listed⟩, block, tool⟩, ⟨_, child, fine⟩,
          Nat.not_lt.mp bounded, gate⟩

theorem readOutput_ok_iff {out : String} {report : SmartReport} :
    readOutput loads device out = .ok report ↔
      ∃ data, loads out = .value data ∧ Loaded.isDict data = true ∧
        report = reportOf device data := by
  unfold readOutput
  cases loads out with
  | value data =>
    dsimp only
    by_cases dict : Loaded.isDict data = true
    · rw [if_pos dict, parseReport_eq dict]
      constructor
      · intro same
        exact ⟨data, rfl, dict, (Except.ok.inj same).symm⟩
      · rintro ⟨other, same, -, rfl⟩
        cases same
        rfl
    · simp [dict]
  | valueError detail => simp
  | other className detail => simp

/-- What `smartctl` says of the device, when it makes this report. -/
def Told (loads : String → Loads) (machine : Helper.Machine) (device : String)
    (report : SmartReport) : Prop :=
  ∃ stdout, Reported machine device stdout ∧
    ∃ data, loads (String.ofList (Text.decode stdout)) = .value data ∧
      Loaded.isDict data = true ∧ report = reportOf device data

/-- A report that arrives is what `smartctl` says. -/
theorem reported_of_readSmart {report : SmartReport}
    (read : readSmart loads (runTool (authorizedHost machine)) device = .ok report) :
    Told loads machine device report := by
  by_cases exits : (Helper.process machine (helperArgv device)).exitCode = 0
  · have reported := reported_of_exit exits
    rw [readSmart_reported exits rfl reported.bounded] at read
    exact ⟨_, reported, readOutput_ok_iff.mp read⟩
  · obtain ⟨error, raised⟩ := readSmart_failed exits
    rw [raised] at read
    cases read

/-- What is reported is read as the client reads it. -/
theorem Reported.readSmart {stdout : List UInt8} (reported : Reported machine device stdout) :
    Providers.readSmart loads (runTool (authorizedHost machine)) device =
      readOutput loads device (String.ofList (Text.decode stdout)) := by
  obtain ⟨exits, prints⟩ := reported.process
  exact readSmart_reported exits prints reported.bounded

end Read

/-- A read brings a report exactly if `smartctl` ran as root on the block device of this
name, ended without a fatal bit, and printed an object; and the report is made of that
object. -/
theorem smart_read_ok_iff (loads : String → Loads) (machine : Helper.Machine) (device : String)
    (report : SmartReport) :
    readSmart loads (runTool (authorizedHost machine)) device = .ok report ↔
      ∃ stdout, Reported machine device stdout ∧
        ∃ data, loads (String.ofList (Text.decode stdout)) = .value data ∧
          Loaded.isDict data = true ∧ report = reportOf device data := by
  constructor
  · exact reported_of_readSmart
  · rintro ⟨stdout, reported, output⟩
    rw [reported.readSmart]
    exact readOutput_ok_iff.mpr output

/-! ### Refusals -/

/-- Why the helper refuses a request for a device, and with which code. -/
inductive RefusedWith (machine : Helper.Machine) (device : String) : String → Prop
  | unknownDevice (absent : ¬ IsDevice machine device) :
      RefusedWith machine device "unknown-device"
  | toolMissing (listed : Helper.Listed machine (helperArgv device) device)
      (block : Helper.IsBlockDevice machine (Helper.deviceNodePath device))
      (tool : machine.access Helper.smartctl = false) : RefusedWith machine device "tool-missing"
  | toolTimeout (runs : Helper.Runs machine (helperArgv device) device)
      (child : machine.spawn (Helper.smartctlChild (Helper.deviceNodePath device)) =
        .timeoutExpired) : RefusedWith machine device "tool-timeout"
  | toolFailed (runs : Helper.Runs machine (helperArgv device) device) {returncode : Int}
      {stdout : List UInt8}
      (child : machine.spawn (Helper.smartctlChild (Helper.deviceNodePath device)) =
        .completed returncode stdout)
      (fatal : Helper.fatalReturncode returncode = true) : RefusedWith machine device "tool-failed"
  | outputInvalid (runs : Helper.Runs machine (helperArgv device) device) {returncode : Int}
      {stdout : List UInt8}
      (child : machine.spawn (Helper.smartctlChild (Helper.deviceNodePath device)) =
        .completed returncode stdout)
      (fine : Helper.fatalReturncode returncode = false)
      (invalid : Helper.maxOutputBytes < stdout.length ∨ machine.loads stdout = .valueError) :
      RefusedWith machine device "output-invalid"

/-- How the helper ends that refuses. -/
def EndsRefusing (machine : Helper.Machine) (device code : String) : Prop :=
  ∃ calls detail, Helper.Quiet calls ∧ Helper.process machine (helperArgv device) =
    Helper.endProcess (.error (.systemExit 1)) (calls ++ [Helper.refusal code detail])

/-- Every end of a helper on an orderly machine: a report, or a refusal for its reason. -/
theorem helper_ends {machine : Helper.Machine} {device : String}
    (orderly : Helper.Orderly machine (helperArgv device)) :
    (∃ stdout, Reported machine device stdout) ∨
      ∃ code ∈ Helper.errorCodes, RefusedWith machine device code ∧
        EndsRefusing machine device code := by
  obtain ⟨outcome, events, run, ends⟩ := Helper.process_run machine (helperArgv device)
  rcases run.of_requested (requested_helperArgv device) with ⟨e, rfl, refused⟩ |
    ⟨node, result, calls, more, found, report, rfl, rfl⟩
  · obtain ⟨absent, rfl, calls, detail, quiet, rfl⟩ := nodeRun_refusal refused
    exact .inr ⟨_, by decide, .unknownDevice absent, calls, detail, quiet, ends⟩
  · obtain ⟨rfl, listed, block⟩ := found.found
    have quiet := found.quiet
    have listed : Helper.Listed machine (helperArgv device) device :=
      ⟨requested_helperArgv device, listed⟩
    cases report with
    | toolMissing tool =>
      exact .inr ⟨_, by decide, .toolMissing listed block tool, _, _, quiet.access, by
        rw [ends, List.append_assoc]; rfl⟩
    | notSpawned tool child => exact absurd child (orderly.spawned device _ _ ⟨listed, block, tool⟩)
    | timedOut tool child =>
      exact .inr ⟨_, by decide, .toolTimeout ⟨listed, block, tool⟩ child, _, _, quiet.spawn _, by
        rw [ends, List.append_assoc]; rfl⟩
    | toolFailed tool child fatal =>
      exact .inr ⟨_, by decide, .toolFailed ⟨listed, block, tool⟩ child fatal, _, _,
        quiet.spawn _, by rw [ends, List.append_assoc]; rfl⟩
    | tooLarge tool child fine large =>
      exact .inr ⟨_, by decide, .outputInvalid ⟨listed, block, tool⟩ child fine (.inl large), _, _,
        quiet.spawn _, by rw [ends, List.append_assoc]; rfl⟩
    | notJson tool child fine bounded gate =>
      exact .inr ⟨_, by decide, .outputInvalid ⟨listed, block, tool⟩ child fine (.inr gate), _, _,
        quiet.spawn _, by rw [ends, List.append_assoc]; rfl⟩
    | notLoaded tool child fine bounded gate =>
      exact absurd gate (orderly.loaded device _ _ _ _ ⟨listed, block, tool⟩ child fine
        (Nat.not_lt.mp bounded))
    | report tool child fine bounded gate =>
      exact .inl ⟨_, ⟨listed, block, tool⟩, ⟨_, child, fine⟩, Nat.not_lt.mp bounded, gate⟩

/-- On an orderly machine a read either hands the output of `smartctl` to the parser, or
raises the exception of the one code that the machine gives the helper reason for. -/
theorem smart_read_refused (loads : String → Loads) (machine : Helper.Machine) (device : String)
    (orderly : Helper.Orderly machine (helperArgv device)) :
    (∃ stdout, Reported machine device stdout ∧
      readSmart loads (runTool (authorizedHost machine)) device =
        readOutput loads device (String.ofList (Text.decode stdout))) ∨
    ∃ code ∈ Helper.errorCodes, RefusedWith machine device code ∧
      readSmart loads (runTool (authorizedHost machine)) device =
        .error (.lapcare (errorOfCode code)) := by
  rcases helper_ends orderly with ⟨stdout, reported⟩ | ⟨code, known, reason, ends⟩
  · exact .inl ⟨stdout, reported, reported.readSmart⟩
  · obtain ⟨calls, detail, quiet, ends⟩ := ends
    exact .inr ⟨code, known, reason, readSmart_refusal quiet known ends⟩

/-- A drive of which `smartctl` knows nothing. -/
theorem orderly_oneDrive (device : String) :
    Helper.Orderly Helper.oneDrive (helperArgv device) where
  listing _ _ _ failed := by cases failed
  named other entry noBlock := by
    refine absurd ⟨0o060660, rfl, ?_⟩ noBlock
    decide
  spawned _ _ _ _ := by simp [Helper.oneDrive]
  loaded _ _ _ _ _ _ _ _ _ := by simp [Helper.oneDrive]

/-- A device that is no entry of `/sys/block`. -/
theorem smart_read_refused_absent :
    let loads : String → Loads := fun _ => .valueError ""
    (∃ stdout, Reported Helper.oneDrive "sdz" stdout ∧
      readSmart loads (runTool (authorizedHost Helper.oneDrive)) "sdz" =
        readOutput loads "sdz" (String.ofList (Text.decode stdout))) ∨
    ∃ code ∈ Helper.errorCodes, RefusedWith Helper.oneDrive "sdz" code ∧
      readSmart loads (runTool (authorizedHost Helper.oneDrive)) "sdz" =
        .error (.lapcare (errorOfCode code)) :=
  smart_read_refused _ Helper.oneDrive "sdz" (orderly_oneDrive "sdz")

end Lapcare.Providers
