import Lapcare.Helper.Spawn

/-!
# The output protocol of the helper

A helper either reports, with the output of `smartctl` and nothing else, or refuses, with
one line on standard error and nothing else. It keeps to that except where Python itself
speaks for it, and where a text it quotes brings a line break along.
-/

namespace Lapcare.Helper

open Semantics Semantics.Logged

/-- The codes of the error channel. -/
def errorCodes : List String :=
  ["usage", "unknown-verb", "unknown-device", "tool-missing", "tool-timeout", "tool-failed",
    "output-invalid"]

/-- Success: the output of the completed child, byte for byte, and a silent error
channel. -/
def Reports (machine : Machine) (process : Process) : Prop :=
  process.exitCode = 0 ∧ process.stderr = "" ∧
    ∃ child ∈ children process.events, ∃ returncode,
      machine.spawn child = .completed returncode process.stdout

/-- Failure: nothing on standard output, and exactly one line with a known code. -/
def Refuses (process : Process) : Prop :=
  process.exitCode ≠ 0 ∧ process.stdout = [] ∧
    ∃ code ∈ errorCodes, ∃ detail,
      '\n' ∉ (errorLine code detail).toList ∧ process.stderr = errorLine code detail ++ "\n"

/-- The process ends in exactly one of the two ways. -/
def KeepsProtocol (machine : Machine) (process : Process) : Prop :=
  Xor (Reports machine process) (Refuses process)

theorem keepsProtocol_iff {machine : Machine} {process : Process} :
    KeepsProtocol machine process ↔ Reports machine process ∨ Refuses process := by
  have apart : ¬ (Reports machine process ∧ Refuses process) :=
    fun ⟨reports, refuses⟩ => refuses.1 reports.1
  rw [KeepsProtocol, Xor]
  tauto

/-! ### Lines without a line break -/

theorem newline_notMem_digits (n : ℕ) : '\n' ∉ (toString n).toList := by
  intro member
  have digits : (toString n).toList = Nat.toDigits 10 n := String.toList_ofList
  rw [digits] at member
  exact absurd (Nat.isDigit_of_mem_toDigits (by decide) (by decide) member) (by decide)

theorem newline_notMem_int (n : Int) : '\n' ∉ (toString n).toList := by
  cases n with
  | ofNat n => exact newline_notMem_digits n
  | negSucc n =>
    have digits : (toString (Int.negSucc n)).toList = '-' :: (toString (n + 1)).toList := by
      change ("-" ++ toString (n + 1)).toList = _
      rw [String.toList_append]
      rfl
    rw [digits, List.mem_cons]
    rintro (minus | member)
    · exact absurd minus (by decide)
    · exact newline_notMem_digits _ member

theorem errorLine_toList (code detail : String) :
    (errorLine code detail).toList =
      "lapcare-helper: ".toList ++ code.toList ++
        if detail = "" then [] else ": ".toList ++ detail.toList := by
  have text : errorLine code detail =
      "lapcare-helper: " ++ code ++ if detail = "" then "" else ": " ++ detail := rfl
  rw [text, String.toList_append, String.toList_append]
  split_ifs with silent
  · rfl
  · rw [String.toList_append]

/-- A known code and a detail on one line make one line. -/
theorem newline_mem_errorLine_iff {code : String} (known : code ∈ errorCodes)
    (detail : String) : '\n' ∈ (errorLine code detail).toList ↔ '\n' ∈ detail.toList := by
  have plain : '\n' ∉ "lapcare-helper: ".toList ++ code.toList := by
    revert code
    decide
  rw [errorLine_toList, List.mem_append, or_iff_right plain]
  split_ifs with silent
  · simp [silent]
  · rw [List.mem_append, or_iff_right (by decide)]

/-! ### How a process ends -/

/-- Nothing is written. -/
def Quiet (events : List HelperEvent) : Prop :=
  (∀ event ∈ events, event.stdout? = []) ∧ ∀ event ∈ events, event.stderr? = ""

theorem join_eq_empty {texts : List String} (empty : ∀ text ∈ texts, text = "") :
    String.join texts = "" := by
  induction texts with
  | nil => rfl
  | cons text rest ih =>
    have first := empty text List.mem_cons_self
    have others := ih fun other member => empty other (List.mem_cons_of_mem text member)
    rw [String.join_cons, first, others]
    rfl

theorem Quiet.stdout {events : List HelperEvent} (quiet : Quiet events) :
    (events.map (·.stdout?)).flatten = [] := by
  rw [List.flatten_eq_nil_iff]
  intro bytes member
  obtain ⟨event, among, rfl⟩ := List.mem_map.mp member
  exact quiet.1 event among

theorem Quiet.stderr {events : List HelperEvent} (quiet : Quiet events) :
    String.join (events.map (·.stderr?)) = "" := by
  refine join_eq_empty fun text member => ?_
  obtain ⟨event, among, rfl⟩ := List.mem_map.mp member
  exact quiet.2 event among

/-- What quiet events come before leaves no trace in the output. -/
theorem Quiet.stdout_append {events : List HelperEvent} (quiet : Quiet events)
    (more : List HelperEvent) :
    ((events ++ more).map (·.stdout?)).flatten = (more.map (·.stdout?)).flatten := by
  have silent := quiet.stdout
  simp only [List.map_append, List.flatten_append, silent, List.nil_append]

theorem Quiet.stderr_append {events : List HelperEvent} (quiet : Quiet events)
    (more : List HelperEvent) :
    String.join ((events ++ more).map (·.stderr?)) = String.join (more.map (·.stderr?)) := by
  have mute := quiet.stderr
  simp only [List.map_append, String.join_append, mute, String.empty_append]

theorem endProcess_refusal {events : List HelperEvent} (quiet : Quiet events)
    (code detail : String) :
    endProcess (.error (.systemExit 1)) (events ++ [refusal code detail]) =
      { exitCode := 1
        stdout := []
        stderr := errorLine code detail ++ "\n"
        events := events ++ [refusal code detail] } := by
  simp only [endProcess, quiet.stdout_append, quiet.stderr_append]
  simp [refusal, HelperEvent.stdout?, HelperEvent.stderr?]

/-- A line break inside the text makes more than one line of it. -/
theorem newline_notMem_of_append_eq {text line : String} (single : '\n' ∉ line.toList)
    (same : text ++ "\n" = line ++ "\n") : '\n' ∉ text.toList := by
  have chars := congrArg String.toList same
  rw [String.toList_append, String.toList_append] at chars
  rw [List.append_cancel_right chars]
  exact single

/-- A refusal keeps the protocol exactly when the text it quotes is free of line breaks. -/
theorem keepsProtocol_refusal_iff {machine : Machine} (events : List HelperEvent)
    (quiet : Quiet events) {code : String} (known : code ∈ errorCodes) (detail : String) :
    KeepsProtocol machine
        (endProcess (.error (.systemExit 1)) (events ++ [refusal code detail])) ↔
      '\n' ∉ detail.toList := by
  rw [keepsProtocol_iff, endProcess_refusal quiet, ← newline_mem_errorLine_iff known]
  constructor
  · rintro (⟨success, -⟩ | ⟨-, -, code', -, detail', single, same⟩)
    · exact absurd success Nat.one_ne_zero
    · exact newline_notMem_of_append_eq single same
  · intro single
    exact .inr ⟨Nat.one_ne_zero, rfl, code, known, detail, single, rfl⟩

/-- An exception that nothing catches speaks in more than one line. -/
theorem not_keepsProtocol_uncaught {machine : Machine} {events : List HelperEvent}
    (quiet : Quiet events) (className detail : String) :
    ¬ KeepsProtocol machine (endProcess (.error (.uncaught className detail)) events) := by
  rw [keepsProtocol_iff]
  rintro (⟨success, -⟩ | ⟨-, -, code, -, text, single, same⟩)
  · exact absurd success Nat.one_ne_zero
  · have spoken : (endProcess (.error (.uncaught className detail)) events).stderr =
        ("Traceback (most recent call last):\n" ++ className ++ ": " ++ detail) ++ "\n" := by
      rw [endProcess]
      simp only [quiet.stderr]
      rfl
    rw [spoken] at same
    refine newline_notMem_of_append_eq single same ?_
    simp [String.toList_append]

/-- A completed report keeps the protocol. -/
theorem keepsProtocol_report {machine : Machine} {node : String}
    {calls more : List HelperEvent} (quiet : Quiet calls)
    (report : ReportRun machine node (.ok ()) more) :
    KeepsProtocol machine (endProcess (.ok 0) (calls ++ more)) := by
  cases report with
  | report tool child fine bounded gate =>
    rename_i returncode stdout
    have written : (endProcess (.ok 0) (calls ++ [.access smartctl,
        .spawn (smartctlChild node), .stdout stdout])).stdout = stdout := by
      simp only [endProcess, quiet.stdout_append]
      simp [HelperEvent.stdout?]
    have silent : (endProcess (.ok 0) (calls ++ [.access smartctl,
        .spawn (smartctlChild node), .stdout stdout])).stderr = "" := by
      simp only [endProcess, quiet.stderr_append]
      simp [HelperEvent.stderr?]
    refine keepsProtocol_iff.mpr (.inl ⟨rfl, silent, smartctlChild node, ?_, returncode, ?_⟩)
    · rw [endProcess_events, children_append]
      exact List.mem_append_right _ List.mem_cons_self
    · rw [written]
      exact child

/-! ### When the protocol is kept -/

/-- The arguments ask for a report on `device`. -/
def Requested (argv : List String) (device : String) : Prop :=
  ∃ program, argv = [program, "smart-report", device]

/-- The helper gets as far as running `smartctl` on `device`. -/
structure Runs (machine : Machine) (argv : List String) (device : String) : Prop where
  listed : Listed machine argv device
  block : IsBlockDevice machine (deviceNodePath device)
  tool : machine.access smartctl = true

/-- The machine gives Python no occasion to speak for the helper, and no line break to
quote: the child of a run can be spawned, `json.loads` raises nothing but a
`ValueError`, and neither the reason that `/sys/block` cannot be listed nor the name of
an entry without a block device spans lines. -/
structure Orderly (machine : Machine) (argv : List String) : Prop where
  listing : ∀ device strerror, Requested argv device →
    machine.listdir "/sys/block" = .error strerror → '\n' ∉ strerror.toList
  named : ∀ device, Listed machine argv device →
    ¬ IsBlockDevice machine (deviceNodePath device) → '\n' ∉ device.toList
  spawned : ∀ device className strerror, Runs machine argv device →
    machine.spawn (smartctlChild (deviceNodePath device)) ≠ .osError className strerror
  loaded : ∀ device returncode stdout className detail, Runs machine argv device →
    machine.spawn (smartctlChild (deviceNodePath device)) = .completed returncode stdout →
    fatalReturncode returncode = false → stdout.length ≤ maxOutputBytes →
    machine.loads stdout ≠ .other className detail

theorem newline_notMem_append {first second : String} (plain : '\n' ∉ first.toList)
    (also_plain : '\n' ∉ second.toList) : '\n' ∉ (first ++ second).toList := by
  rw [String.toList_append, List.mem_append]
  exact not_or.mpr ⟨plain, also_plain⟩

theorem NodeRun.quiet {machine : Machine} {name node : String} {events : List HelperEvent}
    (run : NodeRun machine name (.ok node) events) : Quiet events := by
  cases run
  simp [Quiet, HelperEvent.stdout?, HelperEvent.stderr?]

theorem quiet_listing : Quiet [.listdir "/sys/block"] := by
  simp [Quiet, HelperEvent.stdout?, HelperEvent.stderr?]

theorem quiet_stat (path : String) : Quiet [.listdir "/sys/block", .stat path] := by
  simp [Quiet, HelperEvent.stdout?, HelperEvent.stderr?]

/-- Calls before and around the child write nothing. -/
theorem Quiet.access {events : List HelperEvent} (quiet : Quiet events) :
    Quiet (events ++ [.access smartctl]) := by
  constructor <;> intro event member <;> rcases List.mem_append.mp member with early | last
  · exact quiet.1 event early
  · obtain rfl := List.mem_singleton.mp last; rfl
  · exact quiet.2 event early
  · obtain rfl := List.mem_singleton.mp last; rfl

theorem Quiet.spawn {events : List HelperEvent} (quiet : Quiet events) (child : Child) :
    Quiet (events ++ [.access smartctl, .spawn child]) := by
  have both : events ++ [.access smartctl, .spawn child] =
      (events ++ [.access smartctl]) ++ [.spawn child] := by simp
  rw [both]
  constructor <;> intro event member <;> rcases List.mem_append.mp member with early | last
  · exact quiet.access.1 event early
  · obtain rfl := List.mem_singleton.mp last; rfl
  · exact quiet.access.2 event early
  · obtain rfl := List.mem_singleton.mp last; rfl

/-- On an orderly machine a refused device is refused in one line. -/
theorem keepsProtocol_refused {machine : Machine} {argv : List String}
    (orderly : Orderly machine argv) {device : String} (asked : Requested argv device)
    {e : HelperEnd} {events : List HelperEvent}
    (refused : NodeRun machine device (.error e) events) :
    KeepsProtocol machine (endProcess (.error e) events) := by
  cases refused with
  | unreadable listing =>
    refine (keepsProtocol_refusal_iff _ quiet_listing (by decide) _).mpr ?_
    -- the detail quotes the error of the listing
    exact newline_notMem_append (by decide) (orderly.listing device _ asked listing)
  | unlisted listing absent =>
    exact (keepsProtocol_refusal_iff _ quiet_listing (by decide) _).mpr (by decide)
  | noNode listing listed node =>
    refine (keepsProtocol_refusal_iff _ (quiet_stat _) (by decide) _).mpr ?_
    -- the detail quotes the name of the device
    have plain := orderly.named device ⟨asked, _, listing, listed⟩ (by
      rintro ⟨mode, found, -⟩
      rw [node] at found
      exact nomatch found)
    exact newline_notMem_append (by decide) plain
  | notBlock listing listed node other =>
    refine (keepsProtocol_refusal_iff _ (quiet_stat _) (by decide) _).mpr ?_
    have plain := orderly.named device ⟨asked, _, listing, listed⟩ (by
      rintro ⟨mode, found, block⟩
      rw [node] at found
      obtain rfl := Except.ok.inj found
      exact absurd block (by rw [other]; decide))
    exact newline_notMem_append (newline_notMem_append (by decide) plain) (by decide)

/-- On an orderly machine a report that cannot be given is refused in one line. -/
theorem keepsProtocol_ended {machine : Machine} {argv : List String}
    (orderly : Orderly machine argv) {device node : String} {e : HelperEnd}
    {events more : List HelperEvent} (asked : Requested argv device)
    (found : NodeRun machine device (.ok node) events)
    (ended : ReportRun machine node (.error e) more) :
    KeepsProtocol machine (endProcess (.error e) (events ++ more)) := by
  obtain ⟨rfl, listed, block⟩ := found.found
  have quiet := found.quiet
  -- the checks passed, so the machine is orderly about this child
  have runs (tool : machine.access smartctl = true) : Runs machine argv device :=
    ⟨⟨asked, listed⟩, block, tool⟩
  have refuses {calls : List HelperEvent} (quietCalls : Quiet (events ++ calls)) {code : String}
      (known : code ∈ errorCodes) {detail : String} (plain : '\n' ∉ detail.toList) :
      KeepsProtocol machine (endProcess (.error (.systemExit 1))
        (events ++ (calls ++ [refusal code detail]))) := by
    rw [← List.append_assoc]
    exact (keepsProtocol_refusal_iff _ quietCalls known detail).mpr plain
  cases ended with
  -- each refusal is one line after calls that print nothing
  | toolMissing tool => exact refuses quiet.access (by decide) (by decide)
  | notSpawned tool child => exact absurd child (orderly.spawned device _ _ (runs tool))
  | timedOut tool child => exact refuses (quiet.spawn _) (by decide) (by decide)
  | toolFailed tool child fatal =>
    refine refuses (quiet.spawn _) (by decide) ?_
    exact newline_notMem_append (by decide) (newline_notMem_int _)
  | tooLarge tool child fine large => exact refuses (quiet.spawn _) (by decide) (by decide)
  | notJson tool child fine bounded gate => exact refuses (quiet.spawn _) (by decide) (by decide)
  | notLoaded tool child fine bounded gate =>
    exact absurd gate (orderly.loaded device _ _ _ _ (runs tool) child fine
      (Nat.not_lt.mp bounded))

theorem keepsProtocol_of_orderly {machine : Machine} {argv : List String}
    (orderly : Orderly machine argv) {outcome : Except HelperEnd ℕ}
    {events : List HelperEvent} (run : MainRun machine argv outcome events) :
    KeepsProtocol machine (endProcess outcome events) := by
  cases run with
  | usage argc =>
    exact (keepsProtocol_refusal_iff [] (by simp [Quiet]) (by decide) _).mpr (by decide)
  | unknownVerb given other =>
    exact (keepsProtocol_refusal_iff [] (by simp [Quiet]) (by decide) _).mpr (by decide)
  | refused given refused => exact keepsProtocol_refused orderly ⟨_, given⟩ refused
  | ended given found ended => exact keepsProtocol_ended orderly ⟨_, given⟩ found ended
  | reported given found reported => exact keepsProtocol_report found.quiet reported

/-! ### Only then is it kept -/

/-- A requested run is a refused device, or a report on the node that was found. -/
theorem MainRun.of_requested {machine : Machine} {argv : List String} {device : String}
    (asked : Requested argv device) {outcome : Except HelperEnd ℕ} {events : List HelperEvent}
    (run : MainRun machine argv outcome events) :
    (∃ e, outcome = .error e ∧ NodeRun machine device (.error e) events) ∨
      ∃ node result calls more, NodeRun machine device (.ok node) calls ∧
        ReportRun machine node result more ∧ events = calls ++ more ∧
        outcome = result.map fun _ => 0 := by
  obtain ⟨program, rfl⟩ := asked
  cases run with
  -- three arguments and the one verb leave no usage error
  | usage argc => exact absurd rfl argc
  | unknownVerb given other =>
    simp only [List.cons.injEq] at given
    exact absurd given.2.1.symm other
  | refused given refused =>
    simp only [List.cons.injEq, and_true, true_and] at given
    obtain ⟨-, rfl⟩ := given
    exact .inl ⟨_, rfl, refused⟩
  | ended given found ended =>
    simp only [List.cons.injEq, and_true, true_and] at given
    obtain ⟨-, rfl⟩ := given
    exact .inr ⟨_, _, _, _, found, ended, rfl, rfl⟩
  | reported given found reported =>
    simp only [List.cons.injEq, and_true, true_and] at given
    obtain ⟨-, rfl⟩ := given
    exact .inr ⟨_, _, _, _, found, reported, rfl, rfl⟩

theorem newline_notMem_left {first second : String} (plain : '\n' ∉ (first ++ second).toList) :
    '\n' ∉ first.toList := by
  rw [String.toList_append, List.mem_append] at plain
  exact fun member => plain (.inl member)

theorem newline_notMem_right {first second : String} (plain : '\n' ∉ (first ++ second).toList) :
    '\n' ∉ second.toList := by
  rw [String.toList_append, List.mem_append] at plain
  exact fun member => plain (.inr member)

section Necessary

variable {machine : Machine} {argv : List String} {device : String}
  {outcome : Except HelperEnd ℕ} {events : List HelperEvent}

/-- The reason that `/sys/block` cannot be listed is quoted as it is. -/
theorem MainRun.listing_plain (run : MainRun machine argv outcome events)
    (keeps : KeepsProtocol machine (endProcess outcome events)) (asked : Requested argv device)
    {strerror : String} (failed : machine.listdir "/sys/block" = .error strerror) :
    '\n' ∉ strerror.toList := by
  rcases run.of_requested asked with ⟨e, rfl, refused⟩ | ⟨node, result, calls, more, found, -⟩
  · cases refused with
    | unreadable listing =>
      obtain rfl := Except.error.inj (listing.symm.trans failed)
      exact newline_notMem_right
        ((keepsProtocol_refusal_iff _ quiet_listing (by decide) _).mp keeps)
    | unlisted listing | noNode listing | notBlock listing =>
      exact nomatch listing.symm.trans failed
  · obtain ⟨-, ⟨present, listing, -⟩, -⟩ := found.found
    exact nomatch listing.symm.trans failed

/-- The name of an entry without a block device is quoted as it is. -/
theorem MainRun.name_plain (run : MainRun machine argv outcome events)
    (keeps : KeepsProtocol machine (endProcess outcome events))
    (entry : Listed machine argv device)
    (noBlock : ¬ IsBlockDevice machine (deviceNodePath device)) : '\n' ∉ device.toList := by
  obtain ⟨present, listing, listed⟩ := entry.listed
  rcases run.of_requested entry.given with
    ⟨e, rfl, refused⟩ | ⟨node, result, calls, more, found, -⟩
  · cases refused with
    | unreadable failed => exact nomatch listing.symm.trans failed
    | unlisted other absent =>
      obtain rfl := Except.ok.inj (listing.symm.trans other)
      exact absurd listed absent
    | noNode =>
      exact newline_notMem_right
        ((keepsProtocol_refusal_iff _ (quiet_stat _) (by decide) _).mp keeps)
    | notBlock =>
      have plain := (keepsProtocol_refusal_iff _ (quiet_stat _) (by decide) _).mp keeps
      exact newline_notMem_right (newline_notMem_left plain)
  · obtain ⟨rfl, -, block⟩ := found.found
    exact absurd block noBlock

/-- A requested run on a block device is a report on its node. -/
theorem MainRun.report_of_runs (run : MainRun machine argv outcome events)
    (runs : Runs machine argv device) :
    ∃ result calls more, Quiet calls ∧ ReportRun machine (deviceNodePath device) result more ∧
      events = calls ++ more ∧ outcome = result.map fun _ => 0 := by
  obtain ⟨present, listing, listed⟩ := runs.listed.listed
  obtain ⟨mode, stat, block⟩ := runs.block
  rcases run.of_requested runs.listed.given with
    ⟨e, rfl, refused⟩ | ⟨node, result, calls, more, found, report, rfl, rfl⟩
  · cases refused with
    | unreadable failed => exact nomatch listing.symm.trans failed
    | unlisted other absent =>
      obtain rfl := Except.ok.inj (listing.symm.trans other)
      exact absurd listed absent
    | noNode _ _ node => exact nomatch stat.symm.trans node
    | notBlock _ _ node other =>
      obtain rfl := Except.ok.inj (stat.symm.trans node)
      exact absurd block (by rw [other]; decide)
  · obtain ⟨rfl, -, -⟩ := found.found
    exact ⟨result, calls, more, found.quiet, report, rfl, rfl⟩

/-- Where nothing can be spawned, Python speaks. -/
theorem MainRun.spawned (run : MainRun machine argv outcome events)
    (keeps : KeepsProtocol machine (endProcess outcome events)) (runs : Runs machine argv device)
    {className strerror : String} :
    machine.spawn (smartctlChild (deviceNodePath device)) ≠ .osError className strerror := by
  intro failed
  obtain ⟨result, calls, more, quiet, report, rfl, rfl⟩ := run.report_of_runs runs
  cases report with
  | toolMissing tool => exact absurd runs.tool (by rw [tool]; decide)
  | notSpawned tool child =>
    exact not_keepsProtocol_uncaught (quiet.spawn _) _ _ keeps
  | timedOut tool child => exact nomatch child.symm.trans failed
  | toolFailed tool child | tooLarge tool child | notJson tool child | notLoaded tool child
  | report tool child => exact nomatch child.symm.trans failed

/-- Where `json.loads` raises something else than a `ValueError`, Python speaks. -/
theorem MainRun.loaded (run : MainRun machine argv outcome events)
    (keeps : KeepsProtocol machine (endProcess outcome events)) (runs : Runs machine argv device)
    {returncode : Int} {stdout : List UInt8} {className detail : String}
    (completed : machine.spawn (smartctlChild (deviceNodePath device)) =
      .completed returncode stdout)
    (fine : fatalReturncode returncode = false) (bounded : stdout.length ≤ maxOutputBytes) :
    machine.loads stdout ≠ .other className detail := by
  intro raised
  obtain ⟨result, calls, more, quiet, report, rfl, rfl⟩ := run.report_of_runs runs
  cases report with
  | toolMissing tool => exact absurd runs.tool (by rw [tool]; decide)
  | notSpawned tool child | timedOut tool child => exact nomatch child.symm.trans completed
  | toolFailed tool child fatal =>
    obtain ⟨rfl, rfl⟩ := ChildOutcome.completed.inj (child.symm.trans completed)
    exact absurd fatal (by rw [fine]; decide)
  | tooLarge tool child _ large =>
    obtain ⟨rfl, rfl⟩ := ChildOutcome.completed.inj (child.symm.trans completed)
    exact absurd bounded (Nat.not_le.mpr large)
  | notJson tool child _ _ gate | report tool child _ _ gate =>
    obtain ⟨rfl, rfl⟩ := ChildOutcome.completed.inj (child.symm.trans completed)
    exact nomatch gate.symm.trans raised
  | notLoaded tool child =>
    exact not_keepsProtocol_uncaught (quiet.spawn _) _ _ keeps

end Necessary

/-- The helper keeps its output protocol exactly on orderly machines. -/
theorem helper_protocol (machine : Machine) (argv : List String) :
    KeepsProtocol machine (process machine argv) ↔ Orderly machine argv := by
  obtain ⟨outcome, events, run, ends⟩ := process_run machine argv
  rw [ends]
  constructor
  · intro keeps
    exact
      { listing := fun device strerror asked failed => run.listing_plain keeps asked failed
        named := fun device entry noBlock => run.name_plain keeps entry noBlock
        spawned := fun device className strerror runs => run.spawned keeps runs
        loaded := fun device returncode stdout className detail runs completed fine bounded =>
          run.loaded keeps runs completed fine bounded }
  · exact fun orderly => keepsProtocol_of_orderly orderly run

/-- A drive whose `smartctl` passes the access check and then cannot be executed. -/
def brokenTool : Machine :=
  { oneDrive with
    spawn := fun _ => .osError "OSError" "[Errno 8] Exec format error: '/usr/sbin/smartctl'" }

/-- The uncaught exception breaks the protocol. -/
theorem helper_protocol_broken :
    ¬ KeepsProtocol brokenTool (process brokenTool ["lapcare-helper", "smart-report", "sda"]) := by
  have ends : process brokenTool ["lapcare-helper", "smart-report", "sda"] =
      endProcess (.error (.uncaught "OSError" _))
        ([.listdir "/sys/block", .stat "/dev/sda"] ++
          [.access smartctl, .spawn (smartctlChild "/dev/sda")]) := rfl
  rw [ends]
  exact not_keepsProtocol_uncaught ((quiet_stat _).spawn _) _ _

end Lapcare.Helper
