import Lapcare.Helper.Program

/-!
# Every run of the helper

Each function of the helper has few ways to go. They are listed once, with the answers
that lead there and with all that the helper does on the way.
-/

namespace Lapcare.Helper

open Semantics Semantics.Logged

variable {machine : Machine}

/-- What `_fail` prints and how it ends. -/
def refusal (code detail : String) : HelperEvent :=
  .stderr (errorLine code detail ++ "\n")

/-- The ways of `_device_node`. -/
inductive NodeRun (machine : Machine) (name : String) :
    Except HelperEnd String → List HelperEvent → Prop
  | unreadable {strerror : String} (listing : machine.listdir "/sys/block" = .error strerror) :
      NodeRun machine name (.error (.systemExit 1))
        [.listdir "/sys/block",
          refusal "unknown-device" s!"cannot enumerate /sys/block: {strerror}"]
  | unlisted {present : List String} (listing : machine.listdir "/sys/block" = .ok present)
      (absent : name ∉ present) :
      NodeRun machine name (.error (.systemExit 1))
        [.listdir "/sys/block", refusal "unknown-device" ""]
  | noNode {present : List String} {strerror : String}
      (listing : machine.listdir "/sys/block" = .ok present) (listed : name ∈ present)
      (node : machine.stat (deviceNodePath name) = .error strerror) :
      NodeRun machine name (.error (.systemExit 1))
        [.listdir "/sys/block", .stat (deviceNodePath name),
          refusal "unknown-device" s!"no device node for {name}"]
  | notBlock {present : List String} {mode : ℕ}
      (listing : machine.listdir "/sys/block" = .ok present) (listed : name ∈ present)
      (node : machine.stat (deviceNodePath name) = .ok mode) (other : isBlk mode = false) :
      NodeRun machine name (.error (.systemExit 1))
        [.listdir "/sys/block", .stat (deviceNodePath name),
          refusal "unknown-device" s!"{deviceNodePath name} is not a block device"]
  | node {present : List String} {mode : ℕ}
      (listing : machine.listdir "/sys/block" = .ok present) (listed : name ∈ present)
      (node : machine.stat (deviceNodePath name) = .ok mode) (block : isBlk mode = true) :
      NodeRun machine name (.ok (deviceNodePath name))
        [.listdir "/sys/block", .stat (deviceNodePath name)]

/-- The ways of `_smart_report`. -/
inductive ReportRun (machine : Machine) (node : String) :
    Except HelperEnd Unit → List HelperEvent → Prop
  | toolMissing (tool : machine.access smartctl = false) :
      ReportRun machine node (.error (.systemExit 1))
        [.access smartctl, refusal "tool-missing" smartctl]
  | notSpawned {className strerror : String} (tool : machine.access smartctl = true)
      (child : machine.spawn (smartctlChild node) = .osError className strerror) :
      ReportRun machine node (.error (.uncaught className strerror))
        [.access smartctl, .spawn (smartctlChild node)]
  | timedOut (tool : machine.access smartctl = true)
      (child : machine.spawn (smartctlChild node) = .timeoutExpired) :
      ReportRun machine node (.error (.systemExit 1))
        [.access smartctl, .spawn (smartctlChild node),
          refusal "tool-timeout" s!"smartctl exceeded {toolTimeoutS}s"]
  | toolFailed {returncode : Int} {stdout : List UInt8} (tool : machine.access smartctl = true)
      (child : machine.spawn (smartctlChild node) = .completed returncode stdout)
      (fatal : fatalReturncode returncode = true) :
      ReportRun machine node (.error (.systemExit 1))
        [.access smartctl, .spawn (smartctlChild node),
          refusal "tool-failed" s!"smartctl exited {returncode}"]
  | tooLarge {returncode : Int} {stdout : List UInt8} (tool : machine.access smartctl = true)
      (child : machine.spawn (smartctlChild node) = .completed returncode stdout)
      (fine : fatalReturncode returncode = false) (large : maxOutputBytes < stdout.length) :
      ReportRun machine node (.error (.systemExit 1))
        [.access smartctl, .spawn (smartctlChild node),
          refusal "output-invalid" s!"output exceeds {maxOutputBytes} bytes"]
  | notJson {returncode : Int} {stdout : List UInt8} (tool : machine.access smartctl = true)
      (child : machine.spawn (smartctlChild node) = .completed returncode stdout)
      (fine : fatalReturncode returncode = false) (bounded : ¬ maxOutputBytes < stdout.length)
      (gate : machine.loads stdout = .valueError) :
      ReportRun machine node (.error (.systemExit 1))
        [.access smartctl, .spawn (smartctlChild node),
          refusal "output-invalid" "smartctl output is not JSON"]
  | notLoaded {returncode : Int} {stdout : List UInt8} {className detail : String}
      (tool : machine.access smartctl = true)
      (child : machine.spawn (smartctlChild node) = .completed returncode stdout)
      (fine : fatalReturncode returncode = false) (bounded : ¬ maxOutputBytes < stdout.length)
      (gate : machine.loads stdout = .other className detail) :
      ReportRun machine node (.error (.uncaught className detail))
        [.access smartctl, .spawn (smartctlChild node)]
  | report {returncode : Int} {stdout : List UInt8} (tool : machine.access smartctl = true)
      (child : machine.spawn (smartctlChild node) = .completed returncode stdout)
      (fine : fatalReturncode returncode = false) (bounded : ¬ maxOutputBytes < stdout.length)
      (gate : machine.loads stdout = .value) :
      ReportRun machine node (.ok ())
        [.access smartctl, .spawn (smartctlChild node), .stdout stdout]

/-- The ways of `main`. -/
inductive MainRun (machine : Machine) (argv : List String) :
    Except HelperEnd ℕ → List HelperEvent → Prop
  | usage (argc : argv.length ≠ 3) :
      MainRun machine argv (.error (.systemExit 1))
        [refusal "usage" "expected: lapcare-helper smart-report <device>"]
  | unknownVerb {program verb device : String} (given : argv = [program, verb, device])
      (other : verb ≠ "smart-report") :
      MainRun machine argv (.error (.systemExit 1)) [refusal "unknown-verb" ""]
  | refused {program device : String} {e : HelperEnd} {events : List HelperEvent}
      (given : argv = [program, "smart-report", device])
      (refused : NodeRun machine device (.error e) events) :
      MainRun machine argv (.error e) events
  | ended {program device node : String} {e : HelperEnd} {events more : List HelperEvent}
      (given : argv = [program, "smart-report", device])
      (found : NodeRun machine device (.ok node) events)
      (ended : ReportRun machine node (.error e) more) :
      MainRun machine argv (.error e) (events ++ more)
  | reported {program device node : String} {events more : List HelperEvent}
      (given : argv = [program, "smart-report", device])
      (found : NodeRun machine device (.ok node) events)
      (reported : ReportRun machine node (.ok ()) more) :
      MainRun machine argv (.ok 0) (events ++ more)

/-! ### There are no other ways -/

theorem traces_observe {α β : Type} {q : Except HelperEnd β → List HelperEvent → Prop}
    {event : HelperEvent} {answer : α} {next : α → Action β}
    (rest : Traces (fun outcome more => q outcome (event :: more)) (next answer)) :
    Traces q (observe event answer >>= next) := by
  intro log
  obtain ⟨more, appended, holds⟩ := rest (log ++ [event])
  rw [exec_bind_ok (exec_observe event answer log)]
  refine ⟨event :: more, ?_, holds⟩
  rw [appended, List.append_assoc, List.singleton_append]

theorem traces_fail {β : Type} {q : Except HelperEnd β → List HelperEvent → Prop}
    {code detail : String} (holds : q (.error (.systemExit 1)) [refusal code detail]) :
    Traces q (fail code detail) :=
  fun _ => ⟨[refusal code detail], rfl, holds⟩

theorem traces_throw {β : Type} {q : Except HelperEnd β → List HelperEvent → Prop}
    {e : HelperEnd} (holds : q (.error e) []) : Traces q (throw e : Action β) :=
  fun log => ⟨[], by simp, holds⟩

theorem traces_deviceNode (machine : Machine) (name : String) :
    Traces (NodeRun machine name) (deviceNode machine name) := by
  refine traces_observe ?_
  cases listing : machine.listdir "/sys/block" with
  | error strerror => exact traces_fail (.unreadable listing)
  | ok present =>
    dsimp only
    split_ifs with listed
    · refine traces_observe ?_
      cases node : machine.stat (deviceNodePath name) with
      | error strerror => exact traces_fail (.noNode listing listed node)
      | ok mode =>
        dsimp only
        split_ifs with block
        · exact traces_pure (.node listing listed node block)
        · exact traces_fail (.notBlock listing listed node (by simpa using block))
    · exact traces_fail (.unlisted listing listed)

theorem traces_smartReport (machine : Machine) (node : String) :
    Traces (ReportRun machine node) (smartReport machine node) := by
  refine traces_observe ?_
  cases tool : machine.access smartctl with
  | false => exact traces_fail (.toolMissing tool)
  | true =>
    rw [if_pos rfl]
    refine traces_observe ?_
    cases child : machine.spawn (smartctlChild node) with
    | osError className strerror => exact traces_throw (.notSpawned tool child)
    | timeoutExpired => exact traces_fail (.timedOut tool child)
    | completed returncode stdout =>
      dsimp only
      split_ifs with fatal large
      · exact traces_fail (.toolFailed tool child fatal)
      · exact traces_fail (.tooLarge tool child (by simpa using fatal) large)
      · have fine : fatalReturncode returncode = false := by simpa using fatal
        cases gate : machine.loads stdout with
        | value => exact fun log => ⟨[.stdout stdout], rfl, .report tool child fine large gate⟩
        | valueError => exact traces_fail (.notJson tool child fine large gate)
        | other className detail => exact traces_throw (.notLoaded tool child fine large gate)

theorem traces_main (machine : Machine) (argv : List String) :
    Traces (MainRun machine argv) (main machine argv) := by
  unfold main
  split
  case h_1 program verb device =>
    split_ifs with asked
    · subst asked
      -- the device is looked up first, and what it ends with is the run's end
      refine (traces_deviceNode machine device).bind
        (fun node => (traces_smartReport machine node).bind
          (fun _ => traces_pure (q := fun outcome more => outcome = .ok 0 ∧ more = []) ⟨rfl, rfl⟩)
          (r := fun outcome more =>
            (∃ e, outcome = .error e ∧ ReportRun machine node (.error e) more) ∨
              outcome = .ok 0 ∧ ReportRun machine node (.ok ()) more)
          (fun e more ended => .inl ⟨e, rfl, ended⟩) ?_)
        (fun e events refused => .refused rfl refused) ?_
      · rintro ⟨⟩ outcome more tail reported ⟨rfl, rfl⟩
        rw [List.append_nil]
        exact .inr ⟨rfl, reported⟩
      · rintro node outcome events more found (⟨e, rfl, ended⟩ | ⟨rfl, reported⟩)
        · exact .ended rfl found ended
        · exact .reported rfl found reported
    · exact traces_fail (.unknownVerb rfl asked)
  case h_2 other =>
    refine traces_fail (.usage fun argc => ?_)
    -- three arguments would have matched the pattern before
    obtain ⟨program, verb, device, rfl⟩ := List.length_eq_three.mp argc
    exact other program verb device rfl

theorem endProcess_events (outcome : Except HelperEnd ℕ) (events : List HelperEvent) :
    (endProcess outcome events).events = events := by
  rcases outcome with (code | ⟨className, detail⟩) | code <;> rfl

/-- A helper process is a run of `main` and its end. -/
theorem process_run (machine : Machine) (argv : List String) :
    ∃ outcome events, MainRun machine argv outcome events ∧
      process machine argv = endProcess outcome events := by
  obtain ⟨events, appended, run⟩ := traces_main machine argv []
  rw [List.nil_append] at appended
  exact ⟨_, events, run, by rw [process, appended]⟩

end Lapcare.Helper
