import Lapcare.Helper.Protocol

/-!
# What the helper says of arguments it rejects

A request is rejected in one of three stages: by the number of its arguments, by its verb,
or by a device that is not an entry of `/sys/block`. What is printed depends on the stage
and on the machine, and on no argument.
-/

namespace Lapcare.Helper

/-- The stages in which arguments are rejected. -/
inductive Stage
  | usage
  | verb
  | device

/-- The stage rejects these arguments. No device is in a listing that cannot be read. -/
inductive RejectedIn (machine : Machine) : Stage → List String → Prop
  | usage {argv : List String} (argc : argv.length ≠ 3) : RejectedIn machine .usage argv
  | verb {program verb device : String} (other : verb ≠ "smart-report") :
      RejectedIn machine .verb [program, verb, device]
  | device {program device : String}
      (absent : ∀ present, machine.listdir "/sys/block" = .ok present → device ∉ present) :
      RejectedIn machine .device [program, "smart-report", device]

/-- What the caller of a helper sees. -/
structure Seen where
  stdout : List UInt8
  stderr : String
  exitCode : ℕ
  deriving DecidableEq

def Process.seen (process : Process) : Seen :=
  ⟨process.stdout, process.stderr, process.exitCode⟩

/-- The code and the detail of a rejection. -/
def Stage.refusal (machine : Machine) : Stage → String × String
  | .usage => ("usage", "expected: lapcare-helper smart-report <device>")
  | .verb => ("unknown-verb", "")
  | .device =>
      match machine.listdir "/sys/block" with
      | .error strerror => ("unknown-device", s!"cannot enumerate /sys/block: {strerror}")
      | .ok _ => ("unknown-device", "")

/-- What is seen of a rejection. No argument is part of it. -/
def Stage.seen (machine : Machine) (stage : Stage) : Seen where
  stdout := []
  stderr := errorLine (stage.refusal machine).1 (stage.refusal machine).2 ++ "\n"
  exitCode := 1

theorem seen_endProcess_refusal {events : List HelperEvent} (quiet : Quiet events)
    (code detail : String) :
    (endProcess (.error (.systemExit 1)) (events ++ [refusal code detail])).seen =
      ⟨[], errorLine code detail ++ "\n", 1⟩ := by
  rw [endProcess_refusal quiet]
  rfl

/-- A run on a device that is not listed ends at the listing. -/
theorem NodeRun.seen_of_absent {machine : Machine} {device : String}
    (absent : ∀ present, machine.listdir "/sys/block" = .ok present → device ∉ present)
    {e : HelperEnd} {events : List HelperEvent}
    (refused : NodeRun machine device (.error e) events) :
    (endProcess (.error e) events).seen = Stage.device.seen machine := by
  cases refused with
  | unreadable listing =>
    rw [Stage.seen, Stage.refusal, listing]
    exact seen_endProcess_refusal quiet_listing _ _
  | unlisted listing =>
    rw [Stage.seen, Stage.refusal, listing]
    exact seen_endProcess_refusal quiet_listing _ _
  -- the later ends need the device in the listing
  | noNode listing listed | notBlock listing listed => exact absurd listed (absent _ listing)

/-- A rejection is seen as its stage is. -/
theorem seen_of_rejectedIn {machine : Machine} {stage : Stage} {argv : List String}
    (rejected : RejectedIn machine stage argv) :
    (process machine argv).seen = stage.seen machine := by
  obtain ⟨outcome, events, run, ends⟩ := process_run machine argv
  have nothing : Quiet [] := by simp [Quiet]
  rw [ends]
  -- each stage leaves one way that `main` can go
  cases rejected with
  | usage argc =>
    cases run with
    | usage => exact seen_endProcess_refusal nothing _ _
    | unknownVerb given | refused given | ended given | reported given =>
      exact absurd (congrArg List.length given) argc
  | verb other =>
    cases run with
    | usage argc => exact absurd rfl argc
    | unknownVerb => exact seen_endProcess_refusal nothing _ _
    | refused given | ended given | reported given =>
      simp only [List.cons.injEq] at given
      exact absurd given.2.1 other
  | device absent =>
    -- the device is looked up, and a node cannot have been found
    rcases run.of_requested ⟨_, rfl⟩ with
      ⟨e, rfl, refused⟩ | ⟨node, result, calls, more, found, -⟩
    · exact refused.seen_of_absent absent
    · obtain ⟨-, ⟨present, listing, listed⟩, -⟩ := found.found
      exact absurd listed (absent present listing)

/-- Two requests that are rejected in the same stage of the same machine look the same. -/
theorem rejected_unreflected {machine : Machine} {stage : Stage} {first second : List String}
    (firstRejected : RejectedIn machine stage first)
    (secondRejected : RejectedIn machine stage second) :
    (process machine first).stdout = (process machine second).stdout ∧
      (process machine first).stderr = (process machine second).stderr ∧
      (process machine first).exitCode = (process machine second).exitCode := by
  have same := (seen_of_rejectedIn firstRejected).trans (seen_of_rejectedIn secondRejected).symm
  exact ⟨congrArg Seen.stdout same, congrArg Seen.stderr same, congrArg Seen.exitCode same⟩

/-- A machine whose block devices cannot be listed. -/
def unlistable : Machine where
  listdir _ := .error "Permission denied"
  stat _ := .error "No such file or directory"
  access _ := true
  spawn _ := .timeoutExpired
  loads _ := .valueError

/-- Two hostile devices, on a machine whose block devices cannot be listed. -/
theorem rejected_unreflected_unlistable :
    let first := process unlistable ["lapcare-helper", "smart-report", "../sda"]
    let second := process unlistable ["lapcare-helper", "smart-report", "`id`\n"]
    first.stdout = second.stdout ∧ first.stderr = second.stderr ∧
      first.exitCode = second.exitCode :=
  rejected_unreflected (.device fun _ listing => nomatch listing)
    (.device fun _ listing => nomatch listing)

end Lapcare.Helper
