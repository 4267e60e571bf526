import Lapcare.Semantics.Logged

/-!
# The privileged helper

`helper/lapcare_helper.py`, which runs as root. It asks the operating system at most one
question of each kind, so one answer for each question is all there is to know of the
machine. Every call, every byte written and the end of the process are part of a run.
-/

namespace Lapcare.Helper

open Semantics Semantics.Logged

def smartctl : String := "/usr/sbin/smartctl"

def childEnv : List (String × String) :=
  [("PATH", "/usr/sbin:/usr/bin:/sbin:/bin"), ("LC_ALL", "C.UTF-8")]

def toolTimeoutS : ℕ := 25

def maxOutputBytes : ℕ := 4 * 1024 * 1024

/-- `_FATAL_SMARTCTL_BITS`: a usage error, or a device that could not be opened. -/
def fatalSmartctlBits : ℕ := 3

/-- The arguments of `subprocess.run`. -/
structure Child where
  argv : List String
  env : List (String × String)
  timeoutS : ℕ
  cwd : String
  deriving DecidableEq

/-- How `subprocess.run` ends: it raises because nothing could be spawned, it gives up
waiting, or the child completes. A negative return code is the signal that killed it. -/
inductive ChildOutcome
  | osError (className strerror : String)
  | timeoutExpired
  | completed (returncode : Int) (stdout : List UInt8)

/-- How `json.loads` ends. A `ValueError` includes bytes that do not decode. -/
inductive LoadsOutcome
  | value
  | valueError
  | other (className detail : String)

/-- The answers of the machine a helper runs on. -/
structure Machine where
  listdir : String → Except String (List String)
  stat : String → Except String ℕ
  access : String → Bool
  spawn : Child → ChildOutcome
  loads : List UInt8 → LoadsOutcome

/-- What a helper does that can be seen from outside. -/
inductive HelperEvent
  | listdir (path : String)
  | stat (path : String)
  | access (path : String)
  | spawn (child : Child)
  | stdout (bytes : List UInt8)
  | stderr (text : String)

/-- How a helper ends other than by returning from `main`. -/
inductive HelperEnd
  | systemExit (code : ℕ)
  | uncaught (className detail : String)

abbrev Action (α : Type) := Logged HelperEvent HelperEnd α

/-- Do something that can be seen, and take its answer. -/
def observe {α : Type} (event : HelperEvent) (answer : α) : Action α :=
  Logged.perform (fun _ => .ok answer) fun _ => event

@[simp] theorem exec_observe {α : Type} (event : HelperEvent) (answer : α)
    (log : List HelperEvent) :
    exec (observe event answer) log = (.ok answer, log ++ [event]) := rfl

/-- The line that `_fail` prints. -/
def errorLine (code detail : String) : String :=
  s!"lapcare-helper: {code}" ++ if detail = "" then "" else s!": {detail}"

/-- `_fail`: one line on standard error, and a non-zero exit. -/
def fail {α : Type} (code detail : String) : Action α := do
  observe (.stderr (errorLine code detail ++ "\n")) ()
  throw (.systemExit 1)

@[simp] theorem exec_fail {α : Type} (code detail : String) (log : List HelperEvent) :
    exec (fail code detail : Action α) log =
      (.error (.systemExit 1), log ++ [.stderr (errorLine code detail ++ "\n")]) := rfl

/-- `stat.S_ISBLK`. -/
def isBlk (mode : ℕ) : Bool :=
  mode &&& 0o170000 == 0o060000

def deviceNodePath (name : String) : String :=
  "/dev/" ++ name

/-- `_device_node`: the argument must be an entry of `/sys/block`, and the node of that
entry a block device. -/
def deviceNode (machine : Machine) (name : String) : Action String := do
  match ← observe (.listdir "/sys/block") (machine.listdir "/sys/block") with
  | .error strerror => fail "unknown-device" s!"cannot enumerate /sys/block: {strerror}"
  | .ok present =>
      if name ∈ present then
        let node := deviceNodePath name
        match ← observe (.stat node) (machine.stat node) with
        | .error _ => fail "unknown-device" s!"no device node for {name}"
        | .ok mode =>
            if isBlk mode then return node
            else fail "unknown-device" s!"{node} is not a block device"
      -- the name is not repeated, since it may be hostile
      else fail "unknown-device" ""

/-- The one child that the helper ever spawns. -/
def smartctlChild (node : String) : Child where
  argv := [smartctl, "--json", "--all", node]
  env := childEnv
  timeoutS := toolTimeoutS
  cwd := "/"

/-- `proc.returncode < 0 or proc.returncode & _FATAL_SMARTCTL_BITS`. -/
def fatalReturncode (returncode : Int) : Bool :=
  returncode < 0 || returncode.toNat &&& fatalSmartctlBits != 0

/-- `_smart_report`: the output of `smartctl`, verbatim, when it is bounded JSON. -/
def smartReport (machine : Machine) (node : String) : Action Unit := do
  if ← observe (.access smartctl) (machine.access smartctl) then
    let child := smartctlChild node
    match ← observe (.spawn child) (machine.spawn child) with
    -- the `except` names the timeout only, so this is a traceback
    | .osError className strerror => throw (.uncaught className strerror)
    | .timeoutExpired => fail "tool-timeout" s!"smartctl exceeded {toolTimeoutS}s"
    | .completed returncode stdout =>
        if fatalReturncode returncode then fail "tool-failed" s!"smartctl exited {returncode}"
        else if maxOutputBytes < stdout.length then
          fail "output-invalid" s!"output exceeds {maxOutputBytes} bytes"
        else
          match machine.loads stdout with
          | .value => observe (.stdout stdout) ()
          | .valueError => fail "output-invalid" "smartctl output is not JSON"
          -- such as a `RecursionError`, which no `except` names
          | .other className detail => throw (.uncaught className detail)
  else fail "tool-missing" smartctl

def main (machine : Machine) (argv : List String) : Action ℕ :=
  match argv with
  | [_, verb, device] =>
      if verb = "smart-report" then do
        smartReport machine (← deviceNode machine device)
        return 0
      else fail "unknown-verb" ""
  | _ => fail "usage" "expected: lapcare-helper smart-report <device>"

/-! ### The process -/

/-- What the caller of the helper sees, and what the helper did. -/
structure Process where
  exitCode : ℕ
  stdout : List UInt8
  stderr : String
  events : List HelperEvent

/-- What is written to standard output. -/
def HelperEvent.stdout? : HelperEvent → List UInt8
  | .stdout bytes => bytes
  | _ => []

/-- What is written to standard error. -/
def HelperEvent.stderr? : HelperEvent → String
  | .stderr text => text
  | _ => ""

/-- What the interpreter prints for an exception that nothing catches, the frames of the
call stack left out. -/
def traceback (className detail : String) : String :=
  s!"Traceback (most recent call last):\n{className}: {detail}\n"

/-- The process that an end of `main` and what was done before it make. -/
def endProcess (outcome : Except HelperEnd ℕ) (events : List HelperEvent) : Process :=
  let stdout := (events.map (·.stdout?)).flatten
  let stderr := String.join (events.map (·.stderr?))
  match outcome with
  | .ok exitCode => { exitCode, stdout, stderr, events }
  | .error (.systemExit exitCode) => { exitCode, stdout, stderr, events }
  | .error (.uncaught className detail) =>
      { exitCode := 1, stdout, stderr := stderr ++ traceback className detail, events }

/-- A helper process with these arguments. -/
def process (machine : Machine) (argv : List String) : Process :=
  endProcess (exec (main machine argv) []).1 (exec (main machine argv) []).2

end Lapcare.Helper
