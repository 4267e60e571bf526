import Lapcare.Text.Utf8
import Lapcare.Text.Decimal

/-!
# The subprocess runner

`run_tool` of `platform/subprocess.py`: a whitelisted tool runs to its end or to its
timeout, and what went wrong is one of three exceptions of the platform.
-/

namespace Lapcare.Platform

/-- `ALLOWED_TOOLS`. -/
def allowedTools : List (String × List String) :=
  [("lspci", ["/usr/bin/lspci"]), ("lsusb", ["/usr/bin/lsusb"]), ("pkexec", ["/usr/bin/pkexec"])]

/-- `MAX_OUTPUT_BYTES`. -/
def maxOutputBytes : ℕ := 8 * 1024 * 1024

/-- What `run_tool` raises. `stderrSnippet` is the beginning of what the tool wrote to its
error channel. -/
inductive ToolError
  | toolNotFound (tool : String)
  | toolTimeout (tool : String) (timeout : ℚ)
  | toolFailed (tool : String) (returncode : Int) (stderrSnippet : String)
  | foreign (className detail : String)

/-- `str(exc)`. The timeouts in use have one decimal place. -/
def ToolError.message : ToolError → String
  | toolNotFound tool => s!"tool not installed: {tool}"
  | toolTimeout tool timeout =>
      let seconds := Text.fixed 1 timeout
      s!"{tool} exceeded {seconds}s timeout"
  | toolFailed tool returncode _ => s!"{tool} exited {returncode}"
  | foreign _ detail => detail

/-- How a child process ends: it cannot be created, it outlives its timeout, or it exits.
`refusal` is what the kill at the timeout raises, if it does. -/
inductive ToolOutcome
  | osError (className strerror : String)
  | timedOut (refusal : Option (String × String))
  | exited (returncode : Int) (stdout stderr : List UInt8)

/-- The answers of the machine: which files can be executed, and how a child with these
arguments and this timeout ends. -/
structure ToolHost where
  executable : String → Bool
  spawn : List String → ℚ → ToolOutcome

/-- The signature that providers accept for injection. -/
abbrev ToolRunner := String → List String → ℚ → Except ToolError String

/-- `err.decode(errors="replace")[:500]`. -/
def stderrSnippet (stderr : List UInt8) : String :=
  String.ofList ((Text.decode stderr).take 500)

def runTool (host : ToolHost) : ToolRunner := fun tool args timeout =>
  match allowedTools.lookup tool with
  | none => .error (.foreign "KeyError" tool)
  | some candidates =>
      match candidates.find? host.executable with
      | none => .error (.toolNotFound tool)
      | some path =>
          -- the first candidate that is there and executable; never a shell
          match host.spawn (path :: args) timeout with
          | .osError className strerror => .error (.foreign className strerror)
          | .timedOut none => .error (.toolTimeout tool timeout)
          | .timedOut (some (className, strerror)) => .error (.foreign className strerror)
          | .exited returncode stdout stderr =>
              if returncode ≠ 0 then
                .error (.toolFailed tool returncode (stderrSnippet stderr))
              else if maxOutputBytes < stdout.length then
                .error (.toolFailed tool 0 s!"output exceeded {maxOutputBytes} bytes")
              else .ok (String.ofList (Text.decode stdout))

/-- A failing `pkexec` is reported with its return code and the beginning of its error
channel. -/
theorem runTool_pkexec_failed {host : ToolHost} {args : List String} {timeout : ℚ}
    {returncode : Int} {stdout stderr : List UInt8}
    (executable : host.executable "/usr/bin/pkexec" = true)
    (exited : host.spawn ("/usr/bin/pkexec" :: args) timeout = .exited returncode stdout stderr)
    (failed : returncode ≠ 0) :
    runTool host "pkexec" args timeout =
      .error (.toolFailed "pkexec" returncode (stderrSnippet stderr)) := by
  have listed : allowedTools.lookup "pkexec" = some ["/usr/bin/pkexec"] := by decide
  have found : ["/usr/bin/pkexec"].find? host.executable = some "/usr/bin/pkexec" :=
    List.find?_cons_of_pos executable
  simp only [runTool, listed, found, exited]
  rw [if_pos failed]

/-! ### Exceptions of the operating system -/

/-- The child could not be created, or the kill at its timeout was refused. -/
def ToolOutcome.Escapes : ToolOutcome → Prop
  | osError _ _ => True
  | timedOut refusal => refusal ≠ none
  | exited _ _ _ => False

/-- No exception of the operating system comes out of a run of the tool: it cannot be
executed, or its child is created and can be killed where it outlives its timeout. -/
def Contained (host : ToolHost) (tool : String) (args : List String) (timeout : ℚ) : Prop :=
  ∀ path, ((allowedTools.lookup tool).getD []).find? host.executable = some path →
    ¬ (host.spawn (path :: args) timeout).Escapes

/-- `run_tool` returns, or raises one of its own three exceptions. -/
def RaisesOwn (outcome : Except ToolError String) : Prop :=
  ∀ className detail, outcome ≠ .error (.foreign className detail)

/-- By cases on how the child ends. -/
theorem runTool_raisesOwn_iff {tool : String} (listed : tool ∈ allowedTools.map (·.1))
    (host : ToolHost) (args : List String) (timeout : ℚ) :
    RaisesOwn (runTool host tool args timeout) ↔ Contained host tool args timeout := by
  have known : ∃ candidates, allowedTools.lookup tool = some candidates := by
    simp only [allowedTools, List.map_cons, List.map_nil, List.mem_cons, List.not_mem_nil,
      or_false] at listed
    rcases listed with rfl | rfl | rfl <;> exact ⟨_, rfl⟩
  obtain ⟨candidates, entry⟩ := known
  simp only [runTool, Contained, entry, Option.getD_some]
  -- without an executable nothing is started
  cases candidates.find? host.executable with
  | none => simp [RaisesOwn]
  | some path =>
    simp only [Option.some.injEq, forall_eq']
    cases ends : host.spawn (path :: args) timeout with
    | osError className strerror => simp [RaisesOwn, ToolOutcome.Escapes]
    -- only a kill that the system refuses comes out of a timeout
    | timedOut refusal => cases refusal <;> simp [RaisesOwn, ToolOutcome.Escapes]
    | exited returncode stdout stderr =>
      simp only [ToolOutcome.Escapes, not_false_eq_true, iff_true]
      intro className detail
      split_ifs <;> simp

end Lapcare.Platform
