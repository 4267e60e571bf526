import Lapcare.Platform.Subprocess
import Lapcare.Providers.SmartParse
import Lapcare.Text.Lines
import Lapcare.Text.Split

/-!
# The privileged SMART read

`StorageSmartPkexec.read_smart` of `providers/storage_smart.py`: the helper runs under
`pkexec`, and whatever goes wrong becomes an exception of the hierarchy. What the helper
had to say is taken from the line it writes to its error channel.
-/

namespace Lapcare.Providers

open Lapcare.Core Platform

/-- `SOURCE`. -/
def storageSmartSource : String := "storage_smart"

def helperPath : String := "/usr/libexec/lapcare/lapcare-helper"

def actionSmartReport : String := "io.github.abhilashmuraleedharan.lapcare.smart-report"

/-- `_PKEXEC_TIMEOUT_S`. -/
def pkexecTimeoutS : ℚ := 120

/-- How `json.loads` ends. -/
inductive Loads
  | value (data : Loaded)
  | valueError (detail : String)
  | other (className detail : String)

/-- What a line of the helper begins with. -/
def helperPrefix : List Char :=
  "lapcare-helper: ".toList

/-- `_helper_error_code`: the code of the first line of the helper. The line is split at
its separators twice at most. -/
def helperErrorCode (stderrSnippet : String) : Except PyException (Option String) :=
  match (Text.splitLines stderrSnippet.toList).find? (helperPrefix.isPrefixOf ·) with
  | none => .ok none
  | some line =>
      match (Text.splitMax ": ".toList 2 line)[1]? with
      | none => .error (.foreign "IndexError" "list index out of range")
      | some code => .ok (some (String.ofList (Text.strip code)) |>.filter (· ≠ ""))

/-- `"lapcare-helper" in stderr_snippet`. -/
def mentionsHelper (stderrSnippet : String) : Bool :=
  (Text.cut "lapcare-helper".toList stderrSnippet.toList).isSome

/-- `_translate_failure`. A `pkexec` that fails without a word of the helper is taken for
one that found no helper. -/
def translateFailure (returncode : Int) (stderrSnippet : String) :
    Except PyException LapcareError :=
  if returncode = 126 ∨ returncode = 127 then .ok (.privilegedActionDenied actionSmartReport)
  else
    (helperErrorCode stderrSnippet).map fun code =>
      if code = some "tool-missing" then
        .providerUnavailable storageSmartSource .toolMissing (some "smartmontools")
      else if code = some "tool-timeout" then
        .providerTimeout storageSmartSource "smartctl timed out inside the helper"
      else
        match code with
        | none =>
            if mentionsHelper stderrSnippet then
              .providerParseError storageSmartSource "helper failed"
            else
              .providerUnavailable storageSmartSource .toolMissing
                (some "lapcare-helper (installed package)")
        | some code => .providerParseError storageSmartSource s!"helper: {code}"

/-- `read_smart`. -/
def readSmart (loads : String → Loads) (run : ToolRunner) (deviceName : String) :
    Except PyException SmartReport :=
  match run "pkexec" [helperPath, "smart-report", deviceName] pkexecTimeoutS with
  | .error (.toolNotFound _) =>
      .error (.lapcare (.providerUnavailable storageSmartSource .toolMissing (some "pkexec")))
  | .error (.toolTimeout tool timeout) =>
      .error (.lapcare (.providerTimeout storageSmartSource
        (ToolError.toolTimeout tool timeout).message))
  | .error (.toolFailed _ returncode stderrSnippet) => do
      let error ← translateFailure returncode stderrSnippet
      throw (.lapcare error)
  | .error (.foreign className detail) => .error (.foreign className detail)
  | .ok out =>
      match loads out with
      | .value data =>
          if Loaded.isDict data then parseReport deviceName data
          else .error (.lapcare (.providerParseError storageSmartSource
            "helper output is not a JSON object"))
      | .valueError _ =>
          .error (.lapcare (.providerParseError storageSmartSource "helper output is not JSON"))
      | .other className detail => .error (.foreign className detail)

end Lapcare.Providers
