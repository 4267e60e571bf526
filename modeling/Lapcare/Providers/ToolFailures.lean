import Lapcare.Core.Ports
import Lapcare.Providers.PciUsb
import Lapcare.Providers.SmartErrors

/-!
# Failures of tools

Three provider methods run a tool and translate the three exceptions of the runner. What
the operating system raises inside the runner is none of the three, and comes through.

## Main results

* `Translates.onlyLapcare_iff` — a method raises what its runner lets through, and nothing
  else that is foreign
* `toolFailures_contained_iff` — the runner, and the three methods
-/

namespace Lapcare.Providers

open Lapcare.Core Platform

/-- A method turns the three exceptions of the runner into exceptions of the hierarchy, and
the output of the tool into a value or such an exception. A foreign exception passes. -/
structure Translates {α : Type} (outcome : Except ToolError String)
    (answer : Except PyException α) : Prop where
  passes : ∀ className detail, outcome = .error (.foreign className detail) →
    answer = .error (.foreign className detail)
  keeps : RaisesOwn outcome → OnlyLapcare answer

theorem Translates.onlyLapcare_iff {α : Type} {outcome : Except ToolError String}
    {answer : Except PyException α} (translates : Translates outcome answer) :
    OnlyLapcare answer ↔ RaisesOwn outcome := by
  constructor
  · intro only className detail raised
    exact only _ (translates.passes className detail raised)
  · exact translates.keeps

/-! ### The three methods -/

/-- `json.loads` returns a value or raises a `ValueError`. -/
def Loads.Expected : Loads → Prop
  | .value _ | .valueError _ => True
  | .other _ _ => False

theorem translates_readSmart {loads : String → Loads} {run : ToolRunner} {deviceName : String}
    (expected : ∀ out, run "pkexec" [helperPath, "smart-report", deviceName] pkexecTimeoutS =
      .ok out → (loads out).Expected) :
    Translates (run "pkexec" [helperPath, "smart-report", deviceName] pkexecTimeoutS)
      (readSmart loads run deviceName) := by
  unfold readSmart
  cases ran : run "pkexec" [helperPath, "smart-report", deviceName] pkexecTimeoutS with
  | error error =>
    -- each own exception of the runner has its translation
    cases error with
    | toolNotFound tool =>
      exact ⟨fun _ _ raised => (nomatch raised), fun _ => onlyLapcare_lapcare _⟩
    | toolTimeout tool timeout =>
      exact ⟨fun _ _ raised => (nomatch raised), fun _ => onlyLapcare_lapcare _⟩
    | toolFailed tool returncode stderrSnippet =>
      obtain ⟨error, translated, -⟩ := translateFailure_eq_ok returncode stderrSnippet
      refine ⟨fun _ _ raised => (nomatch raised), fun _ => ?_⟩
      simp only [translated]
      exact onlyLapcare_lapcare error
    | foreign className detail =>
      refine ⟨fun _ _ raised => ?_, fun own => absurd rfl (own className detail)⟩
      cases raised
      rfl
  | ok out =>
    refine ⟨fun _ _ raised => (nomatch raised), fun _ => ?_⟩
    have loaded := expected out ran
    dsimp only
    -- a document that does not parse, or is not an object, is an error of its own
    cases parsed : loads out with
    | value data =>
      dsimp only
      by_cases dict : Loaded.isDict data = true
      · rw [if_pos dict, parseReport_eq dict]
        exact onlyLapcare_ok _
      · rw [if_neg dict]
        exact onlyLapcare_lapcare _
    | valueError detail => exact onlyLapcare_lapcare _
    | other className detail =>
      rw [parsed] at loaded
      exact loaded.elim

theorem onlyLapcare_listDevices {δ : Type} (parse : List Char → Option δ) (tool out : String) :
    OnlyLapcare (listDevices parse tool out) := by
  unfold listDevices
  dsimp only
  split_ifs
  · exact onlyLapcare_lapcare _
  · exact onlyLapcare_ok _

/-- Both listings run their tool and go through its output. -/
theorem translates_listing {δ : Type} (parse : List Char → Option δ) (run : ToolRunner)
    (tool : String) (args : List String) :
    Translates (run tool args 10)
      (runTranslated run tool args >>= fun out => listDevices parse tool out) := by
  unfold runTranslated
  cases run tool args 10 with
  | error error =>
    cases error with
    | foreign className detail =>
      -- what is not the runner's own goes through unchanged
      refine ⟨fun _ _ raised => ?_, fun own => absurd rfl (own className detail)⟩
      cases raised
      rfl
    | _ => exact ⟨fun _ _ raised => (nomatch raised), fun _ => onlyLapcare_lapcare _⟩
  | ok out =>
    exact ⟨fun _ _ raised => (nomatch raised), fun _ => onlyLapcare_listDevices parse tool out⟩

/-! ### The runner and the methods -/

/-- Nothing but the runner's own exceptions comes out of a run of a tool, and nothing but a
`LapcareError` out of a method, exactly if the operating system lets nothing escape. -/
theorem toolFailures_contained_iff (host : ToolHost) :
    (∀ tool ∈ allowedTools.map (·.1), ∀ (args : List String) (timeout : ℚ),
      RaisesOwn (runTool host tool args timeout) ↔ Contained host tool args timeout) ∧
    (∀ (loads : String → Loads) (deviceName : String), (∀ out, (loads out).Expected) →
      (OnlyLapcare (readSmart loads (runTool host) deviceName) ↔
        Contained host "pkexec" [helperPath, "smart-report", deviceName] pkexecTimeoutS)) ∧
    (OnlyLapcare (listPci (runTool host)) ↔ Contained host "lspci" ["-mm"] 10) ∧
    ∀ isDecimal, OnlyLapcare (listUsb isDecimal (runTool host)) ↔ Contained host "lsusb" [] 10 := by
  have lspci : "lspci" ∈ allowedTools.map (·.1) := by simp [allowedTools]
  have lsusb : "lsusb" ∈ allowedTools.map (·.1) := by simp [allowedTools]
  have pkexec : "pkexec" ∈ allowedTools.map (·.1) := by simp [allowedTools]
  -- each method lets out what its runner lets out
  refine ⟨fun tool listed => runTool_raisesOwn_iff listed host, ?_, ?_, ?_⟩
  · intro loads deviceName expected
    rw [(translates_readSmart fun out _ => expected out).onlyLapcare_iff,
      runTool_raisesOwn_iff pkexec]
  · rw [listPci, (translates_listing pciLine (runTool host) "lspci" ["-mm"]).onlyLapcare_iff,
      runTool_raisesOwn_iff lspci]
  · intro isDecimal
    rw [listUsb,
      (translates_listing (usbLine isDecimal) (runTool host) "lsusb" []).onlyLapcare_iff,
      runTool_raisesOwn_iff lsusb]

/-- A child that runs as root when its timeout comes. -/
def stubbornHost : ToolHost where
  executable _ := true
  spawn _ _ := .timedOut (some ("PermissionError", "[Errno 1] Operation not permitted"))

/-- The refused kill of the helper comes out of the runner, and out of the SMART read. -/
theorem refusedKill_escapes :
    runTool stubbornHost "pkexec" [helperPath, "smart-report", "sda"] pkexecTimeoutS =
        .error (.foreign "PermissionError" "[Errno 1] Operation not permitted") ∧
      ¬ RaisesOwn
        (runTool stubbornHost "pkexec" [helperPath, "smart-report", "sda"] pkexecTimeoutS) ∧
      ¬ OnlyLapcare (readSmart (fun _ => .valueError "") (runTool stubbornHost) "sda") := by
  have raised : runTool stubbornHost "pkexec" [helperPath, "smart-report", "sda"] pkexecTimeoutS =
      .error (.foreign "PermissionError" "[Errno 1] Operation not permitted") := rfl
  have foreign : ¬ RaisesOwn
      (runTool stubbornHost "pkexec" [helperPath, "smart-report", "sda"] pkexecTimeoutS) :=
    fun own => own _ _ raised
  have expected (out : String) : (Loads.valueError "").Expected := trivial
  refine ⟨raised, foreign, fun only => foreign ?_⟩
  exact (translates_readSmart fun out _ => expected out).onlyLapcare_iff.1 only

end Lapcare.Providers
