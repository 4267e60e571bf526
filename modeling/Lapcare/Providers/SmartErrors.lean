import Lapcare.Helper.Protocol
import Lapcare.Providers.StorageSmart

/-!
# The helper and its client agree on errors

The helper writes a line, the runner decodes and cuts what was written, and the client
looks for the line and splits it. The code comes through, because it stands in front of
everything that could be lost or misread.

## Main results

* `helperErrorCode_of_line` — the code of the first line is found, whatever follows it
* `error_protocol_agrees` — every code becomes its exception, every failure a `LapcareError`
-/

namespace Lapcare.Providers

open Lapcare.Core Platform

/-! ### Reading a line -/

/-- What the client relies on in a code: neither separators nor white space, and short
enough to survive the cut. -/
structure PlainCode (code : List Char) : Prop where
  colon : ':' ∉ code
  solid : ∀ c ∈ code, Text.isSpace c = false
  filled : code ≠ []
  short : code.length ≤ 480

theorem plainCode_of_mem_errorCodes {code : String} (known : code ∈ Helper.errorCodes) :
    PlainCode code.toList := by
  have all : ∀ code ∈ Helper.errorCodes, ':' ∉ code.toList ∧
      code.toList.all (fun c => !Text.isSpace c) = true ∧ code.toList ≠ [] ∧
        code.toList.length ≤ 480 := by
    decide
  obtain ⟨colon, solid, filled, short⟩ := all code known
  refine ⟨colon, fun c member => ?_, filled, short⟩
  simpa using List.all_eq_true.mp solid c member

theorem PlainCode.isLineBreak {code : List Char} (plain : PlainCode code) {c : Char}
    (member : c ∈ code) : Text.isLineBreak c = false :=
  Text.isLineBreak_of_notSpace (plain.solid c member)

theorem splitMax_helperPrefix (rest : List Char) :
    Text.splitMax ": ".toList 2 (helperPrefix ++ rest) =
      "lapcare-helper".toList :: Text.splitMax ": ".toList 1 rest := by
  have split : helperPrefix ++ rest = "lapcare-helper".toList ++ (": ".toList ++ rest) := by
    rw [← List.append_assoc]
    rfl
  rw [split]
  exact Text.splitMax_append (by decide) 1 rest

/-- The code ends at a separator, or at the end of the line. -/
theorem PlainCode.splitMax {code : List Char} (plain : PlainCode code) {rest : List Char}
    (ends : rest = [] ∨ ∃ detail, rest = ": ".toList ++ detail) :
    ∃ details, Text.splitMax ": ".toList 1 (code ++ rest) = code :: details := by
  rcases ends with rfl | ⟨detail, rfl⟩
  · rw [List.append_nil]
    exact ⟨[], Text.splitMax_eq_singleton plain.colon 1⟩
  · exact ⟨_, Text.splitMax_append plain.colon 0 detail⟩

/-- What may follow a code: the end of the line, or a separator. -/
inductive Follows : List Char → Prop
  | lineBreak (c : Char) (rest : List Char) (boundary : Text.isLineBreak c = true) :
      Follows (c :: rest)
  | detail (rest : List Char) : Follows (": ".toList ++ rest)

theorem Follows.takeWhile {tail : List Char} (follows : Follows tail) :
    tail.takeWhile (!Text.isLineBreak ·) = [] ∨
      ∃ detail, tail.takeWhile (!Text.isLineBreak ·) = ": ".toList ++ detail := by
  cases follows with
  | lineBreak c rest boundary =>
    exact .inl (List.takeWhile_cons_of_neg (by simp [boundary]))
  | detail rest => exact .inr ⟨rest.takeWhile (!Text.isLineBreak ·), rfl⟩

/-- The code of the first line is found, whatever follows it. -/
theorem helperErrorCode_of_line {code tail : List Char} (plain : PlainCode code)
    (follows : Follows tail) :
    helperErrorCode (String.ofList (helperPrefix ++ code ++ tail)) =
      .ok (some (String.ofList code)) := by
  -- neither prefix nor code breaks the line
  have within : ∀ c ∈ helperPrefix ++ code, (!Text.isLineBreak c) = true := by
    intro c member
    rcases List.mem_append.mp member with front | inside
    · have all : helperPrefix.all (fun c => !Text.isLineBreak c) = true := by decide
      exact List.all_eq_true.mp all c front
    · rw [plain.isLineBreak inside]
      rfl
  have filled : helperPrefix ++ code ++ tail ≠ [] := by simp [plain.filled]
  have lines := Text.splitLines_eq_cons filled
  have first : (helperPrefix ++ code ++ tail).takeWhile (!Text.isLineBreak ·) =
      helperPrefix ++ (code ++ tail.takeWhile (!Text.isLineBreak ·)) := by
    rw [List.takeWhile_append_of_pos within, List.append_assoc]
  rw [first] at lines
  obtain ⟨details, split⟩ := plain.splitMax follows.takeWhile
  have ours : helperPrefix.isPrefixOf
      (helperPrefix ++ (code ++ tail.takeWhile (!Text.isLineBreak ·))) = true :=
    List.isPrefixOf_iff_prefix.mpr (List.prefix_append _ _)
  rw [helperErrorCode, String.toList_ofList, lines, List.find?_cons_of_pos ours]
  simp only [splitMax_helperPrefix, split]
  -- a code without white space is its own strip
  have bare := Text.strip_of_solid plain.solid
  have given : String.ofList code ≠ "" := by
    intro empty
    exact plain.filled (by simpa using congrArg String.toList empty)
  change Except.ok (Option.filter _ (some (String.ofList (Text.strip code)))) = _
  rw [bare, Option.filter_some, if_pos (by simpa using given)]

/-! ### What the runner keeps -/

theorem Follows.take {tail : List Char} (follows : Follows tail) {n : ℕ} (enough : 2 ≤ n) :
    Follows (tail.take n) := by
  obtain ⟨n, rfl⟩ := Nat.exists_eq_add_of_le' enough
  cases follows with
  | lineBreak c rest boundary => exact .lineBreak c (rest.take (n + 1)) boundary
  | detail rest => exact .detail (rest.take n)

/-- The cut comes after the code, and leaves what follows it recognizable. -/
theorem take_line {code tail : List Char} (plain : PlainCode code) (follows : Follows tail) :
    ∃ shorter, (helperPrefix ++ code ++ tail).take 500 = helperPrefix ++ code ++ shorter ∧
      Follows shorter := by
  have front : (helperPrefix ++ code).length ≤ 498 := by
    have short := plain.short
    have opening : helperPrefix.length = 16 := by decide
    rw [List.length_append, opening]
    omega
  refine ⟨tail.take (500 - (helperPrefix ++ code).length), ?_, follows.take (by omega)⟩
  rw [List.take_append, List.take_of_length_le (by omega)]

/-- The code comes through whatever the bytes are that follow it. -/
theorem helperErrorCode_stderrSnippet {code : List Char} (plain : PlainCode code)
    (rest : List UInt8) (follows : Follows (Text.decode rest)) :
    helperErrorCode (stderrSnippet (Text.encode (helperPrefix ++ code) ++ rest)) =
      .ok (some (String.ofList code)) := by
  obtain ⟨shorter, cut, stillFollows⟩ := take_line plain follows
  rw [stderrSnippet, Text.decode_encode_append, cut]
  exact helperErrorCode_of_line plain stillFollows

theorem errorLine_newline (code detail : String) :
    ∃ tail, (Helper.errorLine code detail ++ "\n").toList = helperPrefix ++ code.toList ++ tail ∧
      Follows tail := by
  rw [String.toList_append, Helper.errorLine_toList]
  split_ifs with silent
  · refine ⟨"\n".toList, ?_, .lineBreak '\n' [] (by decide)⟩
    rw [List.append_nil]
    rfl
  · refine ⟨": ".toList ++ (detail.toList ++ "\n".toList), ?_, .detail _⟩
    simp only [List.append_assoc]
    rfl

/-! ### The client's exceptions -/

/-- The exception that a code of the helper stands for. -/
def errorOfCode (code : String) : LapcareError :=
  if code = "tool-missing" then
    .providerUnavailable storageSmartSource .toolMissing (some "smartmontools")
  else if code = "tool-timeout" then
    .providerTimeout storageSmartSource "smartctl timed out inside the helper"
  else .providerParseError storageSmartSource s!"helper: {code}"

theorem translateFailure_of_code {stderrSnippet code : String}
    (read : helperErrorCode stderrSnippet = .ok (some code)) :
    translateFailure 1 stderrSnippet = .ok (errorOfCode code) := by
  have failed : ¬ ((1 : Int) = 126 ∨ (1 : Int) = 127) := by decide
  rw [translateFailure, if_neg failed, read, errorOfCode]
  simp only [Except.map, Option.some.injEq]

/-- Splitting a line of the helper never comes up short. -/
theorem helperErrorCode_eq_ok (stderrSnippet : String) :
    ∃ code, helperErrorCode stderrSnippet = .ok code := by
  rw [helperErrorCode]
  cases found : (Text.splitLines stderrSnippet.toList).find? (helperPrefix.isPrefixOf ·) with
  | none => exact ⟨none, rfl⟩
  | some line =>
    obtain ⟨rest, rfl⟩ := List.isPrefixOf_iff_prefix.mp (List.find?_some found)
    simp only [splitMax_helperPrefix]
    cases fields : Text.splitMax ": ".toList 1 rest with
    | nil => exact absurd fields (Text.splitMax_ne_nil _ _ _)
    | cons code details => exact ⟨_, rfl⟩

theorem translateFailure_eq_ok (returncode : Int) (stderrSnippet : String) :
    ∃ error, translateFailure returncode stderrSnippet = .ok error ∧
      (returncode = 126 ∨ returncode = 127 →
        error = .privilegedActionDenied actionSmartReport) := by
  rw [translateFailure]
  by_cases denied : returncode = 126 ∨ returncode = 127
  · rw [if_pos denied]
    exact ⟨_, rfl, fun _ => rfl⟩
  · obtain ⟨code, read⟩ := helperErrorCode_eq_ok stderrSnippet
    rw [if_neg denied, read]
    exact ⟨_, rfl, fun also => absurd also denied⟩

/-- The process of a helper that refuses with this code and this detail. -/
def refused (code detail : String) : Helper.Process :=
  let ended := Semantics.Logged.exec (Helper.fail code detail : Helper.Action ℕ) []
  Helper.endProcess ended.1 ended.2

theorem refused_eq (code detail : String) :
    (refused code detail).exitCode = 1 ∧
      (refused code detail).stderr = Helper.errorLine code detail ++ "\n" := by
  have quiet : Helper.Quiet [] := by simp [Helper.Quiet]
  have ended := Helper.endProcess_refusal quiet code detail
  exact ⟨congrArg Helper.Process.exitCode ended, congrArg Helper.Process.stderr ended⟩

theorem helperErrorCode_refused {code : String} (known : code ∈ Helper.errorCodes)
    (detail : String) :
    helperErrorCode (stderrSnippet (Text.encode (Helper.errorLine code detail ++ "\n").toList)) =
      .ok (some code) := by
  obtain ⟨tail, line, follows⟩ := errorLine_newline code detail
  have decoded : Follows (Text.decode (Text.encode tail)) := by
    rw [Text.decode_encode]
    exact follows
  have through := helperErrorCode_stderrSnippet (plainCode_of_mem_errorCodes known) _ decoded
  rw [line, Text.encode_append, through, String.ofList_toList]

/-- A detail in whatever bytes. The interpreter has its own way of writing a character
that has no encoding. -/
theorem helperErrorCode_printed {code : String} (known : code ∈ Helper.errorCodes)
    (printed : List UInt8) :
    helperErrorCode (stderrSnippet
        (Text.encode (helperPrefix ++ code.toList) ++ (Text.encode ": ".toList ++ printed))) =
      .ok (some code) := by
  have decoded : Follows (Text.decode (Text.encode ": ".toList ++ printed)) := by
    rw [Text.decode_encode_append]
    exact .detail _
  have through := helperErrorCode_stderrSnippet (plainCode_of_mem_errorCodes known) _ decoded
  rw [through, String.ofList_toList]

theorem readSmart_of_code {loads : String → Loads} {host : ToolHost} {deviceName code : String}
    {stdout stderr : List UInt8} (executable : host.executable "/usr/bin/pkexec" = true)
    (exited : host.spawn ["/usr/bin/pkexec", helperPath, "smart-report", deviceName]
      pkexecTimeoutS = .exited 1 stdout stderr)
    (read : helperErrorCode (stderrSnippet stderr) = .ok (some code)) :
    readSmart loads (runTool host) deviceName = .error (.lapcare (errorOfCode code)) := by
  have failed := runTool_pkexec_failed executable exited (by decide)
  rw [readSmart, failed]
  change (translateFailure _ _ >>= fun error => throw (.lapcare error)) = _
  rw [translateFailure_of_code read]
  rfl

/-- Every code of the helper becomes the exception it stands for, with any detail; and no
failure of `pkexec` gets past the hierarchy. -/
theorem error_protocol_agrees (loads : String → Loads) (deviceName : String) :
    (∀ (host : ToolHost) (code detail : String), code ∈ Helper.errorCodes →
      host.executable "/usr/bin/pkexec" = true →
      host.spawn ["/usr/bin/pkexec", helperPath, "smart-report", deviceName] pkexecTimeoutS =
        .exited (refused code detail).exitCode (refused code detail).stdout
          (Text.encode (refused code detail).stderr.toList) →
      readSmart loads (runTool host) deviceName = .error (.lapcare (errorOfCode code))) ∧
    (∀ (host : ToolHost) (code : String) (stdout printed : List UInt8),
      code ∈ Helper.errorCodes → host.executable "/usr/bin/pkexec" = true →
      host.spawn ["/usr/bin/pkexec", helperPath, "smart-report", deviceName] pkexecTimeoutS =
        .exited 1 stdout
          (Text.encode (helperPrefix ++ code.toList) ++ (Text.encode ": ".toList ++ printed)) →
      readSmart loads (runTool host) deviceName = .error (.lapcare (errorOfCode code))) ∧
    ∀ (run : ToolRunner) (tool : String) (returncode : Int) (stderrSnippet : String),
      run "pkexec" [helperPath, "smart-report", deviceName] pkexecTimeoutS =
        .error (.toolFailed tool returncode stderrSnippet) →
      ∃ error, readSmart loads run deviceName = .error (.lapcare error) ∧
        (returncode = 126 ∨ returncode = 127 →
          error = .privilegedActionDenied actionSmartReport) := by
  refine ⟨?_, ?_, ?_⟩
  · intro host code detail known executable exited
    obtain ⟨exitCode, stderr⟩ := refused_eq code detail
    rw [exitCode, stderr] at exited
    exact readSmart_of_code executable exited (helperErrorCode_refused known detail)
  · intro host code stdout printed known executable exited
    exact readSmart_of_code executable exited (helperErrorCode_printed known printed)
  · intro run tool returncode stderrSnippet failed
    obtain ⟨error, translated, denied⟩ := translateFailure_eq_ok returncode stderrSnippet
    refine ⟨error, ?_, denied⟩
    rw [readSmart, failed]
    change (translateFailure _ _ >>= fun error => throw (.lapcare error)) = _
    rw [translated]
    rfl

/-- A host whose `pkexec` ends as if the helper had said that it timed out. -/
def slowHost : ToolHost where
  executable _ := true
  spawn _ _ :=
    .exited 1 [] (Text.encode (refused "tool-timeout" "smartctl exceeded 25s").stderr.toList)

/-- The helper's own timeout arrives as a timeout, and a dismissed dialog as a refusal. -/
theorem errors_arrive :
    readSmart (fun _ => .valueError "") (runTool slowHost) "sda" =
        .error (.lapcare (.providerTimeout "storage_smart"
          "smartctl timed out inside the helper")) ∧
      ∃ error, readSmart (fun _ => .valueError "")
          (fun _ _ _ => .error (.toolFailed "pkexec" 126 "")) "sda" = .error (.lapcare error) ∧
        error = .privilegedActionDenied actionSmartReport := by
  have agrees := error_protocol_agrees (fun _ => .valueError "") "sda"
  constructor
  · exact agrees.1 slowHost "tool-timeout" "smartctl exceeded 25s" (by decide) rfl rfl
  · obtain ⟨error, raised, denied⟩ := agrees.2.2
      (fun _ _ _ => .error (.toolFailed "pkexec" 126 "")) "pkexec" 126 "" rfl
    exact ⟨error, raised, denied (.inl rfl)⟩

end Lapcare.Providers
