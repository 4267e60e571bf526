import Lapcare.Platform.CodePoints
import Mathlib.Logic.Function.Basic

/-!
# Writing a report

`TextReportWriter.write` of `platform/report.py`: a temporary file in the target directory,
filled, renamed to the chosen name and given its mode. Each step may fail, and only an
`OSError` before the last step is cleaned up after.

## Main results

* `write_atomic_iff` — when a write leaves all or nothing
-/

namespace Lapcare.Platform

open Text

/-! ### Where it is written -/

/-- What stands under a name. -/
inductive Entry
  | file (data : List UInt8) (mode : ℕ)
  | directory
  deriving DecidableEq

/-- The target directory. -/
abbrev Directory := String → Option Entry

/-- An exception of one step, as `except OSError` sees it. -/
inductive Raised
  | osError (detail : String)
  | other (className detail : String)
  deriving DecidableEq

def Raised.IsOsError : Raised → Prop
  | osError _ => True
  | other _ _ => False

/-- How the operating system answers the steps of one write: the random end of the
temporary name, which no entry has yet, which steps fail, and how much of the content has
reached the file when filling it fails. -/
structure Attempt (directory : Directory) where
  suffix : String
  create : Option Raised := none
  fill : Option Raised := none
  close : Option Raised := none
  rename : Option Raised := none
  chmod : Option Raised := none
  torn : List UInt8 := []
  fresh : directory (".lapcare-export-" ++ suffix) = none

namespace Attempt

variable {directory : Directory} (attempt : Attempt directory)

/-- The name that `mkstemp` has chosen. -/
def temp : String :=
  ".lapcare-export-" ++ attempt.suffix

/-- The body of `with os.fdopen(...)`: the content is encoded as a whole, then written. -/
def filled (content : List CodePoint) : Except Raised (List UInt8) :=
  match encodeStrict content, attempt.fill with
  | none, _ => .error (.other "UnicodeEncodeError" "surrogates not allowed")
  | some _, some error => .error error
  | some data, none => .ok data

/-- The whole `with` statement. What closing the file raises replaces what its body has
raised. -/
def closed (content : List CodePoint) : Except Raised (List UInt8) :=
  match attempt.close with
  | some error => .error error
  | none => attempt.filled content

/-- How `os.replace` fails. A directory is not replaced by a file. -/
def renameFailure (name : String) : Option Raised :=
  if directory name = some .directory then some (.osError "Is a directory") else attempt.rename

/-- The target directory while the temporary file holds `data`. -/
def holding (data : List UInt8) : Directory :=
  Function.update directory attempt.temp (some (.file data 0o600))

/-- `except OSError`: an unlink, which succeeds, and the exception again. -/
def cleanUp (data : List UInt8) (error : Raised) : Except Raised Unit × Directory :=
  match error with
  | .osError _ => (.error error, Function.update (attempt.holding data) attempt.temp none)
  | .other _ _ => (.error error, attempt.holding data)

/-- The target directory after the rename. -/
def replaced (name : String) (data : List UInt8) : Directory :=
  Function.update (Function.update (attempt.holding data) attempt.temp none) name
    (some (.file data 0o600))

/-- `TextReportWriter.write`, with the state it leaves the target directory in. -/
def write (name : String) (content : List CodePoint) : Except Raised Unit × Directory :=
  match attempt.create with
  | some error => (.error error, directory)
  | none =>
    match attempt.closed content with
    -- the handler that unlinks the temporary file is for `OSError` only
    | .error error => attempt.cleanUp attempt.torn error
    | .ok data =>
      match attempt.renameFailure name with
      | some error => attempt.cleanUp data error
      | none =>
        match attempt.chmod with
        | some error => (.error error, attempt.replaced name data)
        | none =>
          (.ok (), Function.update (attempt.replaced name data) name (some (.file data 0o644)))

end Attempt

/-! ### All or nothing -/

/-- A write that raises has left the file as it was, one that returns has written the whole
content, and neither leaves anything else behind. -/
structure Atomic (directory : Directory) (name : String) (content : List CodePoint)
    (result : Except Raised Unit × Directory) : Prop where
  raised : ∀ error, result.1 = .error error → result.2 name = directory name
  returned : result.1 = .ok () →
    ∃ data mode, encodeStrict content = some data ∧ result.2 name = some (.file data mode)
  others : ∀ other ≠ name, result.2 other = directory other

/-- Once there is a temporary file, no step up to the rename raises anything but an
`OSError`, and the mode is changed, or the file that was there is the one that is there
now. -/
def Recoverable {directory : Directory} (attempt : Attempt directory) (name : String)
    (content : List CodePoint) : Prop :=
  attempt.create = none →
    (∀ error, attempt.close = some error → error.IsOsError) ∧
    (attempt.close = none → encodeStrict content ≠ none) ∧
    (∀ error, attempt.close = none → attempt.fill = some error → error.IsOsError) ∧
    ∀ data, attempt.close = none → attempt.fill = none → encodeStrict content = some data →
      (∀ error, attempt.renameFailure name = some error → error.IsOsError) ∧
      (attempt.renameFailure name = none → attempt.chmod ≠ none →
        directory name = some (.file data 0o600))

namespace Attempt

variable {directory : Directory} (attempt : Attempt directory) (name : String)
  (content : List CodePoint)

theorem cleaned (data : List UInt8) :
    Function.update (attempt.holding data) attempt.temp none = directory := by
  rw [holding, Function.update_idem]
  exact Function.update_eq_self_iff.2 attempt.fresh.symm

/-- Cleaning up leaves nothing exactly after an `OSError`. -/
theorem atomic_cleanUp_iff (data : List UInt8) (error : Raised) :
    Atomic directory name content (attempt.cleanUp data error) ↔ error.IsOsError := by
  cases error with
  | osError detail =>
    apply iff_of_true _ trivial
    rw [cleanUp, attempt.cleaned]
    exact ⟨fun _ _ => rfl, fun returned => (nomatch returned), fun _ _ => rfl⟩
  | other className detail =>
    apply iff_of_false _ id
    intro atomic
    -- the temporary file is still there, under its own name or under the chosen one
    have left : (attempt.cleanUp data (.other className detail)).2 attempt.temp = none := by
      by_cases same : attempt.temp = name
      · rw [same, atomic.raised _ rfl, ← same]
        exact attempt.fresh
      · rw [atomic.others _ same]
        exact attempt.fresh
    have kept := (Function.update_self attempt.temp (some (Entry.file data 0o600)) directory)
    exact Option.some_ne_none _ (kept.symm.trans left)

theorem atomic_replaced_iff (data : List UInt8) (error : Raised) :
    Atomic directory name content (.error error, attempt.replaced name data) ↔
      directory name = some (.file data 0o600) := by
  rw [replaced, attempt.cleaned]
  constructor
  · intro atomic
    have same := atomic.raised error rfl
    dsimp only at same
    rw [Function.update_self] at same
    exact same.symm
  · intro same
    refine ⟨fun _ _ => ?_, fun returned => (nomatch returned), fun other apart => ?_⟩
    · dsimp only
      rw [Function.update_self, same]
    · exact Function.update_of_ne apart ..

theorem atomic_written {data : List UInt8} (encoded : encodeStrict content = some data) :
    Atomic directory name content
      (.ok (), Function.update (attempt.replaced name data) name (some (.file data 0o644))) := by
  refine ⟨fun _ raised => (nomatch raised), fun _ => ⟨data, 0o644, encoded, ?_⟩,
    fun other apart => ?_⟩
  · exact Function.update_self ..
  · dsimp only
    rw [replaced, attempt.cleaned, Function.update_idem]
    exact Function.update_of_ne apart ..

end Attempt

/-- A write is atomic exactly if what goes wrong in it can be cleaned up after. By cases
along the steps. -/
theorem write_atomic_iff {directory : Directory} (attempt : Attempt directory) (name : String)
    (content : List CodePoint) :
    Atomic directory name content (attempt.write name content) ↔
      Recoverable attempt name content := by
  unfold Attempt.write Recoverable
  cases created : attempt.create with
  -- no temporary file, so nothing to clean up
  | some error =>
    apply iff_of_true
    · exact ⟨fun _ _ => rfl, fun returned => (nomatch returned), fun _ _ => rfl⟩
    · intro impossible
      cases impossible
  | none =>
    cases close : attempt.close with
    | some error =>
      simp only [Attempt.closed, close]
      rw [attempt.atomic_cleanUp_iff]
      simp
    | none =>
      -- what is not UTF-8 is no `OSError`, so the handler does not see it
      cases encoded : encodeStrict content with
      | none =>
        simp only [Attempt.closed, Attempt.filled, close, encoded]
        rw [attempt.atomic_cleanUp_iff]
        simp [Raised.IsOsError]
      | some data =>
        cases fill : attempt.fill with
        | some error =>
          simp only [Attempt.closed, Attempt.filled, close, encoded, fill]
          rw [attempt.atomic_cleanUp_iff]
          simp
        | none =>
          simp only [Attempt.closed, Attempt.filled, close, encoded, fill]
          cases renamed : attempt.renameFailure name with
          | some error =>
            rw [attempt.atomic_cleanUp_iff]
            simp
          | none =>
            -- the document is already in its place when its mode is set
            cases mode : attempt.chmod with
            | some error =>
              dsimp only
              rw [attempt.atomic_replaced_iff]
              simp
            | none =>
              have written := attempt.atomic_written name content encoded
              simp [written]

/-- A directory without entries, where nothing goes wrong. -/
def calm : Attempt fun _ => none where
  suffix := "a1b2c3d4"
  fresh := rfl

/-- Text reaches the file as its UTF-8. -/
theorem calm_write (name : String) (text : List Char) :
    (calm.write name (text.map CodePoint.ofChar)).2 name = some (.file (encode text) 0o644) := by
  simp only [Attempt.write, Attempt.closed, Attempt.filled, encodeStrict_text, calm,
    Attempt.renameFailure, reduceCtorEq, if_false]
  exact Function.update_self ..

/-- The mode of the renamed file cannot be changed. -/
def modeRefused : Attempt fun _ => none where
  suffix := "a1b2c3d4"
  chmod := some (.osError "Operation not permitted")
  fresh := rfl

/-- A lone surrogate leaves the temporary file behind, and a refused mode raises although
the new document is there. -/
theorem write_not_atomic :
    ((calm.write "report.md" [0xd800]).2 calm.temp = some (.file [] 0o600) ∧
      ¬ Atomic (fun _ => none) "report.md" [0xd800] (calm.write "report.md" [0xd800])) ∧
    modeRefused.write "report.md" [0x23] =
        (.error (.osError "Operation not permitted"), modeRefused.replaced "report.md" [0x23]) ∧
      ¬ Atomic (fun _ => none) "report.md" [0x23] (modeRefused.write "report.md" [0x23]) := by
  -- the two steps that go wrong
  have surrogate : calm.write "report.md" [0xd800] =
      calm.cleanUp [] (.other "UnicodeEncodeError" "surrogates not allowed") := rfl
  have refused : modeRefused.write "report.md" [0x23] =
      (.error (.osError "Operation not permitted"), modeRefused.replaced "report.md" [0x23]) := rfl
  refine ⟨⟨?_, ?_⟩, refused, ?_⟩
  · rw [surrogate]
    exact Function.update_self calm.temp (some (Entry.file [] 0o600)) fun _ => none
  · rw [surrogate, Attempt.atomic_cleanUp_iff]
    exact id
  · rw [refused, Attempt.atomic_replaced_iff]
    exact Option.some_ne_none _ ∘ Eq.symm

end Lapcare.Platform
