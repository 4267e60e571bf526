import Lapcare.Capture.Writer

/-!
# What a capture writes

For each source, the tree that a redacted capture writes for it, as seen from the directory
that a provider is given to replay it.

## Main results

* `below_capture_dmi`, `below_capture_osInfo`, `below_capture_batteries` — each source has its
  own copies, and nothing else
* `content_copyFiles`, `mem_sortedNames_copyFiles` — files and names among copies
-/

namespace Lapcare.Capture

open Lapcare.Core Platform Providers Root Text

/-! ### What is written for each source -/

section Written

variable (source : Root)

theorem within_copyFile {top : String} {dest : RelPath} (here : dest.head? = some top)
    (relpath : RelPath) : Within top (copyFile source dest · relpath) := by
  unfold copyFile
  cases copied (source.content relpath) with
  | none => exact within_id
  | some data =>
    refine within_write ?_ data
    cases dest with
    | nil => exact nomatch here
    | cons first dest => exact here

theorem within_copyFiles {top : String} {dest : RelPath} (here : dest.head? = some top)
    (relpaths : List RelPath) : Within top (copyFiles source dest relpaths) :=
  within_foldl (within_copyFile source here) relpaths

/-- Copies, seen from the directory they are made in. -/
theorem below_copyFiles (dest : RelPath) (relpaths : List RelPath) (out : Root) :
    below dest (copyFiles source dest relpaths out) =
      copyFiles source [] relpaths (below dest out) := by
  induction relpaths generalizing out with
  | nil => rfl
  | cons relpath relpaths ih =>
    have one : below dest (copyFile source dest out relpath) =
        copyFile source [] (below dest out) relpath := by
      unfold copyFile
      cases copied (source.content relpath) with
      | none => rfl
      | some data => exact below_write dest relpath data out
    rw [copyFiles, List.foldl_cons, ← copyFiles, ih, one]
    rfl

/-- A file among copies is the copy of its original. -/
theorem content_copyFiles (relpaths : List RelPath) (out : Root) (path : RelPath) :
    (copyFiles source [] relpaths out).content path =
      if path ∈ relpaths then (copied (source.content path)).or (out.content path)
      else out.content path := by
  induction relpaths generalizing out with
  | nil => rfl
  | cons relpath relpaths ih =>
    -- a copy that fails writes nothing, so what was there stays
    have one : (copyFile source [] out relpath).content path =
        if path = relpath then (copied (source.content path)).or (out.content path)
        else out.content path := by
      unfold copyFile
      by_cases same : path = relpath
      · subst same
        cases copied (source.content path) <;> simp [content_write]
      · cases copied (source.content relpath) <;> simp [content_write, same]
    rw [copyFiles, List.foldl_cons, ← copyFiles, ih, one]
    by_cases same : path = relpath
    · subst same
      cases copied (source.content path) <;> simp
    · simp [same]

/-- The names in a directory of copies are those that a copy was made for. -/
theorem mem_sortedNames_copyFiles (relpaths : List RelPath) (out : Root) (dir : RelPath)
    (name : String) :
    name ∈ (copyFiles source [] relpaths out).sortedNames dir ↔
      (∃ path ∈ relpaths, copied (source.content path) ≠ none ∧
        entryBelow dir path = some name) ∨ name ∈ out.sortedNames dir := by
  induction relpaths generalizing out with
  | nil => simp [copyFiles]
  | cons relpath relpaths ih =>
    -- a failed copy adds no name either
    have one : name ∈ (copyFile source [] out relpath).sortedNames dir ↔
        (copied (source.content relpath) ≠ none ∧ entryBelow dir relpath = some name) ∨
          name ∈ out.sortedNames dir := by
      unfold copyFile
      cases copied (source.content relpath) with
      | none => simp
      | some data => simp [mem_sortedNames_write]
    rw [copyFiles, List.foldl_cons, ← copyFiles, ih, one]
    simp only [List.exists_mem_cons_iff]
    rw [or_left_comm, or_assoc]

end Written

section Capture

variable (builtins : Builtins) (surroundings : Surroundings) (source : Root)

/-- The captures of the other sources, the tools' outputs and the note on the capture are not
seen from the directory of one source. -/
theorem below_captureTools {base : RelPath} (nested : base ≠ [])
    (elsewhere : base.head? ≠ some "pci_usb") (machine : String) (progress : Progress) :
    below base (captureTools surroundings.runner machine progress).out =
      below base progress.out := by
  have one (progress : Progress) (command : String × List String) :
      below base (captureTool surroundings.runner machine progress command).out =
        below base progress.out := by
    obtain ⟨tool, args⟩ := command
    simp only [captureTool]
    cases surroundings.runner tool args 10 with
    | error error => rfl
    | ok output => exact (within_write rfl _).below_eq nested elsewhere _
  -- each of the writes is below `pci_usb`
  have made : below base (progress.out.mkdir ["pci_usb", machine]) = below base progress.out :=
    (within_mkdir rfl).below_eq nested elsewhere _
  simp only [captureTools, toolCommands, List.foldl_cons, List.foldl_nil, one, made]

theorem below_captureBatteries {base : RelPath} (nested : base ≠ [])
    (elsewhere : base.head? ≠ some "battery_sysfs") (machine : String) (progress : Progress) :
    below base (captureBatteries source machine progress).out = below base progress.out := by
  unfold captureBatteries
  split
  · exact (within_copyFiles source rfl _).below_eq nested elsewhere _
  · rfl

theorem below_captureThinkpadAcpi {base : RelPath} (nested : base ≠ [])
    (elsewhere : base.head? ≠ some "thinkpad_acpi") (machine : String) (progress : Progress) :
    below base (captureThinkpadAcpi source machine progress).out = below base progress.out := by
  unfold captureThinkpadAcpi
  split
  · exact ((within_write rfl _).comp (within_copyFile source rfl _)).below_eq nested elsewhere _
  · rfl

theorem below_captureOsInfo {base : RelPath} (nested : base ≠ [])
    (elsewhere : base.head? ≠ some "os_info") (machine : String) (progress : Progress) :
    below base (captureOsInfo source machine false progress).out = below base progress.out :=
  ((within_write rfl _).comp (within_copyFiles source rfl _)).below_eq nested elsewhere _

theorem below_captureDmi {base : RelPath} (nested : base ≠ [])
    (elsewhere : base.head? ≠ some "dmi") (machine : String) (progress : Progress) :
    below base (captureDmi source machine false progress).out = below base progress.out :=
  (within_copyFiles source rfl _).below_eq nested elsewhere _

theorem below_captureReadme {base : RelPath} (nested : base ≠ [])
    (elsewhere : base.head? ≠ some "README.md") (machine : String) (progress : Progress) :
    below base (captureReadme surroundings source machine progress).out =
      below base progress.out :=
  (within_write rfl _).below_eq nested elsewhere _

/-- The directory that a redacted capture writes for a source. -/
def capturedRoot (sourceName : String) : Root :=
  let written := capture builtins surroundings source false
  below [sourceName, written.1] written.2

theorem below_capture_dmi :
    capturedRoot builtins surroundings source "dmi" =
      copyFiles source [] (dmiFiles.map (dmiDir ++ [·])) empty := by
  simp only [capturedRoot, capture]
  rw [below_captureReadme, below_captureTools, below_captureBatteries, below_captureThinkpadAcpi,
    below_captureOsInfo]
  · exact below_copyFiles source _ _ empty
  all_goals simp

theorem below_capture_osInfo :
    capturedRoot builtins surroundings source "os_info" =
      (copyFiles source [] osInfoFiles empty).write hostnameFile
        (textFile "redacted-host".toList) := by
  simp only [capturedRoot, capture]
  rw [below_captureReadme, below_captureTools, below_captureBatteries, below_captureThinkpadAcpi]
  · simp only [captureOsInfo, Bool.false_eq_true, if_false]
    rw [below_write, below_copyFiles, below_captureDmi, below_empty] <;> simp
  all_goals simp

theorem below_capture_batteries :
    capturedRoot builtins surroundings source "battery_sysfs" =
      if source.isDir powerSupplyDir then copyFiles source [] (batteryFiles source) empty
      else empty := by
  simp only [capturedRoot, capture]
  rw [below_captureReadme, below_captureTools]
  · -- the captures before it write elsewhere, and it starts from nothing
    have untouched : below ["battery_sysfs", machineOf builtins source]
        (captureThinkpadAcpi source (machineOf builtins source)
          (captureOsInfo source (machineOf builtins source) false
            (captureDmi source (machineOf builtins source) false { out := empty }))).out =
        empty := by
      rw [below_captureThinkpadAcpi, below_captureOsInfo, below_captureDmi, below_empty] <;> simp
    unfold captureBatteries
    split
    · rw [below_copyFiles, untouched]
    · exact untouched
  all_goals simp

end Capture

end Lapcare.Capture
