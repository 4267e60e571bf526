import Lapcare.Core.ComputedShares
import Lapcare.Core.NamedMounts
import Lapcare.Pages.ExportTexts
import Lapcare.Providers.MountTable

/-!
# Filesystem UUIDs in an export

A removable filesystem is mounted at `/media/<user>/<filesystem UUID>`. The disk-space check
names the mountpoints of full filesystems, and the one with the least free share in any case,
and all three formats show what it names. Which one has the least share goes by the shares as
they are computed.

## Main results

* `keepsUuids_iff` — the exports that show no UUID of a mountpoint
-/

namespace Lapcare.Pages

open Lapcare.Core Json Semantics Semantics.Logged Text

/-! ### UUIDs -/

/-- The groups of hexadecimal digits of a filesystem UUID: that of a Linux filesystem, of
VFAT, of NTFS and of ISO 9660. -/
def uuidShapes : List (List ℕ) :=
  [[8, 4, 4, 4, 12], [4, 4], [16], [4, 2, 2, 2, 2, 2, 2]]

def isUuid (name : List Char) : Bool :=
  name.all isIdLetter && uuidShapes.contains ((name.splitOn '-').map List.length)

/-- The UUIDs among the components of mountpoints. -/
def mountedUuids (mountpoints : List String) : List (List Char) :=
  mountpoints.flatMap fun mountpoint => (mountpoint.toList.splitOn '/').filter isUuid

theorem length_intercalate_add_one {α : Type} (c : α) (group : List α) (groups : List (List α)) :
    ([c].intercalate (group :: groups)).length + 1 =
      ((group :: groups).map fun group => group.length + 1).sum := by
  induction groups generalizing group with
  | nil => simp [List.intercalate]
  | cons next groups ih =>
    have split : [c].intercalate (group :: next :: groups) =
        group ++ c :: [c].intercalate (next :: groups) := by
      simp [List.intercalate]
    rw [split, List.map_cons, List.sum_cons, ← ih next, List.length_append, List.length_cons]
    omega

/-- A UUID is long enough to be told from all that an export has of its own. -/
theorem idWord_of_isUuid {name : List Char} (uuid : isUuid name = true) : IdWord name := by
  obtain ⟨letters, shaped⟩ := Bool.and_eq_true_iff.1 uuid
  have shape := List.contains_iff_mem.1 shaped
  have long : ∀ shape ∈ uuidShapes, 10 ≤ (shape.map (· + 1)).sum := by decide
  have bound := long _ shape
  refine ⟨List.all_eq_true.1 letters, ?_, by decide⟩
  cases split : name.splitOn '-' with
  | nil => exact absurd split (List.splitOn_ne_nil '-' name)
  | cons group groups =>
    have length := length_intercalate_add_one '-' group groups
    rw [← split, List.intercalate_splitOn] at length
    rw [List.map_map] at bound
    change 10 ≤ ((name.splitOn '-').map fun group => group.length + 1).sum at bound
    omega

theorem idWord_of_mem_mountedUuids {mountpoints : List String} {uuid : List Char}
    (member : uuid ∈ mountedUuids mountpoints) : IdWord uuid := by
  obtain ⟨mountpoint, -, among⟩ := List.mem_flatMap.1 member
  exact idWord_of_isUuid (List.mem_filter.1 among).2

/-! ### Exports of a run -/

/-- The document that an export writes to a path while the page shows a report. -/
def writtenReport (report : DiagnosticsReport) (context : ExportContext) (path : String) :
    List Char :=
  ((({} : DiagnosticsViewModel).runDone report).content report context path).toList

theorem writtenReport_eq (inputs : Inputs) :
    writtenReport inputs.report = exportedDocument inputs := rfl

/-- No document of a run that computes free shares by `share`, in whatever format, shows a UUID
of these mountpoints. -/
def KeepsUuids (share : DiskUsage → ℚ) (mountpoints : List String) (inputs : Inputs)
    (context : ExportContext) : Prop :=
  ∀ uuid ∈ mountedUuids mountpoints, ∀ path,
    ¬ uuid <:+: writtenReport (inputs.reportBy share) context path

/-- What an export shows besides mountpoints, in Markdown and HTML. -/
def otherTexts (share : DiskUsage → ℚ) (inputs : Inputs) (context : ExportContext) :
    List String :=
  context.generated :: context.appVersion ::
    (systemTexts context ++ evidenceTexts inputs.otherResults ++
      shownShare share (inputs.usages.getD []))

/-- What it shows besides mountpoints, in JSON. -/
def otherJsonTexts (share : DiskUsage → ℚ) (inputs : Inputs) (context : ExportContext) :
    List String :=
  context.generated :: context.appVersion ::
    (systemTexts context ++ skipTexts inputs ++ dictTexts inputs.otherResults ++
      shownShare share (inputs.usages.getD []))

/-- No UUID of these mountpoints stands in a mountpoint that the disk-space check names, or by
chance in another text of the export. -/
structure Unexposed (share : DiskUsage → ℚ) (mountpoints : List String) (inputs : Inputs)
    (context : ExportContext) : Prop where
  mounts : ∀ uuid ∈ mountedUuids mountpoints,
    ∀ usage ∈ namedUsages share (inputs.usages.getD []), ¬ uuid <:+: usage.mountpoint.toList
  texts : ∀ uuid ∈ mountedUuids mountpoints, ∀ text ∈ otherTexts share inputs context,
    ¬ uuid <:+: text.toList
  jsonMounts : ∀ uuid ∈ mountedUuids mountpoints,
    ∀ usage ∈ dictUsages share (inputs.usages.getD []), ¬ uuid <:+: escaped usage.mountpoint
  jsonTexts : ∀ uuid ∈ mountedUuids mountpoints, ∀ text ∈ otherJsonTexts share inputs context,
    ¬ uuid <:+: escaped text

section Occurrences

variable {word : List Char} (idWord : IdWord word) (share : DiskUsage → ℚ) (inputs : Inputs)
  (context : ExportContext)

include idWord

theorem shows_mounts_iff :
    ((({} : DiagnosticsViewModel).runDone (inputs.reportBy share)).rendered context).Shows word ↔
      (∃ usage ∈ namedUsages share (inputs.usages.getD []), word <:+: usage.mountpoint.toList) ∨
        ∃ text ∈ otherTexts share inputs context, word <:+: text.toList := by
  have named : (∃ usage ∈ namedUsages share (inputs.usages.getD []),
      word <:+: usage.mountpoint.toList) ↔
        ∃ text ∈ (namedUsages share (inputs.usages.getD [])).map (·.mountpoint),
          word <:+: text.toList := by
    simp only [List.mem_map, exists_exists_and_eq_and]
  have evidence (text : String) : text ∈ evidenceTexts (inputs.resultsBy share) ↔
      text ∈ evidenceTexts inputs.otherResults ∨
        text ∈ (checkDiskSpaceBy share inputs.usages).metrics.map (·.2) := by
    rw [Inputs.resultsBy, evidenceTexts, List.flatMap_append, List.mem_append,
      List.flatMap_singleton]
    rfl
  -- what is computed here is exact of other filesystems at the same mountpoints
  rw [← inputs.report_withShares share, shows_rendered_iff idWord, Inputs.results_withShares, named]
  simp only [otherTexts, List.exists_mem_cons_iff, List.mem_append, evidence, mem_diskEvidence_iff,
    or_and_right, exists_or, or_assoc, or_left_comm]

theorem infix_toJson_mounts_iff :
    word <:+: (toJson context (inputs.reportBy share)).toList ↔
      (∃ usage ∈ dictUsages share (inputs.usages.getD []), word <:+: escaped usage.mountpoint) ∨
        ∃ text ∈ otherJsonTexts share inputs context, word <:+: escaped text := by
  have named : (∃ usage ∈ dictUsages share (inputs.usages.getD []),
      word <:+: escaped usage.mountpoint) ↔
        ∃ text ∈ (dictUsages share (inputs.usages.getD [])).map (·.mountpoint),
          word <:+: escaped text := by
    simp only [List.mem_map, exists_exists_and_eq_and]
  have evidence (text : String) : text ∈ dictTexts (inputs.resultsBy share) ↔
      text ∈ dictTexts inputs.otherResults ∨
        text ∈ (dict (checkDiskSpaceBy share inputs.usages).metrics).map (·.2) := by
    rw [Inputs.resultsBy, dictTexts, List.flatMap_append, List.mem_append, List.flatMap_singleton]
    rfl
  have skip : skipTexts (inputs.withShares share) = skipTexts inputs := rfl
  rw [← inputs.report_withShares share, infix_toJson_iff idWord, Inputs.results_withShares, skip,
    named]
  simp only [otherJsonTexts, List.exists_mem_cons_iff, List.mem_append, evidence, mem_diskDict_iff,
    or_and_right, exists_or, or_assoc, or_left_comm]

/-- The filesystem with the least free share is named in every document. -/
theorem infix_writtenReport {usage : DiskUsage}
    (least : leastFree share (inputs.usages.getD []) = some usage)
    (plain : word <:+: usage.mountpoint.toList) (json : word <:+: escaped usage.mountpoint)
    (path : String) : word <:+: writtenReport (inputs.reportBy share) context path := by
  have named : usage ∈ namedUsages share (inputs.usages.getD []) := by
    simp [namedUsages, least]
  have kept : usage ∈ dictUsages share (inputs.usages.getD []) := by
    simp [dictUsages, least]
  have shown := (shows_mounts_iff idWord share inputs context).2 (.inl ⟨usage, named, plain⟩)
  have dumped := (infix_toJson_mounts_iff idWord share inputs context).2 (.inl ⟨usage, kept, json⟩)
  rw [writtenReport, DiagnosticsViewModel.content]
  split_ifs
  · exact dumped
  · exact (infix_renderHtml_iff idWord _).2 shown
  · exact (infix_renderMarkdown_iff idWord _).2 shown

omit share in
/-- Every document has one of the three formats, and there is a path for JSON and Markdown. -/
theorem exported_iff (report : DiagnosticsReport) :
    (∃ path, word <:+: writtenReport report context path) ↔
      ((({} : DiagnosticsViewModel).runDone report).rendered context).Shows word ∨
        word <:+: (toJson context report).toList := by
  simp only [writtenReport, DiagnosticsViewModel.content]
  generalize (({} : DiagnosticsViewModel).runDone report).rendered context = rendered
  constructor
  · rintro ⟨path, within⟩
    split_ifs at within
    · exact .inr within
    · exact .inl ((infix_renderHtml_iff idWord rendered).1 within)
    · exact .inl ((infix_renderMarkdown_iff idWord rendered).1 within)
  · rintro (shown | within)
    · refine ⟨"report.md", ?_⟩
      rw [if_neg (by decide), if_neg (by decide)]
      exact (infix_renderMarkdown_iff idWord rendered).2 shown
    · refine ⟨"report.json", ?_⟩
      rw [if_pos (by decide)]
      exact within

end Occurrences

/-- An export keeps the UUIDs of mountpoints to itself exactly where the filesystems that the
disk-space check names, by shares as they are computed, are mounted elsewhere. -/
theorem keepsUuids_iff (share : DiskUsage → ℚ) (mountpoints : List String) (inputs : Inputs)
    (context : ExportContext) :
    KeepsUuids share mountpoints inputs context ↔ Unexposed share mountpoints inputs context := by
  -- the Markdown and HTML text show four kinds of text, the JSON document escapes them
  have each {uuid : List Char} (member : uuid ∈ mountedUuids mountpoints) :
      (∀ path, ¬ uuid <:+: writtenReport (inputs.reportBy share) context path) ↔
        ¬ (((∃ usage ∈ namedUsages share (inputs.usages.getD []),
              uuid <:+: usage.mountpoint.toList) ∨
            ∃ text ∈ otherTexts share inputs context, uuid <:+: text.toList) ∨
          (∃ usage ∈ dictUsages share (inputs.usages.getD []), uuid <:+: escaped usage.mountpoint) ∨
            ∃ text ∈ otherJsonTexts share inputs context, uuid <:+: escaped text) := by
    have idWord := idWord_of_mem_mountedUuids member
    rw [← not_exists, exported_iff idWord, shows_mounts_iff idWord, infix_toJson_mounts_iff idWord]
  constructor
  · intro keeps
    have absent {uuid : List Char} (member : uuid ∈ mountedUuids mountpoints) :=
      (each member).1 (keeps uuid member)
    exact
      { mounts := fun uuid member usage among within =>
          absent member (.inl (.inl ⟨usage, among, within⟩))
        texts := fun uuid member text among within =>
          absent member (.inl (.inr ⟨text, among, within⟩))
        jsonMounts := fun uuid member usage among within =>
          absent member (.inr (.inl ⟨usage, among, within⟩))
        jsonTexts := fun uuid member text among within =>
          absent member (.inr (.inr ⟨text, among, within⟩)) }
  · intro unexposed uuid member
    rw [each member]
    rintro ((⟨usage, among, within⟩ | ⟨text, among, within⟩) |
      ⟨usage, among, within⟩ | ⟨text, among, within⟩)
    · exact unexposed.mounts uuid member usage among within
    · exact unexposed.texts uuid member text among within
    · exact unexposed.jsonMounts uuid member usage among within
    · exact unexposed.jsonTexts uuid member text among within

/-! ### A stick -/

theorem solid_root : ∀ c ∈ "/dev/sda1".toList, isSpace c = false := by
  simp [isSpace]

theorem solid_stick : ∀ c ∈ "/dev/sdb1".toList, isSpace c = false := by
  simp [isSpace]

theorem oneLine_root : ∀ c ∈ "ext4 rw".toList, isLineBreak c = false := by
  simp [isLineBreak]

theorem oneLine_stick : ∀ c ∈ "vfat rw".toList, isLineBreak c = false := by
  simp [isLineBreak]

theorem device_root : Providers.devicePrefix <+: "/dev/sda1".toList := by decide

theorem device_stick : Providers.devicePrefix <+: "/dev/sdb1".toList := by decide

theorem absolute_root : "/".toList.head? = some '/' := rfl

theorem noNul_root : '\x00' ∉ "/".toList := by decide

/-- A stick mounted where removable filesystems are mounted. -/
def stickTable : List Providers.Mount :=
  [⟨"/dev/sda1".toList, "/".toList, "ext4 rw".toList, device_root, solid_root, absolute_root,
      noNul_root, oneLine_root⟩,
    ⟨"/dev/sdb1".toList, "/media/alice/1234-ABCD".toList, "vfat rw".toList, device_stick,
      solid_stick, rfl, by decide, oneLine_stick⟩]

/-- Half of the root is free, and two fifths of the stick. -/
def stickStatvfs (path : List Char) : Except Providers.StatvfsError Providers.Stat :=
  if path = "/".toList then .ok ⟨4096, 1000, 500⟩
  else if path = "/media/alice/1234-ABCD".toList then .ok ⟨4096, 200, 80⟩
  else .error (.osError "no such mount")

def stickUsages : List DiskUsage :=
  [{ mountpoint := "/", totalBytes := 4096000, freeBytes := 2048000 },
    { mountpoint := "/media/alice/1234-ABCD", totalBytes := 819200, freeBytes := 327680 }]

/-- What a run gathers where only filesystems can be read. -/
def stickInputs : Inputs where
  wears := none
  reports := none
  storageSkip := "not-requested"
  pending := none
  temps := none
  usages := some stickUsages

def stickContext : ExportContext where
  generated := "2026-07-01 12:00 UTC"
  appVersion := appVersion
  identity := none
  osInfo := none

/-- A stick with less free space than the root is named in every format, although no
filesystem is low. -/
theorem stick_exported :
    (exec (Providers.tableHost (fun _ => none) stickStatvfs stickTable).listUsage []).1 =
        .ok stickUsages ∧
      (∀ path, "1234-ABCD".toList <:+: exportedDocument stickInputs stickContext path) ∧
      ¬ KeepsUuids DiskUsage.freePct
        (stickTable.map fun mount => String.ofList mount.mountpoint) stickInputs stickContext := by
  have idWord : IdWord "1234-ABCD".toList := idWord_of_isUuid (by decide +kernel)
  have mounted : "1234-ABCD".toList ∈
      mountedUuids (stickTable.map fun mount => String.ofList mount.mountpoint) := by
    decide +kernel
  have least : leastFree DiskUsage.freePct stickUsages =
      some
        { mountpoint := "/media/alice/1234-ABCD", totalBytes := 819200, freeBytes := 327680 } := by
    decide +kernel
  have exposed := infix_writtenReport idWord DiskUsage.freePct stickInputs stickContext least
    (by decide +kernel) (by decide +kernel)
  rw [Inputs.reportBy_freePct, writtenReport_eq] at exposed
  refine ⟨?_, exposed, fun keeps => keeps _ mounted "report.md" (exposed _)⟩
  rw [Providers.exec_tableHost _ _ (by decide)]
  decide +kernel

end Lapcare.Pages
