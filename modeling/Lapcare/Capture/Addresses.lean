import Lapcare.Capture.Independence
import Lapcare.Capture.Written
import Lapcare.Providers.PciUsb
import Lapcare.Text.Occurs

/-!
# MAC addresses in the names of power supplies

The kernel names the battery of a Bluetooth device after its address. A capture copies no
file for that name, but it writes the copies below a directory of that name, so the address
stays in their paths.

## Main results

* `unaddressed_iff` — when a redacted capture writes no address out of a name
-/

namespace Lapcare.Capture

open Platform Providers Root Text

/-- Six bytes in hexadecimal, between colons. -/
def IsMac (word : List Char) : Prop :=
  ∃ pairs : List (Char × Char), pairs.length = 6 ∧
    (∀ pair ∈ pairs, isHexDigit pair.1 = true ∧ isHexDigit pair.2 = true) ∧
      word = [':'].intercalate (pairs.map fun pair => [pair.1, pair.2])

/-- A MAC address out of the name of a power supply. -/
def OfPowerSupply (source : Root) (mac : List Char) : Prop :=
  IsMac mac ∧ ∃ entry ∈ source.sortedNames powerSupplyDir, mac <:+: entry.toList

/-- A path, as it is printed. -/
def pathText (path : RelPath) : List Char :=
  ['/'].intercalate (path.map String.toList)

/-- Neither the path nor the text of a file has the word. -/
def Without (word : List Char) (path : RelPath) (data : List UInt8) : Prop :=
  ¬ word <:+: pathText path ∧ ¬ word <:+: decode data

/-- The files that are copied, apart from the hostname. -/
def manifest (source : Root) : List RelPath :=
  dmiFiles.map (dmiDir ++ [·]) ++ osInfoFiles ++
    (if source.isDir tpAcpiDir then [tpAcpiDir ++ ["uevent"]] else []) ++ batteryFiles source

/-- The texts that a redacted capture takes from the machine, the tools and the program. -/
inductive Taken (surroundings : Surroundings) (source : Root) : List Char → Prop
  | copy {relpath : RelPath} {text : List Char} (listed : relpath ∈ manifest source)
      (read : readStr (source.content relpath) defaultMaxBytes = some text) :
      Taken surroundings source text
  | attributeName {name : String} (driver : source.isDir tpAcpiDir = true)
      (listed : name ∈ source.sortedNames tpAcpiDir) : Taken surroundings source name.toList
  | output {tool : String} {args : List String} {text : String}
      (listed : (tool, args) ∈ toolCommands)
      (ran : surroundings.runner tool args 10 = .ok text) : Taken surroundings source text.toList
  | failure {tool : String} {args : List String} {error : ToolError}
      (listed : (tool, args) ∈ toolCommands)
      (failed : surroundings.runner tool args 10 = .error error) :
      Taken surroundings source error.message.toList
  | stamp : Taken surroundings source surroundings.stamp.toList
  | version : Taken surroundings source surroundings.version.toList

/-- No file of a redacted capture has an address out of a name in its path or its text. -/
def Unaddressed (builtins : Builtins) (surroundings : Surroundings) (source : Root) : Prop :=
  ∀ mac, OfPowerSupply source mac →
    Every (Without mac) (capture builtins surroundings source false).2

/-! ### Addresses as words -/

/-- The characters of an address. -/
def isMacChar (c : Char) : Bool :=
  isHexDigit c || c == ':'

section Words

variable {mac : List Char} (isMac : IsMac mac)

include isMac

theorem IsMac.longWord : LongWord isMacChar 17 mac := by
  obtain ⟨pairs, six, hex, rfl⟩ := isMac
  -- letters of its own, and long enough to reach past what stands around it
  refine ⟨fun c member => ?_, ?_, by decide⟩
  · rcases mem_intercalate member with rfl | ⟨text, listed, within⟩
    · rfl
    · obtain ⟨pair, paired, rfl⟩ := List.mem_map.mp listed
      rw [isMacChar, Bool.or_eq_true]
      rcases List.mem_pair.mp within with rfl | rfl
      · exact .inl (hex pair paired).1
      · exact .inl (hex pair paired).2
  · match pairs, six with
    | [_, _, _, _, _, _], _ => exact Nat.le_refl 17

theorem IsMac.colon_mem : ':' ∈ mac := by
  obtain ⟨pairs, six, -, rfl⟩ := isMac
  match pairs, six with
  | [_, _, _, _, _, _], _ => simp [List.intercalate_cons_cons]

/-- A text without colons has no address. -/
theorem IsMac.not_infix {text : List Char} (plain : ':' ∉ text) : ¬ mac <:+: text :=
  fun within => plain (within.subset isMac.colon_mem)

/-- The address is in one component of the path. -/
theorem IsMac.infix_pathText_iff (path : RelPath) :
    mac <:+: pathText path ↔ ∃ name ∈ path, mac <:+: name.toList := by
  rw [pathText, isMac.longWord.intercalate_iff (by decide)]
  simp only [List.mem_map]
  constructor
  · rintro ⟨text, ⟨name, member, rfl⟩, within⟩
    exact ⟨name, member, within⟩
  · rintro ⟨name, member, within⟩
    exact ⟨name.toList, ⟨name, member, rfl⟩, within⟩

theorem IsMac.infix_textFile_iff (text : List Char) :
    mac <:+: decode (textFile text) ↔ mac <:+: text := by
  rw [textFile, decode_encode, infix_concat_other_iff isMac.longWord.letters (by decide)]

end Words

/-! ### Copies -/

section Copies

variable {p : RelPath → List UInt8 → Prop} {source : Root} {dest : RelPath}

/-- What stands in the destination so far are copies. -/
def OnlyCopies (source : Root) (dest : RelPath) (out : Root) : Prop :=
  ∀ relpath, out.content (dest ++ relpath) = none ∨
    out.content (dest ++ relpath) = copied (source.content relpath)

theorem content_of_untouched {top : String} {out : Root} (here : dest.head? = some top)
    (untouched : Untouched top out) (relpath : RelPath) : out.content (dest ++ relpath) = none := by
  refine untouched _ ?_
  rw [List.head?_append, here]
  rfl

theorem onlyCopies_of_untouched {top : String} {out : Root} (here : dest.head? = some top)
    (untouched : Untouched top out) : OnlyCopies source dest out := fun relpath =>
  .inl (content_of_untouched here untouched relpath)

/-- Copying makes nothing that is not copied. -/
theorem content_copyFiles_of_untouched {top : String} {out : Root} (here : dest.head? = some top)
    (untouched : Untouched top out) (relpaths : List RelPath) {other : RelPath}
    (apart : other ∉ relpaths) :
    (copyFiles source dest relpaths out).content (dest ++ other) = none := by
  have seen := congrArg (·.content other) (below_copyFiles source dest relpaths out)
  rw [content_copyFiles, if_neg apart] at seen
  exact seen.trans (content_of_untouched here untouched other)

theorem OnlyCopies.copyFile {out : Root} (only : OnlyCopies source dest out) (relpath : RelPath) :
    OnlyCopies source dest (Capture.copyFile source dest out relpath) := by
  intro other
  rw [Capture.copyFile]
  cases copy : copied (source.content relpath) with
  | none => exact only other
  | some data =>
    -- a second copy of one file is the same as the first
    by_cases same : other = relpath
    · subst same
      exact .inr (by rw [content_write, if_pos rfl, copy])
    · have apart : dest ++ other ≠ dest ++ relpath := fun joined =>
        same (List.append_cancel_left joined)
      dsimp only
      rw [content_write, if_neg apart]
      exact only other

/-- The files of a fold of copies are the files before it, and the copies that are made. -/
theorem every_copyFiles_iff {out : Root} (only : OnlyCopies source dest out)
    (relpaths : List RelPath) :
    Every p (copyFiles source dest relpaths out) ↔
      Every p out ∧ ∀ relpath ∈ relpaths, ∀ text,
        readStr (source.content relpath) defaultMaxBytes = some text →
          p (dest ++ relpath) (textFile text) := by
  induction relpaths generalizing out with
  | nil => simp [copyFiles]
  | cons relpath relpaths ih =>
    have one : Every p (copyFile source dest out relpath) ↔ Every p out ∧
        ∀ text, readStr (source.content relpath) defaultMaxBytes = some text →
          p (dest ++ relpath) (textFile text) := by
      have kept := only relpath
      rw [copied] at kept
      rw [copyFile, copied]
      cases read : readStr (source.content relpath) defaultMaxBytes with
      | none => simp
      | some text =>
        rw [read] at kept
        rw [Option.map_some]
        dsimp only
        rw [every_write_iff kept, and_comm]
        simp
    rw [copyFiles, List.foldl_cons, ← copyFiles, ih (only.copyFile relpath), one,
      List.forall_mem_cons, and_assoc]

end Copies

/-! ### The sources one by one -/

section Steps

variable {mac : List Char} (isMac : IsMac mac) {source : Root} {machine : String}
  {progress : Progress}

/-- Nothing that was written so far has the word, nor has a note. -/
def Progress.Clean (word : List Char) (progress : Progress) : Prop :=
  Every (Without word) progress.out ∧ ∀ note ∈ progress.notes, ¬ word <:+: note.toList

theorem clean_note_iff (text : String) :
    (progress.note text).Clean mac ↔ progress.Clean mac ∧ ¬ mac <:+: text.toList := by
  simp [Progress.Clean, Progress.note, or_imp, forall_and, and_assoc]

/-- A path without colons. -/
def PlainPath (path : RelPath) : Prop :=
  ∀ name ∈ path, ':' ∉ name.toList

instance (path : RelPath) : Decidable (PlainPath path) :=
  inferInstanceAs (Decidable (∀ name ∈ path, ':' ∉ name.toList))

theorem plainPath_append {path path' : RelPath} (plain : PlainPath path)
    (plain' : PlainPath path') : PlainPath (path ++ path') := fun name member =>
  (List.mem_append.mp member).elim (plain name) (plain' name)

include isMac

theorem IsMac.not_infix_pathText {path : RelPath} (plain : PlainPath path) :
    ¬ mac <:+: pathText path := by
  rw [isMac.infix_pathText_iff]
  rintro ⟨name, member, within⟩
  exact isMac.not_infix (plain name member) within

theorem IsMac.without_iff {path : RelPath} (plain : PlainPath path) (text : List Char) :
    Without mac path (textFile text) ↔ ¬ mac <:+: text := by
  rw [Without, isMac.infix_textFile_iff]
  exact and_iff_right (isMac.not_infix_pathText plain)

/-- Copies to plain paths are as clean as what is copied. -/
theorem IsMac.clean_copyFiles_iff {dest : RelPath} (relpaths : List RelPath)
    (only : OnlyCopies source dest progress.out)
    (plain : ∀ relpath ∈ relpaths, PlainPath (dest ++ relpath)) :
    Progress.Clean mac { progress with out := copyFiles source dest relpaths progress.out } ↔
      progress.Clean mac ∧ ∀ relpath ∈ relpaths, ∀ text,
        readStr (source.content relpath) defaultMaxBytes = some text → ¬ mac <:+: text := by
  rw [Progress.Clean, every_copyFiles_iff only, Progress.Clean, and_right_comm]
  refine and_congr_right' (forall₂_congr fun relpath listed => ?_)
  exact forall₂_congr fun text _ => isMac.without_iff (plain relpath listed) text

theorem IsMac.clean_captureDmi_iff (plain : ':' ∉ machine.toList)
    (untouched : Untouched "dmi" progress.out) :
    (captureDmi source machine false progress).Clean mac ↔
      progress.Clean mac ∧ ∀ relpath ∈ dmiFiles.map (dmiDir ++ [·]), ∀ text,
        readStr (source.content relpath) defaultMaxBytes = some text → ¬ mac <:+: text := by
  have paths : ∀ relpath ∈ dmiFiles.map (dmiDir ++ [·]), PlainPath relpath := by decide
  have dest : PlainPath ["dmi", machine] := by simp [PlainPath, plain]
  rw [captureDmi, if_neg (by decide), clean_note_iff,
    and_iff_left (isMac.not_infix (by decide)),
    isMac.clean_copyFiles_iff _ (onlyCopies_of_untouched rfl untouched)
      fun relpath listed => plainPath_append dest (paths relpath listed)]

theorem IsMac.clean_captureOsInfo_iff (plain : ':' ∉ machine.toList)
    (untouched : Untouched "os_info" progress.out) :
    (captureOsInfo source machine false progress).Clean mac ↔
      progress.Clean mac ∧ ∀ relpath ∈ osInfoFiles, ∀ text,
        readStr (source.content relpath) defaultMaxBytes = some text → ¬ mac <:+: text := by
  have paths : ∀ relpath ∈ osInfoFiles, PlainPath relpath := by decide
  have dest : PlainPath ["os_info", machine] := by simp [PlainPath, plain]
  have only : OnlyCopies source ["os_info", machine] progress.out :=
    onlyCopies_of_untouched rfl untouched
  -- the hostname is not in the manifest, so nothing is written in its place
  have new : (copyFiles source ["os_info", machine] osInfoFiles progress.out).content
      (["os_info", machine] ++ hostnameFile) = none :=
    content_copyFiles_of_untouched rfl untouched osInfoFiles (by decide)
  have redacted : Without mac (["os_info", machine] ++ hostnameFile)
      (textFile "redacted-host".toList) := by
    rw [isMac.without_iff (plainPath_append dest (by decide))]
    exact isMac.not_infix (by decide)
  rw [captureOsInfo, if_neg (by decide), Progress.Clean, every_write_iff (.inl new),
    and_iff_right redacted]
  exact isMac.clean_copyFiles_iff _ only
    fun relpath listed => plainPath_append dest (paths relpath listed)

theorem IsMac.clean_captureThinkpadAcpi_iff (plain : ':' ∉ machine.toList)
    (untouched : Untouched "thinkpad_acpi" progress.out) :
    (captureThinkpadAcpi source machine progress).Clean mac ↔
      progress.Clean mac ∧ (source.isDir tpAcpiDir = true →
        (∀ text, readStr (source.content (tpAcpiDir ++ ["uevent"])) defaultMaxBytes = some text →
          ¬ mac <:+: text) ∧
        ∀ name ∈ source.sortedNames tpAcpiDir, ¬ mac <:+: name.toList) := by
  have dest : PlainPath ["thinkpad_acpi", machine] := by simp [PlainPath, plain]
  have only : OnlyCopies source ["thinkpad_acpi", machine] progress.out :=
    onlyCopies_of_untouched rfl untouched
  unfold captureThinkpadAcpi
  split_ifs with driver
  · have uevent : PlainPath (["thinkpad_acpi", machine] ++ (tpAcpiDir ++ ["uevent"])) :=
      plainPath_append dest (by decide)
    have copies := isMac.clean_copyFiles_iff [tpAcpiDir ++ ["uevent"]] only
      (List.forall_mem_singleton.mpr uevent)
    have new : (copyFile source ["thinkpad_acpi", machine] progress.out
        (tpAcpiDir ++ ["uevent"])).content
          (["thinkpad_acpi", machine] ++ tpAcpiDir ++ ["attribute-names.txt"]) = none :=
      content_copyFiles_of_untouched rfl untouched [tpAcpiDir ++ ["uevent"]] (by decide)
    -- the names stand in one file, a line each
    have names : Without mac (["thinkpad_acpi", machine] ++ tpAcpiDir ++ ["attribute-names.txt"])
        (textFile (attributeNames source)) ↔
          ∀ name ∈ source.sortedNames tpAcpiDir, ¬ mac <:+: name.toList := by
      rw [isMac.without_iff (plainPath_append (plainPath_append dest (by decide)) (by decide)),
        attributeNames]
      change ¬ mac <:+: ['\n'].intercalate _ ↔ _
      rw [isMac.longWord.intercalate_iff (by decide)]
      simp
    rw [Progress.Clean, every_write_iff (.inl new), names, and_assoc]
    rw [List.forall_mem_singleton] at copies
    refine (and_congr_right' copies).trans ?_
    rw [and_left_comm]
    exact and_congr_right' (by simp [driver, and_comm])
  · rw [clean_note_iff, and_iff_left (isMac.not_infix (by decide))]
    simp [driver]

theorem IsMac.clean_captureBatteries_iff (plain : ':' ∉ machine.toList)
    (untouched : Untouched "battery_sysfs" progress.out) :
    (captureBatteries source machine progress).Clean mac ↔
      progress.Clean mac ∧ ∀ entry ∈ source.sortedNames powerSupplyDir,
        ∀ name ∈ powerSupplyFiles, ∀ text,
          readStr (source.content (powerSupplyDir ++ [entry, name])) defaultMaxBytes = some text →
            ¬ mac <:+: entry.toList ∧ ¬ mac <:+: text := by
  have only : OnlyCopies source ["battery_sysfs", machine] progress.out :=
    onlyCopies_of_untouched rfl untouched
  -- of the path of a copy only the name of the entry is not fixed
  have named (entry name : String) (listed : name ∈ powerSupplyFiles) :
      mac <:+: pathText (["battery_sysfs", machine] ++ (powerSupplyDir ++ [entry, name])) ↔
        mac <:+: entry.toList := by
    have fixed : ∀ name ∈ powerSupplyFiles, ':' ∉ name.toList := by decide
    rw [isMac.infix_pathText_iff]
    constructor
    · rintro ⟨part, member, within⟩
      by_cases same : part = entry
      · exact same ▸ within
      · have plainPart : ':' ∉ part.toList := by
          simp only [powerSupplyDir, List.cons_append, List.nil_append, List.mem_cons,
            List.not_mem_nil, or_false] at member
          rcases member with rfl | rfl | rfl | rfl | rfl | rfl | rfl
          · decide
          · exact plain
          · decide
          · decide
          · decide
          · exact absurd rfl same
          · exact fixed part listed
        exact (isMac.not_infix plainPart within).elim
    · intro within
      exact ⟨entry, by simp, within⟩
  unfold captureBatteries
  split_ifs with present
  · rw [Progress.Clean, every_copyFiles_iff only, Progress.Clean, and_right_comm]
    refine and_congr_right' ?_
    simp only [batteryFiles, List.forall_mem_flatMap, List.forall_mem_map]
    refine forall₂_congr fun entry _ => forall₂_congr fun name listed =>
      forall₂_congr fun text _ => ?_
    rw [Without, named entry name listed, isMac.infix_textFile_iff]
  · have empty : source.sortedNames powerSupplyDir = [] := by
      have missing : source.entries powerSupplyDir = none := by
        simpa [isDir] using present
      simp [sortedNames, missing]
    simp [empty]

theorem IsMac.clean_captureTool_iff {surroundings : Surroundings} {tool : String}
    {args : List String} (plainTool : ':' ∉ tool.toList) (plain : ':' ∉ machine.toList)
    (opens : opening isMacChar 17 (tool ++ ": not captured (").toList = true)
    (new : progress.out.content ["pci_usb", machine, tool ++ ".txt"] = none) :
    (captureTool surroundings.runner machine progress (tool, args)).Clean mac ↔
      progress.Clean mac ∧
        (∀ text, surroundings.runner tool args 10 = .ok text → ¬ mac <:+: text.toList) ∧
        ∀ error, surroundings.runner tool args 10 = .error error →
          ¬ mac <:+: error.message.toList := by
  have path : PlainPath ["pci_usb", machine, tool ++ ".txt"] := by
    have file : ':' ∉ (tool ++ ".txt").toList := by simp [plainTool]
    simp [PlainPath, plain, plainTool]
  simp only [captureTool]
  -- an output is a file of its own, and a failure is quoted in a note
  cases ran : surroundings.runner tool args 10 with
  | ok text =>
    have file : Without mac ["pci_usb", machine, tool ++ ".txt"] (encode text.toList) ↔
        ¬ mac <:+: text.toList := by
      rw [Without, decode_encode]
      exact and_iff_right (isMac.not_infix_pathText path)
    rw [Progress.Clean, every_write_iff (.inl new), file, and_assoc, and_comm]
    simp [Progress.Clean]
  | error error =>
    have noted : mac <:+: (tool ++ ": not captured (" ++ error.message ++ ")").toList ↔
        mac <:+: error.message.toList := by
      rw [String.toList_append, String.toList_append, List.append_assoc,
        isMac.longWord.opening_iff opens, isMac.longWord.append_fence_iff (by decide)]
    have clean : (progress.note (tool ++ ": not captured (" ++ error.message ++ ")")).Clean mac ↔
        progress.Clean mac ∧ ¬ mac <:+: error.message.toList := by
      rw [clean_note_iff, noted]
    refine clean.trans ?_
    simp

theorem IsMac.clean_captureTools_iff {surroundings : Surroundings} (plain : ':' ∉ machine.toList)
    (untouched : Untouched "pci_usb" progress.out) :
    (captureTools surroundings.runner machine progress).Clean mac ↔
      progress.Clean mac ∧ ∀ command ∈ toolCommands,
        (∀ text, surroundings.runner command.1 command.2 10 = .ok text →
          ¬ mac <:+: text.toList) ∧
        ∀ error, surroundings.runner command.1 command.2 10 = .error error →
          ¬ mac <:+: error.message.toList := by
  obtain ⟨base, made⟩ : ∃ base : Progress,
      base = { progress with out := progress.out.mkdir ["pci_usb", machine] } := ⟨_, rfl⟩
  have new (file : String) : base.out.content ["pci_usb", machine, file] = none := by
    rw [made]
    exact untouched _ rfl
  -- the first command writes no file of the second
  have second : (captureTool surroundings.runner machine base
      ("lspci", ["-mm"])).out.content ["pci_usb", machine, "lsusb" ++ ".txt"] = none := by
    simp only [captureTool]
    cases surroundings.runner "lspci" ["-mm"] 10 with
    | error error => exact new _
    | ok text =>
      dsimp only
      rw [content_write, if_neg (by simp), new]
  have same : base.Clean mac ↔ progress.Clean mac := by rw [made]; rfl
  rw [captureTools, toolCommands, List.foldl_cons, List.foldl_cons, List.foldl_nil, ← made,
    isMac.clean_captureTool_iff (by decide) plain (by decide) second,
    isMac.clean_captureTool_iff (by decide) plain (by decide) (new _), same, and_assoc]
  simp

/-- The words around what `README.md` quotes. -/
theorem IsMac.infix_readme_iff (surroundings : Surroundings) (plain : ':' ∉ machine.toList)
    (kernel : String) (notes : List String) :
    mac <:+: (readme surroundings machine kernel notes).toList ↔
      mac <:+: surroundings.stamp.toList ∨ mac <:+: surroundings.version.toList ∨
        mac <:+: kernel.toList ∨ ∃ note ∈ notes, mac <:+: note.toList := by
  have word := isMac.longWord
  have note (text : String) : mac <:+: (s!"- note: {text}\n").toList ↔ mac <:+: text.toList := by
    change mac <:+: ("- note: " ++ text ++ "\n").toList ↔ _
    rw [String.toList_append, String.toList_append, List.append_assoc,
      word.opening_iff (by decide), word.append_fence_iff (by decide)]
  have noted : mac <:+: (String.join (notes.map fun n => s!"- note: {n}\n")).toList ↔
      ∃ text ∈ notes, mac <:+: text.toList := by
    rw [String.toList_join, List.flatMap_map, word.flatMap_fence_iff fun text => ?_]
    · simp only [note]
    · refine ⟨("- note: " ++ text).toList, "\n".toList, ?_, by decide⟩
      exact String.toList_append
  -- the fixed words are no part of an address, so they only separate what is quoted
  change mac <:+: ("# Lapcare fixture capture\n\n- machine: " ++ machine ++ "\n- captured: " ++
    surroundings.stamp ++ " (lapcare " ++ surroundings.version ++ ")\n" ++
      ("- kernel: " ++ kernel ++ "\n") ++ String.join (notes.map fun n => s!"- note: {n}\n") ++
        _ ++ _).toList ↔ _
  simp only [String.toList_append, List.append_assoc]
  rw [word.opening_iff (by decide), word.fence_iff (by decide),
    or_iff_right (isMac.not_infix plain), word.fence_iff (by decide), word.fence_iff (by decide),
    word.fence_append_iff (by decide), word.fence_iff (by decide), word.fence_iff (by decide),
    noted, or_iff_left (word.not_infix_of_brief (by decide))]

omit isMac in
/-- The directory name of a machine has letters, digits and dashes only. -/
theorem colon_notMem_machineOf (builtins : Builtins) (source : Root) :
    ':' ∉ (machineOf builtins source).toList := by
  have collapsed (inRun : Bool) (text : List Char) : ':' ∉ collapse inRun text := by
    induction text generalizing inRun with
    | nil => simp [collapse]
    | cons c text ih =>
      rw [collapse]
      -- a colon is no character of a slug, so it has become part of a dash
      split_ifs with kept
      · have other : ':' ≠ c := by
          rintro rfl
          exact absurd kept (by decide)
        simp [other, ih]
      · exact ih true
      · simp [ih]
  have stripped {text : List Char} (plain : ':' ∉ text) : ':' ∉ stripDashes text := by
    intro member
    rw [stripDashes, List.mem_reverse] at member
    have backwards := (List.dropWhile_suffix (· == '-')).subset member
    exact plain ((List.dropWhile_suffix (· == '-')).subset (List.mem_reverse.mp backwards))
  simp only [machineOf, slug, nonEmpty]
  split_ifs
  · decide
  · rw [Option.getD_some, String.toList_ofList]
    exact stripped (collapsed _ _)

theorem IsMac.clean_captureReadme_iff (surroundings : Surroundings) (plain : ':' ∉ machine.toList)
    (untouched : Untouched "README.md" progress.out) :
    Every (Without mac) (captureReadme surroundings source machine progress).out ↔
      progress.Clean mac ∧ ¬ mac <:+: surroundings.stamp.toList ∧
        ¬ mac <:+: surroundings.version.toList ∧ ¬ mac <:+: (kernelOf source).toList := by
  have path : ¬ mac <:+: pathText ["README.md"] := isMac.not_infix_pathText (by decide)
  rw [captureReadme, every_write_iff (.inl (untouched _ rfl)), Without, decode_encode,
    and_iff_right path, isMac.infix_readme_iff surroundings plain, Progress.Clean]
  simp only [not_or, not_exists, not_and]
  tauto

/-- The kernel that the note names is in the manifest. -/
theorem IsMac.not_infix_kernelOf
    (kernel : ∀ text, readStr (source.content kernelFile) defaultMaxBytes = some text →
      ¬ mac <:+: text) : ¬ mac <:+: (kernelOf source).toList := by
  rw [kernelOf]
  cases read : readStr (source.content kernelFile) defaultMaxBytes with
  | none => exact isMac.not_infix (by decide)
  | some text =>
    rw [Option.bind_some, nonEmpty]
    split_ifs
    · exact isMac.not_infix (by decide)
    · rw [Option.getD_some, String.toList_ofList]
      exact kernel text read

end Steps

section Capture

variable {source : Root} {machine : String} {progress : Progress} {top : String}

theorem untouched_captureDmi (apart : top ≠ "dmi") (untouched : Untouched top progress.out) :
    Untouched top (captureDmi source machine false progress).out :=
  (within_copyFiles source rfl _).untouched apart untouched

theorem untouched_captureOsInfo (apart : top ≠ "os_info") (untouched : Untouched top progress.out) :
    Untouched top (captureOsInfo source machine false progress).out :=
  ((within_write rfl _).comp (within_copyFiles source rfl _)).untouched apart untouched

theorem untouched_captureThinkpadAcpi (apart : top ≠ "thinkpad_acpi")
    (untouched : Untouched top progress.out) :
    Untouched top (captureThinkpadAcpi source machine progress).out := by
  unfold captureThinkpadAcpi
  split_ifs
  · exact ((within_write rfl _).comp (within_copyFile source rfl _)).untouched apart untouched
  · exact untouched

theorem untouched_captureBatteries (apart : top ≠ "battery_sysfs")
    (untouched : Untouched top progress.out) :
    Untouched top (captureBatteries source machine progress).out := by
  unfold captureBatteries
  split_ifs
  · exact (within_copyFiles source rfl _).untouched apart untouched
  · exact untouched

theorem untouched_captureTools {runner : ToolRunner} (apart : top ≠ "pci_usb")
    (untouched : Untouched top progress.out) :
    Untouched top (captureTools runner machine progress).out := by
  have one (progress : Progress) (command : String × List String)
      (untouched : Untouched top progress.out) :
      Untouched top (captureTool runner machine progress command).out := by
    obtain ⟨tool, args⟩ := command
    simp only [captureTool]
    cases runner tool args 10 with
    | error error => exact untouched
    | ok output => exact (within_write rfl _).untouched apart untouched
  have made : Untouched top
      ({ progress with out := progress.out.mkdir ["pci_usb", machine] } : Progress).out :=
    (within_mkdir rfl).untouched apart untouched
  rw [captureTools, toolCommands, List.foldl_cons, List.foldl_cons, List.foldl_nil]
  exact one _ _ (one _ _ made)

theorem mem_manifest_iff {relpath : RelPath} :
    relpath ∈ manifest source ↔
      relpath ∈ dmiFiles.map (dmiDir ++ [·]) ∨ relpath ∈ osInfoFiles ∨
        (source.isDir tpAcpiDir = true ∧ relpath = tpAcpiDir ++ ["uevent"]) ∨
          ∃ entry ∈ source.sortedNames powerSupplyDir, ∃ name ∈ powerSupplyFiles,
            relpath = powerSupplyDir ++ [entry, name] := by
  have driver : relpath ∈ (if source.isDir tpAcpiDir then [tpAcpiDir ++ ["uevent"]] else []) ↔
      source.isDir tpAcpiDir = true ∧ relpath = tpAcpiDir ++ ["uevent"] := by
    split_ifs with present <;> simp [present]
  have battery : relpath ∈ batteryFiles source ↔
      ∃ entry ∈ source.sortedNames powerSupplyDir, ∃ name ∈ powerSupplyFiles,
        relpath = powerSupplyDir ++ [entry, name] := by
    simp only [batteryFiles, List.mem_flatMap, List.mem_map, eq_comm]
  rw [manifest, List.mem_append, List.mem_append, List.mem_append, driver, battery, or_assoc,
    or_assoc]

/-- For one address: the names of the supplies that are copied, and the texts. -/
theorem IsMac.every_without_capture_iff {mac : List Char} (isMac : IsMac mac) (builtins : Builtins)
    (surroundings : Surroundings) (source : Root) :
    Every (Without mac) (capture builtins surroundings source false).2 ↔
      (∀ entry ∈ source.sortedNames powerSupplyDir, ∀ name ∈ powerSupplyFiles,
        readStr (source.content (powerSupplyDir ++ [entry, name])) defaultMaxBytes ≠ none →
          ¬ mac <:+: entry.toList) ∧
      ∀ text, Taken surroundings source text → ¬ mac <:+: text := by
  have plain := colon_notMem_machineOf builtins source
  simp only [capture]
  rw [isMac.clean_captureReadme_iff surroundings plain, isMac.clean_captureTools_iff plain,
    isMac.clean_captureBatteries_iff plain, isMac.clean_captureThinkpadAcpi_iff plain,
    isMac.clean_captureOsInfo_iff plain, isMac.clean_captureDmi_iff plain untouched_empty]
  · constructor
    · rintro ⟨⟨⟨⟨⟨⟨-, dmi⟩, osInfo⟩, driver⟩, batteries⟩, tools⟩, stamp, version, -⟩
      refine ⟨fun entry listed name member readable => ?_, fun text taken => ?_⟩
      · obtain ⟨text, read⟩ := Option.ne_none_iff_exists'.mp readable
        exact (batteries entry listed name member text read).1
      -- every text that is taken belongs to one of the sources
      · cases taken with
        | copy listed read =>
          rcases mem_manifest_iff.mp listed with
            inDmi | inOsInfo | ⟨present, rfl⟩ | ⟨entry, inDir, name, member, rfl⟩
          · exact dmi _ inDmi text read
          · exact osInfo _ inOsInfo text read
          · exact (driver present).1 text read
          · exact (batteries entry inDir name member text read).2
        | attributeName present listed => exact (driver present).2 _ listed
        | output listed ran => exact (tools _ listed).1 _ ran
        | failure listed failed => exact (tools _ listed).2 _ failed
        | stamp => exact stamp
        | version => exact version
    · rintro ⟨names, texts⟩
      have copies {relpath : RelPath} (listed : relpath ∈ manifest source) (text : List Char)
          (read : readStr (source.content relpath) defaultMaxBytes = some text) :
          ¬ mac <:+: text := texts text (.copy listed read)
      have inOsInfo (relpath : RelPath) (listed : relpath ∈ osInfoFiles) :
          relpath ∈ manifest source := mem_manifest_iff.mpr (.inr (.inl listed))
      have start : Progress.Clean mac { out := empty } := ⟨every_empty _, fun note member =>
        absurd member List.not_mem_nil⟩
      refine ⟨⟨⟨⟨⟨⟨start, ?_⟩, ?_⟩, ?_⟩, ?_⟩, ?_⟩, texts _ .stamp, texts _ .version, ?_⟩
      · exact fun relpath listed => copies (mem_manifest_iff.mpr (.inl listed))
      · exact fun relpath listed => copies (inOsInfo relpath listed)
      · intro present
        exact ⟨copies (mem_manifest_iff.mpr (.inr (.inr (.inl ⟨present, rfl⟩)))),
          fun name listed => texts _ (.attributeName present listed)⟩
      · intro entry inDir name member text read
        refine ⟨names entry inDir name member (by simp [read]), copies ?_ text read⟩
        exact mem_manifest_iff.mpr (.inr (.inr (.inr ⟨entry, inDir, name, member, rfl⟩)))
      · exact fun command listed => ⟨fun text ran => texts _ (.output listed ran),
          fun error failed => texts _ (.failure listed failed)⟩
      · exact isMac.not_infix_kernelOf (copies (inOsInfo kernelFile (by decide)))
  -- what was written for the other sources stands elsewhere
  · exact untouched_captureDmi (by decide) untouched_empty
  · exact untouched_captureOsInfo (by decide) (untouched_captureDmi (by decide) untouched_empty)
  · exact untouched_captureThinkpadAcpi (by decide) (untouched_captureOsInfo (by decide)
      (untouched_captureDmi (by decide) untouched_empty))
  · exact untouched_captureBatteries (by decide) (untouched_captureThinkpadAcpi (by decide)
      (untouched_captureOsInfo (by decide) (untouched_captureDmi (by decide) untouched_empty)))
  · exact untouched_captureTools (by decide) (untouched_captureBatteries (by decide)
      (untouched_captureThinkpadAcpi (by decide) (untouched_captureOsInfo (by decide)
        (untouched_captureDmi (by decide) untouched_empty))))

/-- A redacted capture writes no address out of a name exactly if no power supply with an
address in its name has a file that is copied, and no text that is taken has such an address. -/
theorem unaddressed_iff (builtins : Builtins) (surroundings : Surroundings) (source : Root) :
    Unaddressed builtins surroundings source ↔
      (∀ entry ∈ source.sortedNames powerSupplyDir, (∃ mac, IsMac mac ∧ mac <:+: entry.toList) →
        ∀ name ∈ powerSupplyFiles,
          readStr (source.content (powerSupplyDir ++ [entry, name])) defaultMaxBytes = none) ∧
      ∀ mac, OfPowerSupply source mac →
        ∀ text, Taken surroundings source text → ¬ mac <:+: text := by
  constructor
  · intro unaddressed
    refine ⟨fun entry listed ⟨mac, isMac, within⟩ name member => ?_, fun mac ofName => ?_⟩
    · -- the copy would stand below the name that the address is in
      obtain ⟨names, -⟩ := (isMac.every_without_capture_iff builtins surroundings source).mp
        (unaddressed mac ⟨isMac, entry, listed, within⟩)
      by_contra readable
      exact names entry listed name member readable within
    · exact ((ofName.1.every_without_capture_iff builtins surroundings source).mp
        (unaddressed mac ofName)).2
  · rintro ⟨unread, texts⟩ mac ofName
    rw [ofName.1.every_without_capture_iff]
    refine ⟨fun entry listed name member readable within => ?_, texts mac ofName⟩
    exact readable (unread entry listed ⟨mac, ofName.1, within⟩ name member)

end Capture

/-! ### A keyboard -/

/-- The battery of a Bluetooth keyboard. -/
def keyboardEntry : String := "hid-aa:bb:cc:dd:ee:ff-battery"

/-- A machine with the keyboard and nothing else. -/
def keyboardTree : Root :=
  Root.empty.write (powerSupplyDir ++ [keyboardEntry, "type"]) (textFile "Battery".toList)

theorem isMac_keyboard : IsMac "aa:bb:cc:dd:ee:ff".toList :=
  ⟨[('a', 'a'), ('b', 'b'), ('c', 'c'), ('d', 'd'), ('e', 'e'), ('f', 'f')], rfl, by decide, rfl⟩

/-- The copy of the keyboard's type stands below its address. -/
theorem keyboard_addressed :
    (capturedRoot letterBuiltins noTools keyboardTree "battery_sysfs").content
        (powerSupplyDir ++ [keyboardEntry, "type"]) = some (textFile "Battery".toList) ∧
      ¬ Unaddressed letterBuiltins noTools keyboardTree := by
  have listed : keyboardEntry ∈ keyboardTree.sortedNames powerSupplyDir := by
    rw [keyboardTree, mem_sortedNames_write]
    exact .inl rfl
  have read : readStr (keyboardTree.content (powerSupplyDir ++ [keyboardEntry, "type"]))
      defaultMaxBytes = some "Battery".toList := by
    rw [keyboardTree, content_write, if_pos rfl]
    decide
  have filed : powerSupplyDir ++ [keyboardEntry, "type"] ∈ batteryFiles keyboardTree :=
    List.mem_flatMap.mpr ⟨keyboardEntry, listed, List.mem_map.mpr ⟨"type", by decide, rfl⟩⟩
  have within : "aa:bb:cc:dd:ee:ff".toList <:+: keyboardEntry.toList :=
    ⟨"hid-".toList, "-battery".toList, rfl⟩
  have present : keyboardTree.isDir powerSupplyDir = true := rfl
  refine ⟨?_, fun unaddressed => ?_⟩
  · rw [below_capture_batteries, if_pos present, content_copyFiles, if_pos filed, copied, read]
    rfl
  · obtain ⟨names, -⟩ := (isMac_keyboard.every_without_capture_iff _ _ _).mp
      (unaddressed _ ⟨isMac_keyboard, keyboardEntry, listed, within⟩)
    exact names keyboardEntry listed "type" (by decide) (by simp [read]) within

end Lapcare.Capture
