import Lapcare.Platform.Subprocess
import Lapcare.Providers.SystemFiles

/-!
# Fixture capture

`capture.py`. A capture goes through manifests of its own, source by source, and copies each
file by its stripped text. What it writes stands below `<source>/<machine>/`. It reads a tree
whose directories can be listed, and `write_text` encodes as UTF-8, as it does in the locales
of a desktop.
-/

namespace Lapcare.Capture

open Platform Providers Text

/-- `DEFAULT_MAX_BYTES`. -/
def defaultMaxBytes : ℕ := 64 * 1024

/-- `_DMI_FILES`. -/
def dmiFiles : List String :=
  ["sys_vendor", "product_name", "product_family", "product_version", "board_name",
    "bios_version", "bios_date"]

/-- `_DMI_IDENTIFIER_FILES`. -/
def dmiIdentifierFiles : List String :=
  ["product_serial", "product_uuid", "board_serial", "chassis_serial", "board_asset_tag",
    "chassis_asset_tag"]

/-- `_OS_INFO_FILES`. -/
def osInfoFiles : List RelPath :=
  [osReleaseFile, uptimeFile, kernelFile, cpuinfoFile, meminfoFile]

/-- `_TP_ACPI_DIR`. -/
def tpAcpiDir : RelPath := ["sys", "devices", "platform", "thinkpad_acpi"]

/-- `_POWER_SUPPLY_FILES`. The serial number is absent. -/
def powerSupplyFiles : List String :=
  ["type", "status", "online", "capacity", "cycle_count", "energy_full", "energy_full_design",
    "energy_now", "charge_full", "charge_full_design", "charge_now", "power_now", "model_name",
    "manufacturer", "technology", "present", "voltage_min_design"]

def isSlugChar (c : Char) : Bool :=
  c.isLower || c.isDigit

/-- `re.sub(r"[^a-z0-9]+", "-", text)`, from inside a run of other characters or from outside. -/
def collapse : Bool → List Char → List Char
  | _, [] => []
  | inRun, c :: rest =>
      -- a run of other characters becomes one dash, at its first character
      if isSlugChar c then c :: collapse false rest
      else if inRun then collapse true rest
      else '-' :: collapse true rest

/-- `text.strip("-")`. -/
def stripDashes (text : List Char) : List Char :=
  ((text.dropWhile (· == '-')).reverse.dropWhile (· == '-')).reverse

/-- `_slug`. -/
def slug (builtins : Builtins) (text : List Char) : String :=
  (nonEmpty (stripDashes (collapse false (builtins.lower text)))).getD "unknown-machine"

example (builtins : Builtins) (lower : builtins.lower = (·.map Char.toLower)) :
    slug builtins "ThinkPad E16 (Gen 2)".toList = "thinkpad-e16-gen-2" := by
  rw [slug, lower]
  decide

/-- `text + "\n"`, as a file. -/
def textFile (text : List Char) : List UInt8 :=
  encode (text ++ ['\n'])

/-- What the copy of a file holds, if there is one. -/
def copied (content : Option (List UInt8)) : Option (List UInt8) :=
  (readStr content defaultMaxBytes).map textFile

/-- `_copy_file`. -/
def copyFile (source : Root) (dest : RelPath) (out : Root) (relpath : RelPath) : Root :=
  match copied (source.content relpath) with
  | none => out
  | some data => out.write (dest ++ relpath) data

def copyFiles (source : Root) (dest : RelPath) (relpaths : List RelPath) (out : Root) : Root :=
  relpaths.foldl (copyFile source dest) out

/-- What a capture is given, apart from the tree it captures: the tools, the date, and the
program's own version. -/
structure Surroundings where
  runner : ToolRunner
  stamp : String
  version : String

/-- The notes of `README.md` and what was written so far. -/
structure Progress where
  out : Root
  notes : List String := []

def Progress.note (progress : Progress) (text : String) : Progress :=
  { progress with notes := progress.notes ++ [text] }

/-- The directory name of the machine. -/
def machineOf (builtins : Builtins) (source : Root) : String :=
  let named (name : String) : Option (List Char) :=
    (readStr (source.content (dmiDir ++ [name])) defaultMaxBytes).filter (· ≠ [])
  slug builtins ((named "product_family" <|> named "product_name").getD [])

section Sources

variable (source : Root) (machine : String)

def captureDmi (includeIdentifiers : Bool) (progress : Progress) : Progress :=
  let dest := ["dmi", machine]
  let out := copyFiles source dest (dmiFiles.map (dmiDir ++ [·])) progress.out
  if includeIdentifiers then
    { progress with out := copyFiles source dest (dmiIdentifierFiles.map (dmiDir ++ [·])) out }.note
      "IDENTIFIERS INCLUDED — local debugging only, never share"
  else { progress with out }.note "identifiers redacted at capture time (default)"

def captureOsInfo (includeIdentifiers : Bool) (progress : Progress) : Progress :=
  let dest := ["os_info", machine]
  let out := copyFiles source dest osInfoFiles progress.out
  if includeIdentifiers then
    { progress with
      out := copyFile source dest (out.mkdir (dest ++ hostnameFile).dropLast) hostnameFile }
  else
    { progress with out := out.write (dest ++ hostnameFile) (textFile "redacted-host".toList) }

/-- The names of the driver's attributes, without their values. -/
def attributeNames : List Char :=
  "\n".toList.intercalate ((source.sortedNames tpAcpiDir).map String.toList)

def captureThinkpadAcpi (progress : Progress) : Progress :=
  let dest := ["thinkpad_acpi", machine]
  if source.isDir tpAcpiDir then
    let out := copyFile source dest progress.out (tpAcpiDir ++ ["uevent"])
    { progress with
      out := out.write (dest ++ tpAcpiDir ++ ["attribute-names.txt"])
        (textFile (attributeNames source)) }
  else progress.note "thinkpad_acpi driver not present on this machine"

/-- The manifest of every entry. -/
def batteryFiles : List RelPath :=
  (source.sortedNames powerSupplyDir).flatMap fun entry =>
    powerSupplyFiles.map fun name => powerSupplyDir ++ [entry, name]

def captureBatteries (progress : Progress) : Progress :=
  if source.isDir powerSupplyDir then
    { progress with
      out := copyFiles source ["battery_sysfs", machine] (batteryFiles source) progress.out }
  else progress

end Sources

/-- The commands that are captured, with their arguments. -/
def toolCommands : List (String × List String) :=
  [("lspci", ["-mm"]), ("lsusb", [])]

/-- One turn of the loop over the commands. `timeout` is the runner's default. -/
def captureTool (runner : ToolRunner) (machine : String) (progress : Progress)
    (command : String × List String) : Progress :=
  let (tool, args) := command
  match runner tool args 10 with
  -- a tool that is not installed is noted, not raised
  | .error error =>
      let exc := error.message
      progress.note s!"{tool}: not captured ({exc})"
  | .ok output =>
      { progress with
        out := progress.out.write ["pci_usb", machine, tool ++ ".txt"] (encode output.toList) }

def captureTools (runner : ToolRunner) (machine : String) (progress : Progress) : Progress :=
  toolCommands.foldl (captureTool runner machine)
    { progress with out := progress.out.mkdir ["pci_usb", machine] }

/-- The text of `README.md`. -/
def readme (surroundings : Surroundings) (machine kernel : String) (notes : List String) : String :=
  let stamp := surroundings.stamp
  let version := surroundings.version
  s!"# Lapcare fixture capture\n\n- machine: {machine}\n- captured: {stamp} (lapcare {version})\n" ++
    s!"- kernel: {kernel}\n" ++ String.join (notes.map fun n => s!"- note: {n}\n") ++
    "\nLayout: `<source>/<machine>/...` — drop directories into `tests/fixtures/` " ++
    "(see docs/testing.md for the review checklist).\n"

/-- `read_str(root / "proc/sys/kernel/osrelease") or "unknown"`. -/
def kernelOf (source : Root) : String :=
  ((readStr (source.content kernelFile) defaultMaxBytes).bind nonEmpty).getD "unknown"

def captureReadme (surroundings : Surroundings) (source : Root) (machine : String)
    (progress : Progress) : Progress :=
  { progress with
    out := progress.out.write ["README.md"]
      (encode (readme surroundings machine (kernelOf source) progress.notes).toList) }

/-- `capture` into an empty directory: the machine's directory name and what is written. -/
def capture (builtins : Builtins) (surroundings : Surroundings) (source : Root)
    (includeIdentifiers : Bool) : String × Root :=
  let machine := machineOf builtins source
  let progress :=
    captureDmi source machine includeIdentifiers { out := Root.empty }
      |> captureOsInfo source machine includeIdentifiers
      |> captureThinkpadAcpi source machine
      |> captureBatteries source machine
      |> captureTools surroundings.runner machine
      |> captureReadme surroundings source machine
  (machine, progress.out)

end Lapcare.Capture
