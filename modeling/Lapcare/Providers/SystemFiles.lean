import Lapcare.Core.Models
import Lapcare.Platform.Files
import Lapcare.Providers.DiskUsage
import Lapcare.Text.Split

/-!
# Providers that read system files

`providers/dmi.py`, `providers/os_info.py` and `providers/battery_sysfs.py`, with `read_int`
of `platform/files.py`. Every field is made of the text of one file, so each reader is
given as what it makes of that text. A file that cannot be read, or that is longer than
its reader admits, has none.
-/

namespace Lapcare.Providers

open Lapcare.Core Platform Text

/-- What is used of Python's built-in types. `none` stands for a `ValueError`; an infinity or
a `nan` is a `float`. -/
structure Builtins where
  int : List Char → Option Int
  float : List Char → Option PyFloat
  lower : List Char → List Char

/-- `read_int`. -/
def readInt (builtins : Builtins) (content : Option (List UInt8)) : Option Int :=
  (readStr content 64).bind builtins.int

/-- A numeral has a digit for each power of ten at least. -/
def Builtins.Decimal (builtins : Builtins) : Prop :=
  ∀ text n, builtins.int text = some n → n.natAbs < 10 ^ text.length

/-- What is read has no more digits than a file may have bytes. -/
theorem readInt_lt {builtins : Builtins} (decimal : builtins.Decimal)
    {content : Option (List UInt8)} {n : Int} (read : readInt builtins content = some n) :
    n.natAbs < 10 ^ 64 := by
  obtain ⟨text, filled, value⟩ := Option.bind_eq_some_iff.mp read
  refine (decimal text n value).trans_le (Nat.pow_le_pow_right (by decide) ?_)
  rcases content with _ | data
  · cases filled
  · obtain ⟨short, same⟩ : ¬ data.length > 64 ∧ strip (decode data) = text := by
      simpa [readStr] using filled
    have inside : (strip (decode data)).Sublist (decode data) :=
      (List.rdropWhile_prefix isSpace _).sublist.trans (List.dropWhile_sublist isSpace)
    rw [← same]
    exact inside.length_le.trans ((length_decode_le data).trans (by omega))

/-- `text or None`. -/
def nonEmpty (text : List Char) : Option String :=
  if text = [] then none else some (String.ofList text)

/-! ### DMI -/

/-- What a file says, if it can be read and is not too long. -/
def said (root : Root) (path : RelPath) (maxBytes : ℕ) : Option String :=
  (readStr (root.content path) maxBytes).map String.ofList

def dmiDir : RelPath := ["sys", "class", "dmi", "id"]

/-- `DmiSysfs.read_identity`. -/
def readIdentity (root : Root) : SystemIdentity :=
  let field (name : String) : Option String :=
    (readStr (root.content (dmiDir ++ [name])) 4096).map String.ofList
  { vendor := field "sys_vendor"
    productName := field "product_name"
    productFamily := field "product_family"
    productVersion := field "product_version"
    boardName := field "board_name"
    biosVersion := field "bios_version"
    biosDate := field "bios_date"
    serial := field "product_serial" }

/-! ### Operating system, processors and memory -/

def osReleaseFile : RelPath := ["etc", "os-release"]
def uptimeFile : RelPath := ["proc", "uptime"]
def kernelFile : RelPath := ["proc", "sys", "kernel", "osrelease"]
def hostnameFile : RelPath := ["proc", "sys", "kernel", "hostname"]
def cpuinfoFile : RelPath := ["proc", "cpuinfo"]
def meminfoFile : RelPath := ["proc", "meminfo"]

/-- `text.strip('"')`. -/
def stripQuotes (text : List Char) : List Char :=
  ((text.dropWhile (· == '"')).reverse.dropWhile (· == '"')).reverse

/-- The assignment in a line of os-release, if it has one. -/
def releaseLine (line : List Char) : Option (List Char × List Char) :=
  let line := strip line
  if line = [] ∨ line.head? = some '#' then none
  else (cut ['='] line).map fun parts => (strip parts.1, stripQuotes (strip parts.2))

/-- `_parse_os_release`, the last assignment of a key first. -/
def parseOsRelease (text : List Char) : List (List Char × List Char) :=
  ((splitLines text).filterMap releaseLine).reverse

/-- `release.get(key)`. An empty text has no assignments either. -/
def releaseValue (key : String) (text : List Char) : Option String :=
  ((parseOsRelease text).lookup key.toList).map String.ofList

/-- `float(uptime_text.split()[0])`. -/
def uptimeOf (builtins : Builtins) (text : List Char) : Option PyFloat :=
  (splitFields text).head?.bind builtins.float

/-- `OsInfoProc.read_os`. -/
def readOs (builtins : Builtins) (root : Root) : OsInfo :=
  let releaseText := readStr (root.content osReleaseFile) 16384
  { distroName := releaseText.bind (releaseValue "PRETTY_NAME")
    distroVersion := releaseText.bind (releaseValue "VERSION_ID")
    kernel := (readStr (root.content kernelFile) 256).map String.ofList
    hostname := (readStr (root.content hostnameFile) 256).map String.ofList
    uptimeSeconds := (readStr (root.content uptimeFile) 128).bind (uptimeOf builtins) }

/-- Local variables of the loop over the lines of cpuinfo. -/
structure CpuScan where
  count : ℕ := 0
  cpuModel : Option String := none

/-- `line.partition(":")[2]`. -/
def afterColon (line : List Char) : List Char :=
  ((cut [':'] line).map (·.2)).getD []

/-- One turn of the loop. -/
def CpuScan.turn (scan : CpuScan) (line : List Char) : CpuScan :=
  if "processor".toList.isPrefixOf line then { scan with count := scan.count + 1 }
  else if scan.cpuModel = none ∧ "model name".toList.isPrefixOf line then
    { scan with cpuModel := nonEmpty (strip (afterColon line)) }
  else scan

def scanCpuinfo (text : List Char) : CpuScan :=
  (splitLines text).foldl CpuScan.turn {}

theorem count_foldl (lines : List (List Char)) (scan : CpuScan) :
    (lines.foldl CpuScan.turn scan).count =
      scan.count + lines.countP ("processor".toList.isPrefixOf ·) := by
  induction lines generalizing scan with
  | nil => rfl
  | cons line lines ih =>
    have one : (scan.turn line).count =
        scan.count + if "processor".toList.isPrefixOf line then 1 else 0 := by
      unfold CpuScan.turn
      split
      · rfl
      · split <;> rfl
    rw [List.foldl_cons, ih, one, List.countP_cons, Nat.add_assoc, Nat.add_comm (List.countP ..)]

/-- The processors are counted line by line. -/
theorem count_scanCpuinfo (text : List Char) :
    (scanCpuinfo text).count = (splitLines text).countP ("processor".toList.isPrefixOf ·) := by
  rw [scanCpuinfo, count_foldl]
  exact Nat.zero_add _

/-- `count or None`. -/
def cpuCountOf (text : List Char) : Option Int :=
  if (scanCpuinfo text).count = 0 then none else some (scanCpuinfo text).count

/-- The second field of the first line that begins with `MemTotal:`, as an integer. -/
def memoryTotalOf (builtins : Builtins) (text : List Char) : Option Int := do
  let line ← (splitLines text).find? ("MemTotal:".toList.isPrefixOf ·)
  builtins.int (← (splitFields line)[1]?)

/-- `OsInfoProc.read_cpu_mem`. -/
def readCpuMem (builtins : Builtins) (root : Root) : CpuMemSummary :=
  let cpuinfo := readStr (root.content cpuinfoFile) (1024 * 1024)
  { cpuModel := cpuinfo.bind fun text => (scanCpuinfo text).cpuModel
    cpuCount := cpuinfo.bind cpuCountOf
    memoryTotalKib := (readStr (root.content meminfoFile) 65536).bind (memoryTotalOf builtins) }

/-! ### Batteries -/

def powerSupplyDir : RelPath := ["sys", "class", "power_supply"]

section Batteries

variable (builtins : Builtins) (root : Root)

/-- `_read_capacity`. Energy is preferred where a battery reports both families. -/
def readCapacity (entry : RelPath) : Option Int × Option Int × Option CapacityUnit :=
  let readEntry (name : String) : Option Int := readInt builtins (root.content (entry ++ [name]))
  let energyFull := readEntry "energy_full"
  let energyDesign := readEntry "energy_full_design"
  if energyFull ≠ none ∨ energyDesign ≠ none then
    -- one of the two is enough, the other may stay unknown
    (energyFull, energyDesign, some .microWattHours)
  else
    let chargeFull := readEntry "charge_full"
    let chargeDesign := readEntry "charge_full_design"
    if chargeFull ≠ none ∨ chargeDesign ≠ none then
      (chargeFull, chargeDesign, some .microAmpHours)
    else (none, none, none)

/-- Some firmware reports a cycle count of -1 or 0. -/
def positiveInt (text : List Char) : Option Int :=
  (builtins.int text).filter (0 < ·)

/-- What a battery is listed as. -/
def batteryWear (name : String) : BatteryWear :=
  let entry := powerSupplyDir ++ [name]
  let text (file : String) (maxBytes : ℕ) : Option String :=
    (readStr (root.content (entry ++ [file])) maxBytes).map String.ofList
  let capacity := readCapacity builtins root entry
  { name
    capacityFull := capacity.1
    capacityDesign := capacity.2.1
    capacityUnit := capacity.2.2
    cycleCount :=
      (readStr (root.content (entry ++ ["cycle_count"])) 64).bind (positiveInt builtins)
    modelName := text "model_name" 256
    manufacturer := text "manufacturer" 256
    technology := text "technology" 64 }

/-- The body of the loop. An entry of another type is passed over. -/
def readBattery (name : String) : Option BatteryWear :=
  if readStr (root.content (powerSupplyDir ++ [name] ++ ["type"])) 64 = some "Battery".toList then
    some (batteryWear builtins root name)
  else none

/-- `BatterySysfs.list_batteries`. -/
def listBatteries : List BatteryWear :=
  if root.isDir powerSupplyDir then
    (root.sortedNames powerSupplyDir).filterMap (readBattery builtins root)
  else []

end Batteries

/-! ### A laptop -/

/-- Built-in types on decimal digits. -/
def digitBuiltins : Builtins where
  int text :=
    if text ≠ [] ∧ text.all Char.isDigit then
      some (text.foldl (fun value c => value * 10 + (c.toNat - '0'.toNat : ℕ)) 0)
    else none
  float _ := none
  lower := id

theorem decimal_digitBuiltins : digitBuiltins.Decimal := by
  -- a digit after a number below a power of ten leaves it below the next one
  have grows (text : List Char) (digits : ∀ c ∈ text, c.isDigit = true) (value : Int) (k : ℕ)
      (below : value.natAbs < 10 ^ k) :
      (text.foldl (fun (value : Int) c => value * 10 + (c.toNat - '0'.toNat : ℕ)) value).natAbs <
        10 ^ (k + text.length) := by
    induction text generalizing value k with
    | nil => exact below
    | cons c text ih =>
      obtain ⟨first, rest⟩ := List.forall_mem_cons.mp digits
      have digit : c.toNat - '0'.toNat < 10 := by
        simp only [Char.isDigit, Bool.and_eq_true, decide_eq_true_eq] at first
        have most : c.toNat ≤ '9'.toNat := first.2
        change c.toNat - 48 < 10
        change c.toNat ≤ 57 at most
        omega
      have longer : k + (c :: text).length = k + 1 + text.length := by
        rw [List.length_cons]
        omega
      rw [List.foldl_cons, longer]
      refine ih rest _ (k + 1) ?_
      rw [pow_succ]
      omega
  intro text n value
  change (if _ then some _ else none) = some n at value
  split_ifs at value with filled
  obtain rfl := Option.some.inj value
  simpa using grows text (List.all_eq_true.mp filled.2) 0 0 (by decide)

/-- Those of decimal fractions as well, and the small letters of ASCII. -/
def decimalBuiltins : Builtins where
  int := digitBuiltins.int
  float text := do
    let (whole, part) ← cut ['.'] text
    return .finite ((← digitBuiltins.int whole) + (← digitBuiltins.int part) / 10 ^ part.length)
  lower text := text.map Char.toLower

/-- What a ThinkPad says of itself. -/
def laptopFiles : List (RelPath × String) :=
  [(dmiDir ++ ["sys_vendor"], "LENOVO\n"),
    (dmiDir ++ ["product_name"], "21HDCTO1WW\n"),
    (dmiDir ++ ["product_family"], "ThinkPad T14 Gen 4\n"),
    (dmiDir ++ ["bios_version"], "N3QET40W (1.40 )\n"),
    (dmiDir ++ ["bios_date"], "03/12/2024\n"),
    (osReleaseFile, "NAME=Fedora\nPRETTY_NAME=\"Fedora Linux 42\"\n"),
    (kernelFile, "6.15.4-200.fc42.x86_64\n"),
    (uptimeFile, "93784.12 371236.08\n"),
    (cpuinfoFile, "processor\t: 0\nmodel name\t: AMD Ryzen 7\n\nprocessor\t: 1\n"),
    (meminfoFile, "MemTotal:       15728640 kB\nMemFree:         1048576 kB\n")]

def laptop : Root where
  content path := (laptopFiles.lookup path).map fun text => encode text.toList
  entries _ := none

end Lapcare.Providers
