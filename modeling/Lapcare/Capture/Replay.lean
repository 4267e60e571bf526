import Lapcare.Capture.Written
import Mathlib.Data.List.Flatten

/-!
# Replaying a capture

Whether the providers read from a capture what they read from the machine. A capture copies
every file within one bound and rewrites it, while each reader has a bound of its own, so a
file replays only where it `Fits`: its reader takes the copy if and only if it takes the file.

## Main results

* `reads_copy_iff` — when the copy of a file says what the file says
* `filterMap_eq_iff` — two lists of named items are equal name by name
* `replays_iff` — a capture replays exactly where every file that says something fits
-/

namespace Lapcare.Capture

open Lapcare.Core Platform Providers Root Text

/-! ### One file -/

/-- The reader of a file takes its copy if and only if it takes the file. -/
def Fits (maxBytes : ℕ) (data : List UInt8) : Prop :=
  data.length ≤ maxBytes ↔
    data.length ≤ defaultMaxBytes ∧ (textFile (strip (decode data))).length ≤ maxBytes

/-- If the text of a file says something to its reader, then the file fits. -/
def Kept (content : Option (List UInt8)) (maxBytes : ℕ) (telling : List Char → Prop) : Prop :=
  ∀ data, content = some data → telling (strip (decode data)) → Fits maxBytes data

theorem readStr_some (data : List UInt8) (maxBytes : ℕ) :
    readStr (some data) maxBytes =
      if data.length ≤ maxBytes then some (strip (decode data)) else none := by
  by_cases fits : data.length ≤ maxBytes
  · exact (if_neg (by omega)).trans (if_pos fits).symm
  · exact (if_pos (by omega)).trans (if_neg fits).symm

/-- A stripped text is read back from its file. -/
theorem strip_decode_textFile (text : List Char) :
    strip (decode (textFile (strip text))) = strip text := by
  rw [textFile, decode_encode, strip_append_space (by decide), strip_strip]

theorem readStr_copied (data : List UInt8) (maxBytes : ℕ) :
    readStr (copied (some data)) maxBytes =
      if data.length ≤ defaultMaxBytes ∧ (textFile (strip (decode data))).length ≤ maxBytes then
        some (strip (decode data))
      else none := by
  rw [copied, readStr_some]
  by_cases copy : data.length ≤ defaultMaxBytes
  · rw [if_pos copy, Option.map_some, readStr_some, strip_decode_textFile]
    simp only [copy, true_and]
  · rw [if_neg copy, if_neg fun both => copy both.1]
    rfl

/-- The copy of a file says what the file says if and only if the file fits its reader or
says nothing to it. -/
theorem reads_copy_iff {β : Type} (content : Option (List UInt8)) (maxBytes : ℕ)
    (read : List Char → Option β) :
    (readStr (copied content) maxBytes).bind read = (readStr content maxBytes).bind read ↔
      Kept content maxBytes (read · ≠ none) := by
  cases content with
  | none => exact iff_of_true rfl fun _ absent => nomatch absent
  | some data =>
    have one : Kept (some data) maxBytes (read · ≠ none) ↔
        (read (strip (decode data)) ≠ none → Fits maxBytes data) := by
      simp [Kept]
    rw [one, readStr_copied, readStr_some, Fits]
    by_cases silent : read (strip (decode data)) = none
    · refine iff_of_true ?_ fun telling => absurd silent telling
      split <;> split <;> simp [silent]
    -- a file that says something is taken by both readers, or by neither
    by_cases original : data.length ≤ maxBytes <;>
      by_cases copy : data.length ≤ defaultMaxBytes ∧
        (textFile (strip (decode data))).length ≤ maxBytes <;>
      simp [original, copy, silent, Ne.symm silent]

/-- A reader that takes the text as it stands. -/
theorem text_copy_iff (content : Option (List UInt8)) (maxBytes : ℕ) :
    (readStr (copied content) maxBytes).map String.ofList =
        (readStr content maxBytes).map String.ofList ↔
      Kept content maxBytes fun _ => True := by
  have verbatim := reads_copy_iff content maxBytes (some ∘ String.ofList)
  simpa only [Option.map_eq_bind, Function.comp, ne_eq, reduceCtorEq, not_false_eq_true]
    using verbatim

/-- A reader that looks for one text. -/
theorem text_eq_copy_iff (content : Option (List UInt8)) (maxBytes : ℕ) (text : List Char) :
    (readStr (copied content) maxBytes = some text ↔ readStr content maxBytes = some text) ↔
      Kept content maxBytes (· = text) := by
  have sought (read : Option (List Char)) :
      (read.bind fun found => if found = text then some () else none) =
        if read = some text then some () else none := by
    cases read <;> simp
  have one := reads_copy_iff content maxBytes fun found => if found = text then some () else none
  rw [sought, sought] at one
  simp only [ne_eq, ite_eq_right_iff, reduceCtorEq, imp_false, not_not] at one
  rw [← one]
  by_cases copy : readStr (copied content) maxBytes = some text <;>
    by_cases original : readStr content maxBytes = some text <;> simp [copy, original]

/-- Two readers of one file. -/
theorem kept_or_iff {content : Option (List UInt8)} {maxBytes : ℕ}
    {first second : List Char → Prop} :
    Kept content maxBytes (fun text => first text ∨ second text) ↔
      Kept content maxBytes first ∧ Kept content maxBytes second := by
  simp only [Kept, or_imp, forall_and]

/-! ### Identity, operating system, processors and memory -/

section Files

variable (builtins : Builtins) (surroundings : Surroundings) (source : Root)

theorem content_captured_dmi {name : String} (listed : name ∈ dmiFiles) :
    (capturedRoot builtins surroundings source "dmi").content (dmiDir ++ [name]) =
      copied (source.content (dmiDir ++ [name])) := by
  rw [below_capture_dmi, content_copyFiles, if_pos (List.mem_map_of_mem listed)]
  exact Option.or_none

theorem content_captured_serial :
    (capturedRoot builtins surroundings source "dmi").content (dmiDir ++ ["product_serial"]) =
      none := by
  rw [below_capture_dmi, content_copyFiles, if_neg (by decide)]
  rfl

theorem identity_iff :
    readIdentity (capturedRoot builtins surroundings source "dmi") =
        { readIdentity source with serial := none } ↔
      ∀ name ∈ dmiFiles, Kept (source.content (dmiDir ++ [name])) 4096 fun _ => True := by
  have copies (name : String) (listed : name ∈ dmiFiles) :=
    content_captured_dmi builtins surroundings source listed
  have serial : readStr none 4096 = none := rfl
  simp only [readIdentity, SystemIdentity.mk.injEq, copies "sys_vendor" (by decide),
    copies "product_name" (by decide), copies "product_family" (by decide),
    copies "product_version" (by decide), copies "board_name" (by decide),
    copies "bios_version" (by decide), copies "bios_date" (by decide), content_captured_serial,
    serial, text_copy_iff, Option.map_none, and_true]
  simp only [dmiFiles, List.forall_mem_cons, List.not_mem_nil, false_implies, implies_true,
    and_true]

theorem content_captured_osInfo {path : RelPath} (listed : path ∈ osInfoFiles) :
    (capturedRoot builtins surroundings source "os_info").content path =
      copied (source.content path) := by
  have other : path ≠ hostnameFile := by
    rintro rfl
    exact absurd listed (by decide)
  rw [below_capture_osInfo, content_write, if_neg other, content_copyFiles, if_pos listed]
  exact Option.or_none

theorem hostname_captured :
    readStr ((capturedRoot builtins surroundings source "os_info").content hostnameFile) 256 =
      some "redacted-host".toList := by
  rw [below_capture_osInfo, content_write, if_pos rfl]
  decide

/-- The files of the operating system fit. -/
structure OsKept : Prop where
  release : Kept (source.content osReleaseFile) 16384 fun text =>
    releaseValue "PRETTY_NAME" text ≠ none ∨ releaseValue "VERSION_ID" text ≠ none
  kernel : Kept (source.content kernelFile) 256 fun _ => True
  uptime : Kept (source.content uptimeFile) 128 (uptimeOf builtins · ≠ none)

theorem os_iff :
    readOs builtins (capturedRoot builtins surroundings source "os_info") =
        { readOs builtins source with hostname := some "redacted-host" } ↔
      OsKept builtins source := by
  have copies (path : RelPath) (listed : path ∈ osInfoFiles) :=
    content_captured_osInfo builtins surroundings source listed
  simp only [readOs, OsInfo.mk.injEq, copies osReleaseFile (by decide),
    copies kernelFile (by decide), copies uptimeFile (by decide),
    hostname_captured, reads_copy_iff, text_copy_iff]
  constructor
  · rintro ⟨name, version, kernel, -, uptime⟩
    exact ⟨kept_or_iff.2 ⟨name, version⟩, kernel, uptime⟩
  · rintro ⟨release, kernel, uptime⟩
    exact ⟨(kept_or_iff.1 release).1, (kept_or_iff.1 release).2, kernel, rfl, uptime⟩

/-- The files on processors and memory fit. -/
structure CpuMemKept : Prop where
  cpuinfo : Kept (source.content cpuinfoFile) (1024 * 1024) fun text =>
    (scanCpuinfo text).cpuModel ≠ none ∨ cpuCountOf text ≠ none
  meminfo : Kept (source.content meminfoFile) 65536 (memoryTotalOf builtins · ≠ none)

theorem cpuMem_iff :
    readCpuMem builtins (capturedRoot builtins surroundings source "os_info") =
        readCpuMem builtins source ↔
      CpuMemKept builtins source := by
  have copies (path : RelPath) (listed : path ∈ osInfoFiles) :=
    content_captured_osInfo builtins surroundings source listed
  simp only [readCpuMem, CpuMemSummary.mk.injEq, copies cpuinfoFile (by decide),
    copies meminfoFile (by decide), reads_copy_iff]
  constructor
  · rintro ⟨model, count, memory⟩
    exact ⟨kept_or_iff.2 ⟨model, count⟩, memory⟩
  · rintro ⟨cpuinfo, memory⟩
    exact ⟨(kept_or_iff.1 cpuinfo).1, (kept_or_iff.1 cpuinfo).2, memory⟩

end Files

/-! ### Batteries -/

/-- Two lists that are made, name by name, of one list of names without repetition are equal
if and only if they are name by name. -/
theorem filterMap_eq_iff {α β : Type} {read other : α → Option β} {nameOf : β → α}
    (named : ∀ a b, read a = some b → nameOf b = a)
    (otherNamed : ∀ a b, other a = some b → nameOf b = a) {names : List α} (nodup : names.Nodup) :
    names.filterMap read = names.filterMap other ↔ ∀ a ∈ names, read a = other a := by
  induction names with
  | nil => simp
  | cons a names ih =>
    obtain ⟨fresh, nodup⟩ := List.nodup_cons.1 nodup
    -- nothing of this name comes later
    have later {read : α → Option β} (named : ∀ a b, read a = some b → nameOf b = a) {b : β}
        (mine : nameOf b = a) : b ∉ names.filterMap read := by
      intro member
      obtain ⟨c, old, made⟩ := List.mem_filterMap.1 member
      rw [← mine, named c b made] at fresh
      exact fresh old
    rw [List.forall_mem_cons, ← ih nodup]
    cases made : read a with
    | none =>
      rw [List.filterMap_cons_none made]
      cases otherMade : other a with
      | none =>
        rw [List.filterMap_cons_none otherMade]
        simp
      | some b =>
        rw [List.filterMap_cons_some otherMade]
        have absent := later named (otherNamed a b otherMade)
        exact iff_of_false (fun same => absent (same ▸ List.mem_cons_self)) (by simp)
    | some b =>
      rw [List.filterMap_cons_some made]
      cases otherMade : other a with
      | none =>
        rw [List.filterMap_cons_none otherMade]
        have absent := later otherNamed (named a b made)
        exact iff_of_false (fun same => absent (same ▸ List.mem_cons_self)) (by simp)
      | some c =>
        rw [List.filterMap_cons_some otherMade]
        simp

theorem ite_some_eq_iff {α : Type} {p q : Prop} [Decidable p] [Decidable q] {a b : α} :
    (if p then some a else none) = (if q then some b else none) ↔ (p ↔ q) ∧ (q → a = b) := by
  by_cases first : p <;> by_cases second : q <;> simp [first, second]

section Batteries

variable (builtins : Builtins) (surroundings : Surroundings) (source : Root)

theorem name_readBattery (root : Root) (name : String) (battery : BatteryWear)
    (listed : readBattery builtins root name = some battery) : battery.name = name := by
  unfold readBattery at listed
  split at listed
  · obtain rfl := Option.some.inj listed
    rfl
  · exact nomatch listed

/-- The files of a battery fit. The charge counts where there is no energy only. -/
structure BatteryKept (name : String) : Prop where
  energy : ∀ file ∈ ["energy_full", "energy_full_design"],
    Kept (source.content (powerSupplyDir ++ [name] ++ [file])) 64 (builtins.int · ≠ none)
  charge : (∀ file ∈ ["energy_full", "energy_full_design"],
      readInt builtins (source.content (powerSupplyDir ++ [name] ++ [file])) = none) →
    ∀ file ∈ ["charge_full", "charge_full_design"],
      Kept (source.content (powerSupplyDir ++ [name] ++ [file])) 64 (builtins.int · ≠ none)
  cycleCount : Kept (source.content (powerSupplyDir ++ [name] ++ ["cycle_count"])) 64
    (positiveInt builtins · ≠ none)
  labels : ∀ file ∈ ["model_name", "manufacturer"],
    Kept (source.content (powerSupplyDir ++ [name] ++ [file])) 256 fun _ => True
  technology : Kept (source.content (powerSupplyDir ++ [name] ++ ["technology"])) 64 fun _ => True

/-- The type of an entry fits if it says `Battery`, and so do the files of a battery. -/
structure EntryKept (name : String) : Prop where
  type : Kept (source.content (powerSupplyDir ++ [name] ++ ["type"])) 64 (· = "Battery".toList)
  battery : readStr (source.content (powerSupplyDir ++ [name] ++ ["type"])) 64 =
    some "Battery".toList → BatteryKept builtins source name

section Entry

variable {source} {copies : Root} {name : String}
  (copied_eq : ∀ file ∈ powerSupplyFiles,
    copies.content (powerSupplyDir ++ [name] ++ [file]) =
      copied (source.content (powerSupplyDir ++ [name] ++ [file])))

include copied_eq

/-- A capacity is the energy, or the charge where there is no energy: both families have to
be kept as far as they count. -/
theorem capacity_iff :
    readCapacity builtins copies (powerSupplyDir ++ [name]) =
        readCapacity builtins source (powerSupplyDir ++ [name]) ↔
      (∀ file ∈ ["energy_full", "energy_full_design"],
        Kept (source.content (powerSupplyDir ++ [name] ++ [file])) 64 (builtins.int · ≠ none)) ∧
      ((∀ file ∈ ["energy_full", "energy_full_design"],
          readInt builtins (source.content (powerSupplyDir ++ [name] ++ [file])) = none) →
        ∀ file ∈ ["charge_full", "charge_full_design"],
          Kept (source.content (powerSupplyDir ++ [name] ++ [file])) 64
            (builtins.int · ≠ none)) := by
  simp only [← reads_copy_iff, List.forall_mem_cons, List.not_mem_nil, false_implies, implies_true,
    and_true]
  simp only [readCapacity, readInt, copied_eq "energy_full" (by decide),
    copied_eq "energy_full_design" (by decide), copied_eq "charge_full" (by decide),
    copied_eq "charge_full_design" (by decide)]
  -- eight files, each empty or not: the rest is a case analysis
  grind

theorem batteryWear_iff :
    batteryWear builtins copies name = batteryWear builtins source name ↔
      BatteryKept builtins source name := by
  simp only [batteryWear, BatteryWear.mk.injEq, copied_eq "cycle_count" (by decide),
    copied_eq "model_name" (by decide), copied_eq "manufacturer" (by decide),
    copied_eq "technology" (by decide), reads_copy_iff, text_copy_iff, true_and]
  have capacity := capacity_iff builtins copied_eq
  -- the capacity is read from several files, every other field from one
  rw [Prod.ext_iff, Prod.ext_iff] at capacity
  constructor
  · rintro ⟨full, design, unit, cycles, model, manufacturer, technology⟩
    obtain ⟨energy, charge⟩ := capacity.1 ⟨full, design, unit⟩
    exact ⟨energy, charge, cycles,
      List.forall_mem_cons.2 ⟨model, List.forall_mem_singleton.2 manufacturer⟩, technology⟩
  · rintro ⟨energy, charge, cycles, labels, technology⟩
    obtain ⟨full, design, unit⟩ := capacity.2 ⟨energy, charge⟩
    exact ⟨full, design, unit, cycles, labels "model_name" (by simp),
      labels "manufacturer" (by simp), technology⟩

/-- An entry is listed alike from its copies if and only if it is kept. -/
theorem readBattery_iff :
    readBattery builtins copies name = readBattery builtins source name ↔
      EntryKept builtins source name := by
  have type := text_eq_copy_iff (source.content (powerSupplyDir ++ [name] ++ ["type"])) 64
    "Battery".toList
  have wear := batteryWear_iff builtins copied_eq
  rw [readBattery, readBattery, copied_eq "type" (by decide), ite_some_eq_iff, type, wear]
  exact ⟨fun ⟨typeKept, batteryKept⟩ => ⟨typeKept, batteryKept⟩,
    fun ⟨typeKept, batteryKept⟩ => ⟨typeKept, batteryKept⟩⟩

end Entry

theorem mem_batteryFiles {name file : String} :
    powerSupplyDir ++ [name] ++ [file] ∈ batteryFiles source ↔
      name ∈ source.sortedNames powerSupplyDir ∧ file ∈ powerSupplyFiles := by
  simp [batteryFiles]

/-- The entries of a capture are those of which a file was copied. -/
theorem mem_sortedNames_captured {name : String} :
    name ∈ (copyFiles source [] (batteryFiles source) empty).sortedNames powerSupplyDir ↔
      name ∈ source.sortedNames powerSupplyDir ∧ ∃ file ∈ powerSupplyFiles,
        copied (source.content (powerSupplyDir ++ [name] ++ [file])) ≠ none := by
  rw [mem_sortedNames_copyFiles]
  constructor
  · rintro (⟨path, listed, copy, entered⟩ | nothing)
    · obtain ⟨entry, old, file, member, rfl⟩ : ∃ entry ∈ source.sortedNames powerSupplyDir,
          ∃ file ∈ powerSupplyFiles, powerSupplyDir ++ [entry, file] = path := by
        simpa only [batteryFiles, List.mem_flatMap, List.mem_map] using listed
      obtain rfl : entry = name := Option.some.inj entered
      exact ⟨old, file, member, copy⟩
    · simp [sortedNames, empty] at nothing
  · rintro ⟨old, file, member, copy⟩
    exact .inl ⟨_, (mem_batteryFiles source).2 ⟨old, member⟩, copy, rfl⟩

theorem listBatteries_eq (root : Root) :
    listBatteries builtins root =
      (root.sortedNames powerSupplyDir).filterMap (readBattery builtins root) := by
  rw [listBatteries, isDir, sortedNames]
  cases root.entries powerSupplyDir <;> simp

theorem batteries_iff :
    listBatteries builtins (capturedRoot builtins surroundings source "battery_sysfs") =
        listBatteries builtins source ↔
      ∀ name ∈ source.sortedNames powerSupplyDir, EntryKept builtins source name := by
  rw [below_capture_batteries, listBatteries_eq, listBatteries_eq]
  by_cases dir : source.isDir powerSupplyDir = true
  · rw [if_pos dir]
    have copies (name : String) (old : name ∈ source.sortedNames powerSupplyDir) :
        ∀ file ∈ powerSupplyFiles,
          (copyFiles source [] (batteryFiles source) empty).content
              (powerSupplyDir ++ [name] ++ [file]) =
            copied (source.content (powerSupplyDir ++ [name] ++ [file])) := by
      intro file member
      rw [content_copyFiles, if_pos ((mem_batteryFiles source).2 ⟨old, member⟩)]
      exact Option.or_none
    -- an entry of which nothing was copied has no type, so it is passed over
    rw [filterMap_sortedNames fun name member => ((mem_sortedNames_captured source).1 member).1]
    · rw [filterMap_eq_iff (name_readBattery builtins _) (name_readBattery builtins _)
        (nodup_sortedNames source powerSupplyDir)]
      exact forall₂_congr fun name old => readBattery_iff builtins (copies name old)
    · intro name old listed
      refine (mem_sortedNames_captured source).2 ⟨old, "type", by decide, fun absent => listed ?_⟩
      rw [readBattery, copies name old "type" (by decide), absent]
      rfl
  · have nameless : source.sortedNames powerSupplyDir = [] := by
      simp only [isDir, Bool.not_eq_true, Option.isSome_eq_false_iff, Option.isNone_iff_eq_none]
        at dir
      simp [sortedNames, dir]
    rw [if_neg dir, nameless]
    simp [sortedNames, empty]

end Batteries

/-! ### The whole capture -/

section Replay

variable (builtins : Builtins) (surroundings : Surroundings) (source : Root)

/-- Apart from the serial and the hostname, each provider returns for the directory that a
redacted capture writes for it what it returns for the machine. -/
structure Replays : Prop where
  identity : readIdentity (capturedRoot builtins surroundings source "dmi") =
    { readIdentity source with serial := none }
  os : readOs builtins (capturedRoot builtins surroundings source "os_info") =
    { readOs builtins source with hostname := some "redacted-host" }
  cpuMem : readCpuMem builtins (capturedRoot builtins surroundings source "os_info") =
    readCpuMem builtins source
  batteries : listBatteries builtins (capturedRoot builtins surroundings source "battery_sysfs") =
    listBatteries builtins source

/-- Every file that says something to its reader fits it. -/
structure FilesKept : Prop where
  dmi : ∀ name ∈ dmiFiles, Kept (source.content (dmiDir ++ [name])) 4096 fun _ => True
  os : OsKept builtins source
  cpuMem : CpuMemKept builtins source
  batteries : ∀ name ∈ source.sortedNames powerSupplyDir, EntryKept builtins source name

/-- A capture replays exactly where every file that says something fits its reader. -/
theorem replays_iff : Replays builtins surroundings source ↔ FilesKept builtins source := by
  have identity := identity_iff builtins surroundings source
  have os := os_iff builtins surroundings source
  have cpuMem := cpuMem_iff builtins surroundings source
  have batteries := batteries_iff builtins surroundings source
  constructor
  · intro replays
    exact ⟨identity.1 replays.identity, os.1 replays.os, cpuMem.1 replays.cpuMem,
      batteries.1 replays.batteries⟩
  · intro kept
    exact ⟨identity.2 kept.dmi, os.2 kept.os, cpuMem.2 kept.cpuMem, batteries.2 kept.batteries⟩

end Replay

/-! ### A machine with many processors -/

def processorLine : List Char := "processor\t: 0".toList

def processorDetails : List Char :=
  "\nmodel name\t: AMD Ryzen Threadripper PRO 5975WX 32-Cores\nflags\t\t:".toList ++
    (List.replicate 120 " avx512bw".toList).flatten ++ "\n\n".toList

/-- What the kernel shows of one processor. -/
def processorBlock : List Char := processorLine ++ processorDetails

/-- What it shows of 64. -/
def cpuinfo : List UInt8 := encode (List.replicate 64 processorBlock).flatten

/-- A machine that shows 64 processors and nothing else. -/
def workstation : Root where
  content path := if path = cpuinfoFile then some cpuinfo else none
  entries _ := none

theorem ascii_processorBlock : ∀ c ∈ processorBlock, c.toNat < 0x80 := by
  have whole : processorBlock.all (·.toNat < 0x80) = true := by decide +kernel
  simpa only [List.all_eq_true, decide_eq_true_eq] using whole

theorem length_processorBlock : processorBlock.length = 1160 := by
  decide +kernel

/-- What the machine shows is longer than what a capture copies, and shorter than what the
provider reads. -/
theorem length_cpuinfo : cpuinfo.length = 64 * 1160 := by
  have ascii : ∀ c ∈ (List.replicate 64 processorBlock).flatten, c.toNat < 0x80 := by
    intro c member
    obtain ⟨block, same, within⟩ := List.mem_flatten.1 member
    rw [List.eq_of_mem_replicate same] at within
    exact ascii_processorBlock c within
  rw [cpuinfo, length_encode_ascii ascii, List.length_flatten, List.map_replicate,
    List.sum_replicate, length_processorBlock]
  rfl

/-- A text that begins with the line of a processor shows at least one. -/
theorem cpuCountOf_strip (rest : List Char) :
    cpuCountOf (strip (processorLine ++ rest)) ≠ none := by
  -- the front has no white space at either end, so only the end of the rest goes
  have stripped : strip (processorLine ++ rest) = processorLine ++ rstrip rest := by
    have first : processorLine = 'p' :: "rocessor\t: 0".toList := by decide
    have last : processorLine = "processor\t: ".toList ++ ['0'] := by decide
    have opened : lstrip (processorLine ++ rest) = processorLine ++ rest := by
      rw [first, List.cons_append]
      exact List.dropWhile_cons_of_neg (by decide)
    rw [strip, opened, last, rstrip_append_of_solid (by decide)]
  have unbroken : processorLine.all (!isLineBreak ·) = true := by decide +kernel
  have whole : ∀ c ∈ processorLine, (!isLineBreak c) = true := List.all_eq_true.1 unbroken
  have filled : processorLine ++ rstrip rest ≠ [] :=
    List.append_ne_nil_of_left_ne_nil (by decide) _
  have counted : 0 < (scanCpuinfo (processorLine ++ rstrip rest)).count := by
    rw [count_scanCpuinfo, splitLines_eq_cons filled, List.takeWhile_append_of_pos whole]
    exact List.countP_pos_iff.2 ⟨_, List.mem_cons_self, rfl⟩
  rw [stripped, cpuCountOf, if_neg (by omega)]
  simp

/-- The provider counts the workstation's processors, and finds none in its capture. -/
theorem many_processors_lost :
    ¬ ∃ builtins surroundings, Replays builtins surroundings workstation := by
  rintro ⟨builtins, surroundings, replays⟩
  have kept := ((cpuMem_iff builtins surroundings workstation).1 replays.cpuMem).cpuinfo
  have content : workstation.content cpuinfoFile = some cpuinfo := by simp [workstation]
  have shown : decode cpuinfo =
      processorLine ++ (processorDetails ++ (List.replicate 63 processorBlock).flatten) := by
    rw [cpuinfo, decode_encode, List.replicate_succ, List.flatten_cons]
    exact List.append_assoc ..
  have counted : cpuCountOf (strip (decode cpuinfo)) ≠ none := by
    rw [shown]
    exact cpuCountOf_strip _
  have fits := kept cpuinfo content (.inr counted)
  rw [Fits, length_cpuinfo] at fits
  exact absurd (fits.1 (by decide)).1 (by decide)

end Lapcare.Capture
