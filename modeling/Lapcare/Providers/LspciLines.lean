import Lapcare.Providers.PciUsb
import Lapcare.Semantics.FailFast

/-!
# The lines of lspci

`lspci -mm` prints a device per line: the slot, then class, vendor and device in double
quotes, then the revision and the programming interface as options, then the names of the
subsystem. `list_pci` reads the line like a shell and drops what looks like an option. By
then a name that begins with a dash looks like one.

## Main results

* `pciLine_iff` — the lines that are read back
* `listPci_iff` — the listings that are read back, with other lines in between
-/

namespace Lapcare.Providers

open Lapcare.Core Platform Semantics Text

/-! ### Listings -/

/-- A device of a listing. The slot is a word, and the names are lines. -/
structure ListedDevice where
  slot : List Char
  deviceClass : List Char
  vendor : List Char
  device : List Char
  revision : Option (Fin 256)
  progIf : Option (Fin 256)
  subsystemVendor : List Char
  subsystemDevice : List Char
  named : slot ≠ []
  solid : ∀ c ∈ slot, isSpace c = false
  unbroken : ∀ name ∈ [deviceClass, vendor, device, subsystemVendor, subsystemDevice],
    ∀ c ∈ name, isLineBreak c = false

/-- An option with a byte in hexadecimal, such as `-r08`. -/
def byteOption (letter : Char) (byte : Fin 256) : List Char :=
  ['-', letter, (byte.val / 16).digitChar, (byte.val % 16).digitChar]

namespace ListedDevice

variable (listed : ListedDevice)

def options : List (List Char) :=
  (listed.revision.map (byteOption 'r')).toList ++ (listed.progIf.map (byteOption 'p')).toList

/-- The words of the line after the slot, as they are written and as they are read. -/
def words : List (List Char × List Char) :=
  let quoted (name : List Char) := (Shlex.inQuotes name, name)
  [quoted listed.deviceClass, quoted listed.vendor, quoted listed.device] ++
    (listed.options.map fun option => (option, option)) ++
    [quoted listed.subsystemVendor, quoted listed.subsystemDevice]

/-- The line of the device. -/
def line : List Char :=
  [' '].intercalate (listed.slot :: listed.words.map (·.1))

/-- What `list_pci` is to make of it. -/
def entry : PciDevice where
  slot := String.ofList listed.slot
  deviceClass := some (String.ofList listed.deviceClass)
  vendor := some (String.ofList listed.vendor)
  device := some (String.ofList listed.device)

/-- The devices that are read back: the slot has no quotes and backslashes, and no name
begins with a dash. -/
structure Recovers : Prop where
  bare : ∀ c ∈ listed.slot, Shlex.isBare c = true
  undashed : ∀ name ∈ [listed.deviceClass, listed.vendor, listed.device], isDashed name = false

end ListedDevice

/-- Lines without a device: the quotes are not balanced, or there are too few fields. -/
inductive IsJunk (line : List Char) : Prop
  | unbalanced {message : String} (fails : Shlex.split line = .error message) : IsJunk line
  | short {tokens : List (List Char)} (reads : Shlex.split line = .ok tokens)
      (few : (tokens.tail.filter (! isDashed ·)).length < 3) : IsJunk line

inductive ListedLine
  | device (listed : ListedDevice)
  | junk (text : List Char) (junk : IsJunk text) (unbroken : ∀ c ∈ text, isLineBreak c = false)

def ListedLine.text : ListedLine → List Char
  | device listed => listed.line
  | junk text _ _ => text

def ListedLine.device? : ListedLine → Option ListedDevice
  | device listed => some listed
  | junk _ _ _ => none

/-- What `lspci -mm` prints, with other lines between the devices. -/
structure Listing where
  lines : List ListedLine
  filled : lines.filterMap ListedLine.device? ≠ []

namespace Listing

variable (listing : Listing)

def devices : List ListedDevice :=
  listing.lines.filterMap ListedLine.device?

def text : List Char :=
  ['\n'].intercalate (listing.lines.map ListedLine.text)

end Listing

/-! ### One line -/

/-- A line with an entry has its slot, and three fields that are no options. -/
theorem pciLine_eq_some {line : List Char} {entry : PciDevice} (read : pciLine line = some entry) :
    ∃ slot others deviceClass vendor device more,
      Shlex.split line = .ok (slot :: others) ∧
        others.filter (! isDashed ·) = deviceClass :: vendor :: device :: more ∧
          entry = {
            slot := String.ofList slot
            deviceClass := some (String.ofList deviceClass)
            vendor := some (String.ofList vendor)
            device := some (String.ofList device) } := by
  rw [pciLine] at read
  split_ifs at read with blank
  -- of the fields only three matter, and a line with fewer has no entry
  cases split : Shlex.split line with
  | error message =>
    simp [split] at read
  | ok tokens =>
    rw [split] at read
    cases tokens with
    | nil => simp at read
    | cons slot others =>
      cases fields : others.filter (! isDashed ·) with
      | nil => simp [fields] at read
      | cons deviceClass rest =>
        cases rest with
        | nil => simp [fields] at read
        | cons vendor rest =>
          cases rest with
          | nil => simp [fields] at read
          | cons device more =>
            simp only [List.tail_cons, fields, Option.some.injEq] at read
            exact ⟨slot, others, deviceClass, vendor, device, more, rfl, fields, read.symm⟩

theorem pciLine_junk {line : List Char} (junk : IsJunk line) : pciLine line = none := by
  cases read : pciLine line with
  | none => rfl
  | some entry =>
    obtain ⟨slot, others, deviceClass, vendor, device, more, split, fields, -⟩ :=
      pciLine_eq_some read
    cases junk with
    | unbalanced fails =>
      rw [fails] at split
      exact nomatch split
    -- three fields were found, where fewer than three are left
    | short reads few =>
      rw [reads] at split
      cases split
      rw [List.tail_cons, fields] at few
      simp only [List.length_cons] at few
      omega

namespace ListedDevice

variable (listed : ListedDevice)

theorem exists_byteOption {option : List Char} (member : option ∈ listed.options) :
    ∃ letter byte, (letter = 'r' ∨ letter = 'p') ∧ byteOption letter byte = option := by
  rw [options, List.mem_append, Option.mem_toList, Option.mem_toList] at member
  -- both options are written alike, with a letter of their own
  rcases member with revision | progIf
  · obtain ⟨byte, -, same⟩ := Option.map_eq_some_iff.mp revision
    exact ⟨'r', byte, .inl rfl, same⟩
  · obtain ⟨byte, -, same⟩ := Option.map_eq_some_iff.mp progIf
    exact ⟨'p', byte, .inr rfl, same⟩

/-- The characters of an option are a dash, its letter and digits. -/
theorem forall_mem_option {option : List Char} (member : option ∈ listed.options)
    {p : Char → Bool} (letters : ['-', 'r', 'p'].all p = true)
    (digits : ∀ n : Fin 16, p n.val.digitChar = true) : ∀ c ∈ option, p c = true := by
  obtain ⟨letter, byte, named, rfl⟩ := listed.exists_byteOption member
  simp only [List.all_cons, List.all_nil, Bool.and_true, Bool.and_eq_true] at letters
  have high : byte.val / 16 < 16 := by omega
  have low : byte.val % 16 < 16 := by omega
  have letter : p letter = true := by
    rcases named with rfl | rfl
    · exact letters.2.1
    · exact letters.2.2
  -- a byte has two digits, and each of them is below sixteen
  simp only [byteOption, List.forall_mem_cons]
  exact ⟨letters.1, letter, digits ⟨_, high⟩, digits ⟨_, low⟩, nofun⟩

theorem reads_words : ∀ word ∈ listed.words, Shlex.Reads word.1 word.2 := by
  have quoted (name : List Char) := Shlex.reads_inQuotes name
  have options : ∀ option ∈ listed.options, Shlex.Reads option option := by
    intro option member
    obtain ⟨letter, byte, -, rfl⟩ := listed.exists_byteOption member
    exact Shlex.reads_bare (List.cons_ne_nil _ _)
      (listed.forall_mem_option member (by decide) (by decide))
  intro word member
  simp only [words, List.cons_append, List.nil_append, List.mem_cons, List.mem_append,
    List.mem_map, List.not_mem_nil, or_false] at member
  rcases member with rfl | rfl | rfl | ⟨option, member, rfl⟩ | rfl | rfl
  · exact quoted _
  · exact quoted _
  · exact quoted _
  · exact options option member
  · exact quoted _
  · exact quoted _

theorem line_eq : listed.line =
    listed.slot ++ ' ' :: [' '].intercalate (listed.words.map (·.1)) := by
  have filled : listed.words.map (·.1) ≠ [] := by simp [words]
  obtain ⟨first, rest, words⟩ := List.exists_cons_of_ne_nil filled
  rw [line, words, List.intercalate_cons_cons, List.append_assoc]
  rfl

/-- A quotation mark is not white space. -/
theorem strip_line_ne_nil : strip listed.line ≠ [] := by
  rw [Ne, strip_eq_nil_iff]
  intro blank
  have member : '"' ∈ listed.line := by
    rw [line_eq]
    simp [words, Shlex.inQuotes, List.intercalate_cons_cons]
  exact absurd (blank '"' member) (by decide)

theorem isBlank_of_solid {c : Char} (solid : isSpace c = false) : Shlex.isBlank c = false := by
  by_contra blank
  rw [Bool.not_eq_false, Shlex.isBlank] at blank
  simp only [Bool.or_eq_true, beq_iff_eq] at blank
  rcases blank with ((rfl | rfl) | rfl) | rfl <;> exact absurd solid (by decide)

/-- A line is read back exactly if the device recovers. -/
theorem pciLine_iff : pciLine listed.line = some listed.entry ↔ listed.Recovers := by
  have rest : Shlex.split ([' '].intercalate (listed.words.map (·.1))) =
      .ok (listed.words.map (·.2)) := Shlex.split_words listed.reads_words
  constructor
  · intro read
    obtain ⟨slot, others, deviceClass, vendor, device, more, split, fields, same⟩ :=
      pciLine_eq_some read
    simp only [entry, PciDevice.mk.injEq, Option.some.injEq, String.ofList_inj] at same
    obtain ⟨rfl, rfl, rfl, rfl⟩ := same
    refine ⟨?_, ?_⟩
    · -- quotes and backslashes in the slot are not read as they are
      by_contra special
      have special : ∃ c ∈ listed.slot, Shlex.isBare c = false := by
        simpa only [not_forall, Bool.not_eq_true, exists_prop] using special
      have unblank (c : Char) (member : c ∈ listed.slot) : Shlex.isBlank c = false :=
        isBlank_of_solid (listed.solid c member)
      rw [line_eq] at split
      exact Shlex.split_ne_self unblank special split rfl
    · -- the names have passed the filter
      intro name member
      have passed : name ∈ others.filter (! isDashed ·) := by
        rw [fields]
        simp only [List.mem_cons, List.not_mem_nil, or_false] at member
        rcases member with rfl | rfl | rfl <;> simp
      simpa using (List.mem_filter.mp passed).2
  · intro recovers
    -- the slot comes first, then the words one by one
    have first := (Shlex.reads_bare listed.named recovers.bare).between
    have split : Shlex.split listed.line = .ok (listed.slot :: listed.words.map (·.2)) := by
      rw [line_eq, first, rest]
      rfl
    obtain ⟨classUndashed, vendorUndashed, deviceUndashed⟩ :
        isDashed listed.deviceClass = false ∧ isDashed listed.vendor = false ∧
          isDashed listed.device = false := by
      simpa using recovers.undashed
    rw [pciLine, if_neg listed.strip_line_ne_nil, split]
    simp [words, classUndashed, vendorUndashed, deviceUndashed, entry]

/-- Nothing in the line ends it. -/
theorem line_unbroken : ∀ c ∈ listed.line, isLineBreak c = false := by
  have quoted {name : List Char} (unbroken : ∀ c ∈ name, isLineBreak c = false) :
      ∀ c ∈ Shlex.inQuotes name, isLineBreak c = false := by
    intro c member
    rcases Shlex.mem_inQuotes member with inside | rfl | rfl
    · exact unbroken c inside
    · rfl
    · rfl
  have names := listed.unbroken
  simp only [List.forall_mem_cons] at names
  obtain ⟨deviceClass, vendor, device, subsystemVendor, subsystemDevice, -⟩ := names
  have options : ∀ option ∈ listed.options, ∀ c ∈ option, isLineBreak c = false := by
    intro option member c within
    have inline := listed.forall_mem_option (p := (! isLineBreak ·)) member
      (by decide) (by decide) c within
    simpa using inline
  intro c member
  rcases mem_intercalate member with rfl | ⟨word, listedWord, within⟩
  · rfl
  · simp only [words, List.map_append, List.map_cons, List.map_nil, List.cons_append,
      List.nil_append, List.mem_cons, List.mem_append, List.mem_map, List.not_mem_nil,
      or_false] at listedWord
    -- the slot, three names, the options and two names
    rcases listedWord with rfl | rfl | rfl | rfl | ⟨-, ⟨option, member, rfl⟩, rfl⟩ | rfl | rfl
    · exact isLineBreak_of_notSpace (listed.solid c within)
    · exact quoted deviceClass c within
    · exact quoted vendor c within
    · exact quoted device c within
    · exact options option member c within
    · exact quoted subsystemVendor c within
    · exact quoted subsystemDevice c within

end ListedDevice

/-! ### The listing -/

/-- What a line of the listing is read as. -/
theorem read_listedLine (line : ListedLine) :
    (splitLines line.text).filterMap pciLine =
      line.device?.toList.filterMap fun listed => pciLine listed.line := by
  cases line with
  | device listed =>
    have filled : listed.line ≠ [] := fun empty => listed.strip_line_ne_nil (by rw [empty]; rfl)
    exact congrArg (List.filterMap pciLine) (splitLines_unbroken listed.line_unbroken filled)
  | junk text junk unbroken =>
    by_cases empty : text = []
    · subst empty
      rfl
    · rw [ListedLine.text, splitLines_unbroken unbroken empty,
        List.filterMap_cons_none (pciLine_junk junk)]
      rfl

/-- A listing is read back exactly if each of its devices recovers. -/
theorem listPci_iff (listing : Listing) {run : ToolRunner}
    (prints : run "lspci" ["-mm"] 10 = .ok (String.ofList listing.text)) :
    listPci run = .ok (listing.devices.map ListedDevice.entry) ↔
      ∀ listed ∈ listing.devices, listed.Recovers := by
  have parsed : (splitLines listing.text).filterMap pciLine =
      listing.devices.filterMap fun listed => pciLine listed.line := by
    -- line by line, since the junk between the devices gives nothing
    have each (lines : List ListedLine) :
        ((lines.map ListedLine.text).flatMap fun line => (splitLines line).filterMap pciLine) =
          (lines.filterMap ListedLine.device?).filterMap fun listed => pciLine listed.line := by
      induction lines with
      | nil => rfl
      | cons line lines ih =>
        rw [List.map_cons, List.flatMap_cons, ih, read_listedLine, ← List.filterMap_append]
        cases line <;> rfl
    rw [Listing.text, filterMap_splitLines_intercalate rfl, each]
    rfl
  have output : listPci run =
      listDevices pciLine "lspci" (String.ofList listing.text) := by
    rw [listPci, runTranslated, prints]
    rfl
  have pointwise : (∀ listed ∈ listing.devices, listed.Recovers) ↔
      (listing.devices.filterMap fun listed => pciLine listed.line) =
        listing.devices.map ListedDevice.entry := by
    rw [filterMap_eq_map_iff]
    exact forall₂_congr fun listed _ => listed.pciLine_iff.symm
  rw [pointwise, output, listDevices, String.toList_ofList, parsed]
  split_ifs with failed
  · -- an error is no listing, and nothing was read of the devices there are
    refine ⟨nofun, fun same => ?_⟩
    have nothing := List.isEmpty_iff.mp failed.1
    rw [same, List.map_eq_nil_iff] at nothing
    exact absurd nothing listing.filled
  · rw [Except.ok.injEq]

/-- A runner that prints the listing. -/
def Listing.runner (listing : Listing) : ToolRunner :=
  fun _ _ _ => .ok (String.ofList listing.text)

/-- A device with quotes and a backslash in its name, and no options. -/
def quotedDevice : ListedDevice where
  slot := "00:14.3".toList
  deviceClass := "Network controller".toList
  vendor := "".toList
  device := "Wi-Fi \"AX\" 6\\6E".toList
  revision := none
  progIf := none
  subsystemVendor := "-r08".toList
  subsystemDevice := "".toList
  named := by decide
  solid := forall_eq_false_of_all (by decide)
  unbroken := by
    simp only [List.forall_mem_cons]
    refine ⟨?_, ?_, ?_, ?_, ?_, nofun⟩ <;> exact forall_eq_false_of_all (by decide)

/-- The device between a line that breaks off and an empty one. -/
def quotedListing : Listing where
  lines :=
    [.junk "00:02.0 \"VGA".toList (.unbalanced rfl) (forall_eq_false_of_all (by decide)),
      .device quotedDevice, .junk [] (.short rfl (by decide)) nofun]
  filled := List.cons_ne_nil _ _

theorem quotedListing_read :
    listPci quotedListing.runner = .ok (quotedListing.devices.map ListedDevice.entry) :=
  (listPci_iff quotedListing rfl).mpr fun listed member => by
    obtain rfl := List.mem_singleton.mp member
    exact ⟨List.all_eq_true.mp (by decide), by decide⟩

/-! ### A name with a dash -/

/-- `00:1f.6 "Ethernet controller" "Intel" "-T1 PHY" -r20 "Lenovo" "Device 50e1"`. -/
def dashedDevice : ListedDevice where
  slot := "00:1f.6".toList
  deviceClass := "Ethernet controller".toList
  vendor := "Intel".toList
  device := "-T1 PHY".toList
  revision := some 0x20
  progIf := none
  subsystemVendor := "Lenovo".toList
  subsystemDevice := "Device 50e1".toList
  named := by decide
  solid := forall_eq_false_of_all (by decide)
  unbroken := by
    simp only [List.forall_mem_cons]
    refine ⟨?_, ?_, ?_, ?_, ?_, nofun⟩ <;> exact forall_eq_false_of_all (by decide)

def dashedListing : Listing where
  lines := [.device dashedDevice]
  filled := List.cons_ne_nil _ _

/-- The name is dropped, and the device is called like the vendor of the subsystem. -/
theorem dashedListing_misread :
    listPci dashedListing.runner =
        .ok [{ dashedDevice.entry with device := some "Lenovo" }] ∧
      listPci dashedListing.runner ≠ .ok (dashedListing.devices.map ListedDevice.entry) := by
  have read : listPci dashedListing.runner =
      .ok [{ dashedDevice.entry with device := some "Lenovo" }] := by decide
  refine ⟨read, fun same => ?_⟩
  rw [read] at same
  have equal := Except.ok.inj same
  exact absurd equal (by decide)

end Lapcare.Providers
