import Lapcare.Providers.PciUsb

/-!
# The lines of lsusb

`lsusb` prints a device per line: the numbers of the bus and of the device, the two halves of
its id in four hexadecimal digits each, and a name, which may be missing. `list_usb` reads such
lines, whatever stands between them, and nothing else.

## Main results

* `usbEntry_iff` — the lines that are read, and what is read of them
* `listUsb_iff` — the outputs that are read, and the devices that come of them
-/

namespace Lapcare.Providers

open Lapcare.Core Platform Text

/-! ### The pieces of a pattern -/

theorem after_eq_some_iff {literal text rest : List Char} :
    after literal text = some rest ↔ text = literal ++ rest := by
  unfold after
  split_ifs with begins
  · obtain ⟨tail, rfl⟩ := List.isPrefixOf_iff_prefix.mp begins
    rw [List.drop_left, Option.some.injEq, List.append_cancel_left_eq]
  · refine iff_of_false nofun ?_
    rintro rfl
    exact begins (List.isPrefixOf_iff_prefix.mpr (List.prefix_append ..))

/-- A class takes as much as belongs to it: what follows begins with something else. -/
theorem many_eq_some_iff {belongs : Char → Bool} {text taken rest : List Char} :
    many belongs text = some (taken, rest) ↔
      text = taken ++ rest ∧ taken ≠ [] ∧ (∀ c ∈ taken, belongs c = true) ∧
        ∀ c ∈ rest.head?, belongs c = false := by
  unfold many
  constructor
  · intro split
    split_ifs at split with nothing
    obtain ⟨rfl, rfl⟩ := Prod.mk.inj (Option.some.inj split)
    refine ⟨List.takeWhile_append_dropWhile.symm, nothing,
      fun c member => List.mem_takeWhile_imp member, fun c first => ?_⟩
    have ends := List.head?_dropWhile_not belongs text
    rw [Option.mem_def.mp first] at ends
    exact ends
  · rintro ⟨rfl, filled, inside, ends⟩
    have stops : rest.takeWhile belongs = [] ∧ rest.dropWhile belongs = rest := by
      cases rest with
      | nil => exact ⟨rfl, rfl⟩
      | cons c rest =>
        have outside := ends c rfl
        simp [outside]
    rw [List.takeWhile_append_of_pos inside, List.dropWhile_append_of_pos inside, stops.1, stops.2,
      List.append_nil, if_neg filled]

theorem fourHexDigits_eq_some_iff {text digits rest : List Char} :
    fourHexDigits text = some (digits, rest) ↔
      text = digits ++ rest ∧ digits.length = 4 ∧ digits.all isHexDigit = true := by
  unfold fourHexDigits
  constructor
  · intro split
    split_ifs at split with four
    obtain ⟨rfl, rfl⟩ := Prod.mk.inj (Option.some.inj split)
    exact ⟨(List.take_append_drop 4 text).symm, four⟩
  · rintro ⟨rfl, length, hex⟩
    have front : (digits ++ rest).take 4 = digits := by rw [← length, List.take_left]
    have back : (digits ++ rest).drop 4 = rest := by rw [← length, List.drop_left]
    rw [front, back, if_pos ⟨length, hex⟩]

/-! ### Lines -/

/-- The parts of a line: the digits of the two numbers, those of the two halves of the id, and
whatever follows them. -/
structure UsbParts (isDecimal : Char → Bool) where
  bus : List Char
  device : List Char
  vendorId : List Char
  productId : List Char
  rest : List Char
  busNumber : bus ≠ [] ∧ ∀ c ∈ bus, isDecimal c = true
  deviceNumber : device ≠ [] ∧ ∀ c ∈ device, isDecimal c = true
  vendorHex : vendorId.length = 4 ∧ vendorId.all isHexDigit = true
  productHex : productId.length = 4 ∧ productId.all isHexDigit = true

namespace UsbParts

variable {isDecimal : Char → Bool} (parts : UsbParts isDecimal)

/-- The line. -/
def text : List Char :=
  "Bus ".toList ++ (parts.bus ++ (" Device ".toList ++ (parts.device ++ (": ID ".toList ++
    (parts.vendorId ++ (":".toList ++ (parts.productId ++ parts.rest)))))))

/-- The device: the id in lower case, and a name unless there is none. -/
def entry : UsbDevice where
  bus := String.ofList parts.bus
  device := some (String.ofList parts.device)
  vendorId := some (String.ofList (parts.vendorId.map Char.toLower))
  productId := some (String.ofList (parts.productId.map Char.toLower))
  name := if strip parts.rest = [] then none else some (String.ofList (strip parts.rest))

end UsbParts

section Lines

variable {isDecimal : Char → Bool}

/-- The pattern matches exactly the lines that are made of these parts. That a blank and a
colon are no digits keeps the numbers from taking more than is theirs. -/
theorem usbEntry_iff (blank : isDecimal ' ' = false) (colon : isDecimal ':' = false)
    {line : List Char} {entry : UsbDevice} :
    usbEntry isDecimal line = some entry ↔
      ∃ parts : UsbParts isDecimal, line = parts.text ∧ entry = parts.entry := by
  constructor
  · intro read
    simp only [usbEntry, Option.bind_eq_bind, Option.bind_eq_some_iff, Prod.exists,
      Option.pure_def, Option.some.injEq, after_eq_some_iff, many_eq_some_iff,
      fourHexDigits_eq_some_iff] at read
    obtain ⟨_, rfl, bus, _, ⟨rfl, busFilled, busDigits, -⟩, _, rfl, device, _,
      ⟨rfl, deviceFilled, deviceDigits, -⟩, _, rfl, vendorId, _, ⟨rfl, vendorHex⟩, _, rfl,
      productId, rest, ⟨rfl, productHex⟩, rfl⟩ := read
    exact ⟨⟨bus, device, vendorId, productId, rest, ⟨busFilled, busDigits⟩,
      ⟨deviceFilled, deviceDigits⟩, vendorHex, productHex⟩, rfl, rfl⟩
  · rintro ⟨parts, rfl, rfl⟩
    have literal (text rest : List Char) : after text (text ++ rest) = some rest :=
      after_eq_some_iff.mpr rfl
    have busTaken (rest : List Char) : many isDecimal (parts.bus ++ (" Device ".toList ++ rest)) =
        some (parts.bus, " Device ".toList ++ rest) :=
      many_eq_some_iff.mpr ⟨rfl, parts.busNumber.1, parts.busNumber.2, by
        rintro c ⟨⟩
        exact blank⟩
    have deviceTaken (rest : List Char) :
        many isDecimal (parts.device ++ (": ID ".toList ++ rest)) =
          some (parts.device, ": ID ".toList ++ rest) :=
      many_eq_some_iff.mpr ⟨rfl, parts.deviceNumber.1, parts.deviceNumber.2, by
        rintro c ⟨⟩
        exact colon⟩
    have vendorTaken (rest : List Char) : fourHexDigits (parts.vendorId ++ rest) =
        some (parts.vendorId, rest) :=
      fourHexDigits_eq_some_iff.mpr ⟨rfl, parts.vendorHex⟩
    have productTaken (rest : List Char) : fourHexDigits (parts.productId ++ rest) =
        some (parts.productId, rest) :=
      fourHexDigits_eq_some_iff.mpr ⟨rfl, parts.productHex⟩
    simp only [usbEntry, UsbParts.text, literal, busTaken, deviceTaken, vendorTaken, productTaken,
      Option.bind_eq_bind, Option.bind_some]
    rfl

/-- A line that says something is read without the white space around it. -/
theorem usbLine_iff (blank : isDecimal ' ' = false) (colon : isDecimal ':' = false)
    {line : List Char} {entry : UsbDevice} :
    usbLine isDecimal line = some entry ↔
      ∃ parts : UsbParts isDecimal, strip line = parts.text ∧ entry = parts.entry := by
  unfold usbLine
  split_ifs with empty
  · refine iff_of_false nofun ?_
    rintro ⟨parts, same, -⟩
    rw [empty] at same
    cases same
  · exact usbEntry_iff blank colon

/-! ### Outputs -/

/-- The devices of lines: those of the lines that are made of the parts, in their order. -/
inductive ReadsUsb (isDecimal : Char → Bool) : List (List Char) → List UsbDevice → Prop
  | nil : ReadsUsb isDecimal [] []
  | device {line : List Char} {lines : List (List Char)} {devices : List UsbDevice}
      (parts : UsbParts isDecimal) (made : strip line = parts.text)
      (rest : ReadsUsb isDecimal lines devices) :
      ReadsUsb isDecimal (line :: lines) (parts.entry :: devices)
  | other {line : List Char} {lines : List (List Char)} {devices : List UsbDevice}
      (unmade : ∀ parts : UsbParts isDecimal, strip line ≠ parts.text)
      (rest : ReadsUsb isDecimal lines devices) : ReadsUsb isDecimal (line :: lines) devices

theorem readsUsb_iff (blank : isDecimal ' ' = false) (colon : isDecimal ':' = false)
    {lines : List (List Char)} {devices : List UsbDevice} :
    ReadsUsb isDecimal lines devices ↔ lines.filterMap (usbLine isDecimal) = devices := by
  constructor
  · intro reads
    induction reads with
    | nil => rfl
    | device parts made rest ih =>
      rw [List.filterMap_cons_some ((usbLine_iff blank colon).mpr ⟨parts, made, rfl⟩), ih]
    | @other line lines devices unmade rest ih =>
      have none_ : usbLine isDecimal line = none := by
        rw [Option.eq_none_iff_forall_ne_some]
        intro entry read
        obtain ⟨parts, made, -⟩ := (usbLine_iff blank colon).mp read
        exact unmade parts made
      rw [List.filterMap_cons_none none_, ih]
  · rintro rfl
    induction lines with
    | nil => exact .nil
    | cons line lines ih =>
      cases read : usbLine isDecimal line with
      | none =>
        rw [List.filterMap_cons_none read]
        refine .other (fun parts made => ?_) ih
        have some_ := (usbLine_iff blank colon).mpr ⟨parts, made, rfl⟩
        rw [read] at some_
        cases some_
      | some entry =>
        obtain ⟨parts, made, rfl⟩ := (usbLine_iff blank colon).mp read
        rw [List.filterMap_cons_some read]
        exact .device parts made ih

/-- The outputs of `lsusb` that are read: the tool ended well, and there is a device among its
lines, or nothing on them at all. -/
theorem listUsb_iff (blank : isDecimal ' ' = false) (colon : isDecimal ':' = false)
    (run : ToolRunner) (devices : List UsbDevice) :
    listUsb isDecimal run = .ok devices ↔
      ∃ out, run "lsusb" [] 10 = .ok out ∧ ReadsUsb isDecimal (splitLines out.toList) devices ∧
        (devices = [] → strip out.toList = []) := by
  simp only [readsUsb_iff blank colon]
  cases ran : run "lsusb" [] 10 with
  | error e =>
    refine iff_of_false ?_ (by rintro ⟨out, same, -⟩; cases same)
    rw [listUsb, runTranslated, ran]
    cases e <;> exact nofun
  | ok out =>
    have output : listUsb isDecimal run = listDevices (usbLine isDecimal) "lsusb" out := by
      rw [listUsb, runTranslated, ran]
      rfl
    rw [output, listDevices]
    simp only [Except.ok.injEq, exists_eq_left']
    split_ifs with failed
    · refine iff_of_false nofun ?_
      rintro ⟨rfl, filled⟩
      exact failed.2 (filled (List.isEmpty_iff.mp failed.1))
    · rw [Except.ok.injEq]
      constructor
      · rintro rfl
        refine ⟨rfl, fun nothing => ?_⟩
        by_contra said
        exact failed ⟨List.isEmpty_iff.mpr nothing, said⟩
      · exact And.left

/-- One port of a bus, and a message of the tool itself. -/
theorem listUsb_iff_port :
    ∃ out : String, ("note\nBus 001 Device 002: ID 1d6b:0003 Linux 3.0 root hub\n" = out) ∧
      ReadsUsb Char.isDigit (splitLines out.toList)
        [{ bus := "001", device := "002", vendorId := "1d6b", productId := "0003",
           name := "Linux 3.0 root hub" }] := by
  have blank : Char.isDigit ' ' = false := by decide
  have colon : Char.isDigit ':' = false := by decide
  obtain ⟨out, same, reads, -⟩ := (listUsb_iff blank colon
    (fun _ _ _ => .ok "note\nBus 001 Device 002: ID 1d6b:0003 Linux 3.0 root hub\n") _).mp rfl
  exact ⟨out, Except.ok.inj same, reads⟩

end Lines

end Lapcare.Providers
