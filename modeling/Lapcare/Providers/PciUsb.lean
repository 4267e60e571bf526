import Lapcare.Core.Errors
import Lapcare.Core.Models
import Lapcare.Platform.Subprocess
import Lapcare.Text.Lines
import Lapcare.Text.Shlex

/-!
# The device inventory

`PciUsbTools` of `providers/pci_usb.py`: the lines of `lspci -mm` and of `lsusb`. A line
that does not parse is passed over; output without any line that parses is an error.
-/

namespace Lapcare.Providers

open Lapcare.Core Platform Text

/-- `SOURCE`. -/
def pciUsbSource : String := "pci_usb"

/-- `_PACKAGES`. -/
def packages : List (String × String) :=
  [("lspci", "pciutils"), ("lsusb", "usbutils")]

/-- `_run_translated`, with the timeout that is the runner's default. -/
def runTranslated (run : ToolRunner) (tool : String) (args : List String) :
    Except PyException String :=
  match run tool args 10 with
  | .ok out => .ok out
  | .error (.toolNotFound _) =>
      .error (.lapcare (.providerUnavailable pciUsbSource .toolMissing (packages.lookup tool)))
  | .error (.toolTimeout tool timeout) =>
      .error (.lapcare (.providerTimeout pciUsbSource (ToolError.toolTimeout tool timeout).message))
  | .error (.toolFailed _ returncode _) =>
      .error (.lapcare (.providerParseError pciUsbSource s!"{tool} exited {returncode}"))
  | .error (.foreign className detail) => .error (.foreign className detail)

/-- What both listings do with the output: every line on its own, and an error if nothing
came of any. -/
def listDevices {δ : Type} (parse : List Char → Option δ) (tool out : String) :
    Except PyException (List δ) :=
  let devices := (splitLines out.toList).filterMap parse
  if devices.isEmpty ∧ strip out.toList ≠ [] then
    .error (.lapcare (.providerParseError pciUsbSource s!"{tool} output had no parseable lines"))
  else .ok devices

/-! ### lspci -/

/-- A field that is an option, such as the revision. -/
def isDashed (field : List Char) : Bool :=
  ['-'].isPrefixOf field

/-- The body of the loop over the lines of `lspci -mm`. -/
def pciLine (line : List Char) : Option PciDevice :=
  if strip line = [] then none
  else
    match Shlex.split line with
    | .error _ => none
    | .ok tokens =>
        -- the options `-rXX`, `-pXX` stand anywhere after the slot
        match tokens, tokens.tail.filter (! isDashed ·) with
        | slot :: _, deviceClass :: vendor :: device :: _ =>
            some {
              slot := String.ofList slot
              deviceClass := some (String.ofList deviceClass)
              vendor := some (String.ofList vendor)
              device := some (String.ofList device) }
        | _, _ => none

/-- `list_pci`. -/
def listPci (run : ToolRunner) : Except PyException (List PciDevice) := do
  listDevices pciLine "lspci" (← runTranslated run "lspci" ["-mm"])

/-! ### lsusb -/

/-- What follows a literal of a pattern. -/
def after (literal text : List Char) : Option (List Char) :=
  if literal.isPrefixOf text then some (text.drop literal.length) else none

/-- `[class]+`, and what follows. -/
def many (belongs : Char → Bool) (text : List Char) : Option (List Char × List Char) :=
  if text.takeWhile belongs = [] then none
  else some (text.takeWhile belongs, text.dropWhile belongs)

def isHexDigit (c : Char) : Bool :=
  c.isDigit || ('a' ≤ c && c ≤ 'f') || ('A' ≤ c && c ≤ 'F')

/-- `[0-9a-fA-F]{4}`, and what follows. -/
def fourHexDigits (text : List Char) : Option (List Char × List Char) :=
  if (text.take 4).length = 4 ∧ (text.take 4).all isHexDigit then some (text.take 4, text.drop 4)
  else none

section Usb

-- the decimal digits of all scripts, which the pattern admits in numbers
variable (isDecimal : Char → Bool)

/-- `_USB_LINE.match` on a line without white space around it. -/
def usbEntry (line : List Char) : Option UsbDevice := do
  let (bus, rest) ← many isDecimal (← after "Bus ".toList line)
  let (device, rest) ← many isDecimal (← after " Device ".toList rest)
  let (vendorId, rest) ← fourHexDigits (← after ": ID ".toList rest)
  let (productId, rest) ← fourHexDigits (← after ":".toList rest)
  return {
    bus := String.ofList bus
    device := some (String.ofList device)
    vendorId := some (String.ofList (vendorId.map Char.toLower))
    productId := some (String.ofList (productId.map Char.toLower))
    name := if strip rest = [] then none else some (String.ofList (strip rest)) }

/-- The body of the loop over the lines of `lsusb`. -/
def usbLine (line : List Char) : Option UsbDevice :=
  if strip line = [] then none else usbEntry isDecimal (strip line)

/-- `list_usb`. -/
def listUsb (run : ToolRunner) : Except PyException (List UsbDevice) := do
  listDevices (usbLine isDecimal) "lsusb" (← runTranslated run "lsusb" [])

example : usbLine Char.isDigit "Bus 003 Device 002: ID 174F:1820 Syntek Camera".toList =
    some {
      bus := "003"
      device := some "002"
      vendorId := some "174f"
      productId := some "1820"
      name := some "Syntek Camera" } := by decide

end Usb

end Lapcare.Providers
