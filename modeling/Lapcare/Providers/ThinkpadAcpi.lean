import Lapcare.Providers.SystemFiles

/-!
# Whether this is a ThinkPad

`ThinkpadAcpiSysfs` of `providers/thinkpad_acpi.py`: the driver is bound, or the vendor and one
of two names say so. Either sign is enough.

## Main results

* `isThinkpad_detect_iff` — when the machine is taken for a ThinkPad
-/

namespace Lapcare.Providers

open Lapcare.Core Platform Text

def driverDir : RelPath := ["sys", "devices", "platform", "thinkpad_acpi"]

section Detect

-- `str.upper`, on the code points of a text
variable (upper : List Char → List Char) (builtins : Builtins)

/-- `(ident.vendor or "").strip().upper() == "LENOVO"`. -/
def isLenovo (identity : SystemIdentity) : Bool :=
  upper (strip (identity.vendor.getD "").toList) = "LENOVO".toList

/-- `candidate and "thinkpad" in candidate.lower()`. -/
def namesThinkpad (candidate : String) : Bool :=
  (cut "thinkpad".toList (builtins.lower candidate.toList)).isSome && candidate ≠ ""

/-- The first name that says so. -/
def thinkpadModel (identity : SystemIdentity) : Option String :=
  ([identity.productFamily, identity.productVersion].filterMap id).find? (namesThinkpad builtins)

/-- `detect`. -/
def detect (root : Root) (identity : Option SystemIdentity) : ThinkpadInfo :=
  let driverLoaded := root.isDir driverDir
  let vendorLenovo := identity.elim false (isLenovo upper)
  let model := identity.bind (thinkpadModel builtins)
  { isThinkpad := driverLoaded || (vendorLenovo && model.isSome)
    dmiVendorLenovo := vendorLenovo
    acpiDriverLoaded := driverLoaded
    model }

variable {upper builtins}

theorem thinkpadModel_isSome_iff {identity : SystemIdentity} :
    (thinkpadModel builtins identity).isSome ↔
      ∃ name, (identity.productFamily = some name ∨ identity.productVersion = some name) ∧
        namesThinkpad builtins name = true := by
  rw [thinkpadModel, List.find?_isSome]
  simp only [List.mem_filterMap, List.mem_cons, List.not_mem_nil, or_false, id_eq]
  constructor
  · rintro ⟨name, ⟨candidate, from_, rfl⟩, names⟩
    exact ⟨name, from_.imp Eq.symm Eq.symm, names⟩
  · rintro ⟨name, from_, names⟩
    exact ⟨name, ⟨some name, from_.imp Eq.symm Eq.symm, rfl⟩, names⟩

/-- The signs of a ThinkPad. -/
def IsThinkpad (upper : List Char → List Char) (builtins : Builtins) (root : Root) : Prop :=
  root.isDir driverDir = true ∨
    isLenovo upper (readIdentity root) = true ∧
      ∃ name, ((readIdentity root).productFamily = some name ∨
        (readIdentity root).productVersion = some name) ∧ namesThinkpad builtins name = true

theorem isThinkpad_detect_iff {root : Root} :
    (detect upper builtins root (some (readIdentity root))).isThinkpad = true ↔
      IsThinkpad upper builtins root := by
  change (root.isDir driverDir || (isLenovo upper (readIdentity root) &&
    (thinkpadModel builtins (readIdentity root)).isSome)) = true ↔ _
  rw [Bool.or_eq_true, Bool.and_eq_true, thinkpadModel_isSome_iff, IsThinkpad]

end Detect

end Lapcare.Providers
