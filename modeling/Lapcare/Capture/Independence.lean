import Lapcare.Capture.Writer

/-!
# A redacted capture and the identifier files

A capture that leaves the identifiers out reads no identifier file, and lists no directory
for one. Two trees that differ in these files only are captured alike.

## Main results

* `copyFiles_congr` — copies depend on the files they are made of
* `capture_independent` — the whole capture depends on no identifier file
-/

namespace Lapcare.Capture

open Platform Providers

/-- The six DMI identifier files, the hostname file, and the serial number of a
power-supply entry. -/
def IsIdentifier (path : RelPath) : Prop :=
  (∃ name ∈ dmiIdentifierFiles, path = dmiDir ++ [name]) ∨ path = hostnameFile ∨
    ∃ entry, path = powerSupplyDir ++ [entry, "serial_number"]

/-- The trees agree, except in the presence or contents of identifier files. -/
structure AgreeButIdentifiers (source source' : Root) : Prop where
  content : ∀ path, ¬ IsIdentifier path → source.content path = source'.content path
  isDir : ∀ dir, source.isDir dir = source'.isDir dir
  names : ∀ dir name, ¬ IsIdentifier (dir ++ [name]) →
    (name ∈ source.sortedNames dir ↔ name ∈ source'.sortedNames dir)

/-! ### Paths that are no identifiers -/

theorem isIdentifier_dmi_iff (name : String) :
    IsIdentifier (dmiDir ++ [name]) ↔ name ∈ dmiIdentifierFiles := by
  simp [IsIdentifier, dmiDir, hostnameFile, powerSupplyDir]

theorem isIdentifier_powerSupply_iff (entry name : String) :
    IsIdentifier (powerSupplyDir ++ [entry, name]) ↔ name = "serial_number" := by
  simp [IsIdentifier, dmiDir, hostnameFile, powerSupplyDir]

theorem not_isIdentifier_osInfo {path : RelPath} (listed : path ∈ osInfoFiles) :
    ¬ IsIdentifier path := by
  simp only [osInfoFiles, List.mem_cons, List.not_mem_nil, or_false] at listed
  rcases listed with rfl | rfl | rfl | rfl | rfl <;>
    simp [IsIdentifier, dmiDir, hostnameFile, powerSupplyDir, osReleaseFile, uptimeFile,
      kernelFile, cpuinfoFile, meminfoFile]

/-- A directory that identifier files do not stand in. -/
theorem not_isIdentifier_tpAcpi (name : String) : ¬ IsIdentifier (tpAcpiDir ++ [name]) := by
  simp [IsIdentifier, tpAcpiDir, dmiDir, hostnameFile, powerSupplyDir]

theorem not_isIdentifier_powerSupply (entry : String) :
    ¬ IsIdentifier (powerSupplyDir ++ [entry]) := by
  simp [IsIdentifier, dmiDir, hostnameFile, powerSupplyDir]

/-! ### Copies -/

theorem copyFiles_congr {source source' : Root} {relpaths : List RelPath}
    (same : ∀ relpath ∈ relpaths, source.content relpath = source'.content relpath)
    (dest : RelPath) (out : Root) :
    copyFiles source dest relpaths out = copyFiles source' dest relpaths out := by
  induction relpaths generalizing out with
  | nil => rfl
  | cons relpath relpaths ih =>
    have one : copyFile source dest out relpath = copyFile source' dest out relpath := by
      rw [copyFile, copyFile, same relpath List.mem_cons_self]
    rw [copyFiles, copyFiles, List.foldl_cons, List.foldl_cons, one]
    exact ih (fun other member => same other (List.mem_cons_of_mem _ member)) _

/-! ### The sources of a capture -/

namespace AgreeButIdentifiers

variable {source source' : Root} (agree : AgreeButIdentifiers source source')

include agree

theorem content_dmi (name : String) (other : name ∉ dmiIdentifierFiles) :
    source.content (dmiDir ++ [name]) = source'.content (dmiDir ++ [name]) :=
  agree.content _ fun identifier => other ((isIdentifier_dmi_iff name).1 identifier)

/-- A directory without identifier files is listed alike. -/
theorem sortedNames {dir : RelPath} (apart : ∀ name, ¬ IsIdentifier (dir ++ [name])) :
    source.sortedNames dir = source'.sortedNames dir := by
  have same : (source.entries dir).getD ∅ = (source'.entries dir).getD ∅ := by
    ext name
    have listed := agree.names dir name (apart name)
    rw [Root.sortedNames, Root.sortedNames, Finset.mem_sort, Finset.mem_sort] at listed
    exact listed
  rw [Root.sortedNames, same, Root.sortedNames]

theorem machineOf (builtins : Builtins) :
    Capture.machineOf builtins source = Capture.machineOf builtins source' := by
  have family := agree.content_dmi "product_family" (by decide)
  have product := agree.content_dmi "product_name" (by decide)
  simp only [Capture.machineOf, family, product]

theorem kernelOf : Capture.kernelOf source = Capture.kernelOf source' := by
  have kernel := agree.content kernelFile (not_isIdentifier_osInfo (by simp [osInfoFiles]))
  rw [Capture.kernelOf, kernel, Capture.kernelOf]

theorem captureDmi (machine : String) (progress : Progress) :
    Capture.captureDmi source machine false progress =
      Capture.captureDmi source' machine false progress := by
  have apart : ∀ name ∈ dmiFiles, name ∉ dmiIdentifierFiles := by decide
  have same : ∀ relpath ∈ dmiFiles.map (dmiDir ++ [·]),
      source.content relpath = source'.content relpath := by
    intro relpath listed
    obtain ⟨name, member, rfl⟩ := List.mem_map.1 listed
    exact agree.content_dmi name (apart name member)
  have copies := copyFiles_congr same ["dmi", machine] progress.out
  simp only [Capture.captureDmi, copies, Bool.false_eq_true, if_false]

theorem captureOsInfo (machine : String) (progress : Progress) :
    Capture.captureOsInfo source machine false progress =
      Capture.captureOsInfo source' machine false progress := by
  have copies := copyFiles_congr
    (fun relpath listed => agree.content relpath (not_isIdentifier_osInfo listed))
    ["os_info", machine] progress.out
  simp only [Capture.captureOsInfo, copies, Bool.false_eq_true, if_false]

theorem captureThinkpadAcpi (machine : String) (progress : Progress) :
    Capture.captureThinkpadAcpi source machine progress =
      Capture.captureThinkpadAcpi source' machine progress := by
  have uevent := agree.content _ (not_isIdentifier_tpAcpi "uevent")
  have listing := agree.sortedNames not_isIdentifier_tpAcpi
  simp only [Capture.captureThinkpadAcpi, agree.isDir, attributeNames, listing, copyFile, uevent]

theorem batteryFiles : Capture.batteryFiles source = Capture.batteryFiles source' := by
  rw [Capture.batteryFiles, agree.sortedNames not_isIdentifier_powerSupply, Capture.batteryFiles]

theorem captureBatteries (machine : String) (progress : Progress) :
    Capture.captureBatteries source machine progress =
      Capture.captureBatteries source' machine progress := by
  have absent : "serial_number" ∉ powerSupplyFiles := by decide
  -- what is copied of a battery does not hold its serial number
  have same : ∀ relpath ∈ Capture.batteryFiles source',
      source.content relpath = source'.content relpath := by
    intro relpath listed
    obtain ⟨entry, -, manifest⟩ := List.mem_flatMap.1 listed
    obtain ⟨name, member, rfl⟩ := List.mem_map.1 manifest
    apply agree.content
    intro identifier
    rw [(isIdentifier_powerSupply_iff entry name).1 identifier] at member
    exact absent member
  have copies := copyFiles_congr same ["battery_sysfs", machine] progress.out
  simp only [Capture.captureBatteries, agree.isDir, agree.batteryFiles, copies]

end AgreeButIdentifiers

/-- Trees that differ in identifier files only are captured under the same name, into the
same files with the same contents. -/
theorem capture_independent (builtins : Builtins) (surroundings : Surroundings)
    {source source' : Root} (agree : AgreeButIdentifiers source source') :
    capture builtins surroundings source false = capture builtins surroundings source' false := by
  simp only [capture, captureReadme, agree.machineOf, agree.captureDmi, agree.captureOsInfo,
    agree.captureThinkpadAcpi, agree.captureBatteries, agree.kernelOf]

/-! ### Two hostnames -/

theorem agree_write {path : RelPath} (identifier : IsIdentifier path) (root : Root)
    (data data' : List UInt8) :
    AgreeButIdentifiers (root.write path data) (root.write path data') where
  content other apart := by
    have different : other ≠ path := by
      rintro rfl
      exact apart identifier
    rw [content_write, content_write, if_neg different, if_neg different]
  isDir _ := rfl
  names _ _ _ := .rfl

/-- A machine with a hostname. -/
def hostTree (hostname : String) : Root :=
  (Root.empty.write (dmiDir ++ ["product_family"]) (textFile "ThinkPad E16".toList)).write
    hostnameFile (textFile hostname.toList)

/-- Built-in types on plain letters, without numbers. -/
def letterBuiltins : Builtins where
  int _ := none
  float _ := none
  lower := (·.map Char.toLower)

/-- A machine without tools. -/
def noTools : Surroundings where
  runner tool _ _ := .error (.toolNotFound tool)
  stamp := "2026-07-01"
  version := "1.0.0"

theorem capture_two_hostnames :
    capture letterBuiltins noTools (hostTree "alpha") false =
      capture letterBuiltins noTools (hostTree "beta") false :=
  capture_independent letterBuiltins noTools (agree_write (.inr (.inl rfl)) _ _ _)

end Lapcare.Capture
