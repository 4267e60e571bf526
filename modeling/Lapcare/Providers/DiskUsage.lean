import Lapcare.Core.Errors
import Lapcare.Semantics.FirstOccurrence
import Lapcare.Semantics.Logged
import Lapcare.Text.Lines
import Lapcare.Text.UnicodeEscape
import Lapcare.Text.Utf8

/-!
# Filesystem usage through statvfs

`providers/disk_usage.py` and `read_str` of `platform/files.py`. A run is its outcome
together with the `statvfs` calls it made, each with the source it was made for.

## Main results

* `exec_scan` — outcome and calls of the loop, as functions of what its lines read as
* `visitsOf_map_ok` — where every line decodes, one call for each source, in the order in
  which the sources first occur
-/

namespace Lapcare.Providers

open Lapcare.Core Semantics Semantics.Logged Text

/-- `read_str` on what a file holds, if it can be read. -/
def readStr (content : Option (List UInt8)) (maxBytes : ℕ) : Option (List Char) :=
  match content with
  | none => none
  | some data => if data.length > maxBytes then none else some (strip (decode data))

/-- What is read of an `os.statvfs_result`. -/
structure Stat where
  frsize : ℕ
  blocks : ℕ
  bavail : ℕ

/-- How `statvfs` fails. Only an `OSError` is expected. -/
inductive StatvfsError
  | osError (detail : String)
  | other (error : PyException)

/-- The source and the decoded mountpoint of a line. -/
abbrev Reading := List Char × List Char

/-- A `statvfs` call: the source whose filesystem it asks for, and its argument. -/
abbrev Visit := Reading

/-- What a `DiskUsageStatvfs` finds: the mount table, the filesystems, and the names of
the characters that an escape may name. -/
structure Host where
  mounts : Option (List UInt8)
  statvfs : List Char → Except StatvfsError Stat
  names : List UInt8 → Option Char

def mountsMaxBytes : ℕ := 1024 * 1024

def devicePrefix : List Char := "/dev/".toList

/-- Source and mountpoint among the fields of a line, if it mounts a device. -/
def deviceFields : List (List Char) → Option (List Char × List Char)
  | source :: mountpoint :: _ =>
      if devicePrefix.isPrefixOf source then some (source, mountpoint) else none
  | _ => none

section Provider

variable (names : List UInt8 → Option Char) (statvfs : List Char → Except StatvfsError Stat)

/-- `_decode_mount_field`. -/
def decodeMountField (field : List Char) : Except PyException (List Char) :=
  (UnicodeEscape.unescape names (encode field)).mapError (.foreign "UnicodeDecodeError")

def usage (mountpoint : List Char) (stat : Stat) : DiskUsage where
  mountpoint := String.ofList mountpoint
  totalBytes := stat.frsize * stat.blocks
  freeBytes := stat.frsize * stat.bavail

/-- Local variables of the loop over the lines. -/
structure Scan where
  usages : List DiskUsage := []
  seenSources : List (List Char) := []

/-- One turn of the loop. The mountpoint is decoded before its source is looked up. -/
def Scan.turn (scan : Scan) (line : List Char) : Logged Visit PyException Scan :=
  match deviceFields (splitFields line) with
  | none => pure scan
  | some (source, field) => do
      let mountpoint ← ofExcept (decodeMountField names field)
      if source ∈ scan.seenSources then
        return scan
      let seenSources := scan.seenSources ++ [source]
      match ← perform (fun _ => .ok (statvfs mountpoint)) (fun _ => (source, mountpoint)) with
      | .ok stat => return { usages := scan.usages ++ [usage mountpoint stat], seenSources }
      | .error (.osError _) => return { scan with seenSources }
      | .error (.other error) => throw error

def scanLines (lines : List (List Char)) : Logged Visit PyException Scan :=
  lines.foldlM (Scan.turn names statvfs) {}

end Provider

/-- `DiskUsageStatvfs.list_usage`. -/
def Host.listUsage (host : Host) : Logged Visit PyException (List DiskUsage) :=
  match readStr host.mounts mountsMaxBytes with
  | none => pure []
  | some text => (·.usages) <$> scanLines host.names host.statvfs (splitLines text)

/-! ### The loop without its state -/

section Readings

variable (names : List UInt8 → Option Char) (statvfs : List Char → Except StatvfsError Stat)

/-- What a line with these fields reads as, if it mounts a device. -/
def readFields (fields : List (List Char)) : Option (Except PyException Reading) :=
  (deviceFields fields).map fun device => (device.1, ·) <$> decodeMountField names device.2

def readLines : List (List Char) → List (Except PyException Reading) :=
  readEach (readFields names)

/-- What a text reads as. -/
def readText (text : List Char) : List (Except PyException Reading) :=
  readLines names (splitLines text)

theorem readText_strip (text : List Char) : readText names (strip text) = readText names text :=
  readEach_strip rfl text

theorem readText_append_newline (front rest : List Char) :
    readText names (front ++ '\n' :: rest) = readText names front ++ readText names rest := by
  have own : readText names (front ++ ['\n']) = readText names front :=
    readEach_append_space rfl (by decide) front
  rw [← own, readText, splitLines_append_newline]
  exact List.filterMap_append

/-- Text in lines reads as its lines do. -/
theorem readText_lines {α : Type} (line : α → List Char) (items : List α) :
    readText names (items.flatMap fun item => line item ++ ['\n']) =
      items.flatMap fun item => readText names (line item) := by
  induction items with
  | nil => rfl
  | cons item items ih =>
    rw [List.flatMap_cons, List.append_assoc, List.singleton_append, readText_append_newline, ih,
      List.flatMap_cons]

/-- The filesystems that the loop lists. -/
def usagesOf : List (List Char) → List (Except PyException Reading) →
    Except PyException (List DiskUsage)
  | _, [] => .ok []
  | _, .error error :: _ => .error error
  | seen, .ok (source, path) :: rest =>
      if source ∈ seen then usagesOf seen rest
      else
        match statvfs path with
        | .ok stat => (usage path stat :: ·) <$> usagesOf (seen ++ [source]) rest
        | .error (.osError _) => usagesOf (seen ++ [source]) rest
        | .error (.other error) => .error error

/-- The calls that the loop makes. -/
def visitsOf : List (List Char) → List (Except PyException Reading) → List Visit
  | _, [] => []
  | _, .error _ :: _ => []
  | seen, .ok (source, path) :: rest =>
      if source ∈ seen then visitsOf seen rest
      else
        (source, path) ::
          match statvfs path with
          | .error (.other _) => []
          | _ => visitsOf (seen ++ [source]) rest

theorem exec_ofExcept {ε κ α : Type} (value : Except ε α) (log : List κ) :
    exec (ofExcept value : Logged κ ε α) log = (value, log) := by
  cases value <;> rfl

theorem exec_turn_other {line : List Char} (other : deviceFields (splitFields line) = none)
    (scan : Scan) (log : List Visit) :
    exec (scan.turn names statvfs line) log = (.ok scan, log) := by
  simp only [Scan.turn, other]
  rfl

theorem exec_turn {line source field : List Char}
    (device : deviceFields (splitFields line) = some (source, field)) (scan : Scan)
    (log : List Visit) :
    exec (scan.turn names statvfs line) log =
      match decodeMountField names field with
      | .error error => (.error error, log)
      | .ok path =>
          if source ∈ scan.seenSources then (.ok scan, log)
          else
            (match statvfs path with
              | .ok stat =>
                  .ok { usages := scan.usages ++ [usage path stat]
                        seenSources := scan.seenSources ++ [source] }
              | .error (.osError _) =>
                  .ok { scan with seenSources := scan.seenSources ++ [source] }
              | .error (.other error) => .error error,
              log ++ [(source, path)]) := by
  simp only [Scan.turn, device]
  rw [exec_bind, exec_ofExcept]
  cases decodeMountField names field with
  | error error => rfl
  | ok path =>
    -- a source seen before is skipped without asking for its numbers
    by_cases old : source ∈ scan.seenSources
    · simp only [if_pos old]
      rfl
    · simp only [if_neg old]
      rw [exec_bind, exec_perform]
      rcases statvfs path with (detail | error) | stat <;> rfl

/-- Outcome and calls of the loop, as functions of what its lines read as. -/
theorem exec_scan (lines : List (List Char)) (scan : Scan) (log : List Visit) :
    exec ((·.usages) <$> lines.foldlM (Scan.turn names statvfs) scan) log =
      ((scan.usages ++ ·) <$> usagesOf statvfs scan.seenSources (readLines names lines),
        log ++ visitsOf statvfs scan.seenSources (readLines names lines)) := by
  induction lines generalizing scan log with
  | nil =>
    rw [exec_map]
    simp [readLines, readEach, usagesOf, visitsOf, Except.map]
  | cons line lines ih =>
    simp only [exec_map, List.foldlM_cons, exec_bind] at ih ⊢
    cases device : deviceFields (splitFields line) with
    | none =>
      have skipped : readLines names (line :: lines) = readLines names lines := by
        simp [readLines, readEach, readFields, device]
      rw [exec_turn_other names statvfs device, skipped]
      exact ih scan log
    | some fields =>
      obtain ⟨source, field⟩ := fields
      have read : readLines names (line :: lines) =
          ((source, ·) <$> decodeMountField names field) :: readLines names lines := by
        simp [readLines, readEach, readFields, device]
      rw [exec_turn names statvfs device, read]
      cases decodeMountField names field with
      | error error => simp [usagesOf, visitsOf, Except.map]
      | ok path =>
        simp only [Except.map_ok, usagesOf, visitsOf]
        by_cases old : source ∈ scan.seenSources
        · simp only [if_pos old]
          exact ih scan log
        simp only [if_neg old]
        -- a visited filesystem is listed, passed over, or ends the loop
        rcases statvfs path with (detail | error) | stat
        · rw [ih]
          simp
        · simp [Except.map]
        · rw [ih]
          simp

/-- Outcome and calls of a run on a table that is not too long. -/
theorem exec_listUsage {data : List UInt8} (fits : data.length ≤ mountsMaxBytes) :
    exec (Host.listUsage ⟨some data, statvfs, names⟩) [] =
      (usagesOf statvfs [] (readText names (decode data)),
        visitsOf statvfs [] (readText names (decode data))) := by
  have read : readStr (some data) mountsMaxBytes = some (strip (decode data)) :=
    if_neg (by omega)
  have lines := exec_scan names statvfs (splitLines (strip (decode data))) {} []
  simp only [Host.listUsage, read, scanLines]
  rw [lines]
  change (_ <$> usagesOf statvfs [] (readText names (strip (decode data))),
    [] ++ visitsOf statvfs [] (readText names (strip (decode data)))) = _
  rw [readText_strip]
  simp

theorem exec_listUsage_long {data : List UInt8} (long : ¬ data.length ≤ mountsMaxBytes) :
    exec (Host.listUsage ⟨some data, statvfs, names⟩) [] = (.ok [], []) := by
  have unread : readStr (some data) mountsMaxBytes = none := if_pos (by omega)
  simp only [Host.listUsage, unread]
  rfl

/-! ### Where every line decodes -/

/-- The first line that does not decode. -/
def failure (readings : List (Except PyException Reading)) : Option PyException :=
  readings.findSome? fun
    | .error error => some error
    | .ok _ => none

theorem failure_eq_none_iff (readings : List (Except PyException Reading)) :
    failure readings = none ↔ ∃ decoded : List Reading, readings = decoded.map .ok := by
  constructor
  · intro clean
    induction readings with
    | nil => exact ⟨[], rfl⟩
    | cons reading readings ih =>
      cases reading with
      | error error => exact nomatch clean
      | ok first =>
        obtain ⟨decoded, rest⟩ := ih clean
        exact ⟨first :: decoded, congrArg (.ok first :: ·) rest⟩
  · rintro ⟨decoded, rfl⟩
    induction decoded with
    | nil => rfl
    | cons first decoded ih => exact ih

/-- The entry of a filesystem that `statvfs` knows. -/
def listed (visit : Visit) : Option DiskUsage :=
  match statvfs visit.2 with
  | .ok stat => some (usage visit.2 stat)
  | .error _ => none

/-- At the mountpoints that are read `statvfs` fails with nothing but an `OSError`. -/
def ExpectedAt (readings : List (Except PyException Reading)) : Prop :=
  ∀ visit, .ok visit ∈ readings → ∀ error, statvfs visit.2 ≠ .error (.other error)

variable {statvfs}

theorem expectedAt_of_forall (expected : ∀ path error, statvfs path ≠ .error (.other error))
    (readings : List (Except PyException Reading)) : ExpectedAt statvfs readings :=
  fun visit _ => expected visit.2

theorem ExpectedAt.tail {reading : Except PyException Reading}
    {readings : List (Except PyException Reading)}
    (expected : ExpectedAt statvfs (reading :: readings)) : ExpectedAt statvfs readings :=
  fun visit member => expected visit (List.mem_cons_of_mem _ member)

/-- A line that does not decode ends the loop, its source seen or not. -/
theorem usagesOf_failure {readings : List (Except PyException Reading)} {error : PyException}
    (expected : ExpectedAt statvfs readings) (raised : failure readings = some error)
    (seen : List (List Char)) : usagesOf statvfs seen readings = .error error := by
  induction readings generalizing seen with
  | nil => exact nomatch raised
  | cons reading readings ih =>
    cases reading with
    | error first =>
      obtain rfl := Option.some.inj raised
      rfl
    | ok first =>
      obtain ⟨source, path⟩ := first
      have later : failure readings = some error := raised
      by_cases old : source ∈ seen
      · simpa only [usagesOf, if_pos old] using ih expected.tail later seen
      · simp only [usagesOf, if_neg old, ih expected.tail later]
        rcases outcome : statvfs path with (detail | other) | stat
        · rfl
        · exact absurd outcome (expected (source, path) List.mem_cons_self other)
        · rfl

/-- One call for each source, in the order in which the sources first occur. -/
theorem visitsOf_map_ok {readings : List Reading}
    (expected : ExpectedAt statvfs (readings.map .ok)) (seen : List (List Char)) :
    visitsOf statvfs seen (readings.map .ok) = firsts seen readings := by
  induction readings generalizing seen with
  | nil => rfl
  | cons reading readings ih =>
    obtain ⟨source, path⟩ := reading
    by_cases old : source ∈ seen
    · simp only [List.map_cons, visitsOf, firsts, if_pos old, ih expected.tail]
    · simp only [List.map_cons, visitsOf, firsts, if_neg old, ih expected.tail]
      rcases outcome : statvfs path with (detail | error) | stat
      · rfl
      · exact absurd outcome (expected (source, path) List.mem_cons_self error)
      · rfl

theorem usagesOf_map_ok {readings : List Reading}
    (expected : ExpectedAt statvfs (readings.map .ok)) (seen : List (List Char)) :
    usagesOf statvfs seen (readings.map .ok) =
      .ok ((firsts seen readings).filterMap (listed statvfs)) := by
  induction readings generalizing seen with
  | nil => rfl
  | cons reading readings ih =>
    obtain ⟨source, path⟩ := reading
    by_cases old : source ∈ seen
    · simp only [List.map_cons, usagesOf, firsts, if_pos old, ih expected.tail]
    · simp only [List.map_cons, usagesOf, firsts, if_neg old, ih expected.tail]
      rcases outcome : statvfs path with (detail | error) | stat
      · rw [List.filterMap_cons_none (by simp [listed, outcome])]
      · exact absurd outcome (expected (source, path) List.mem_cons_self error)
      · rw [List.filterMap_cons_some (b := usage path stat) (by simp [listed, outcome])]
        rfl

end Readings

end Lapcare.Providers
