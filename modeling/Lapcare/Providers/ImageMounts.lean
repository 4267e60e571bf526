import Lapcare.Core.DiskSpace
import Lapcare.Providers.DiskUsage

/-!
# Image mounts

A read-only image fills its loop device, so its filesystem has a size and no free space.
The check judges it like any other filesystem.

## Main results

* `firsts_of_unlisted` — images behind other mounts of their devices leave the rest as it is
* `verdict_of_firstFull` — the first full filesystem decides the verdict of a table
-/

namespace Lapcare.Providers

open Lapcare.Core Semantics Semantics.Logged Text

/-- `/dev/loop` and a number. -/
def IsLoopDevice (source : List Char) : Prop :=
  ∃ number, source = "/dev/loop".toList ++ number ∧ number ≠ [] ∧
    ∀ c ∈ number, c.isDigit = true

section Table

variable (names : List UInt8 → Option Char) (statvfs : List Char → Except StatvfsError Stat)

/-- A filesystem with a size and without space for an unprivileged user. -/
def isFull (visit : Visit) : Bool :=
  match statvfs visit.2 with
  | .ok stat => 0 < stat.frsize * stat.blocks && stat.frsize * stat.bavail == 0
  | .error _ => false

/-- A line of the table that mounts an image. -/
structure ImageLine where
  bytes : List UInt8
  oneLine : 0x0a ∉ bytes
  mount : Reading
  reads : readText names (decode bytes) = [.ok mount]
  loop : IsLoopDevice mount.1
  stat : Stat
  measured : statvfs mount.2 = .ok stat
  sized : 0 < stat.frsize * stat.blocks
  full : stat.bavail = 0

/-- A table to which lines of images were added, at any places. The other lines are any
bytes. -/
abbrev Extended := List (List UInt8 ⊕ ImageLine names statvfs)

/-- Status, `min_free_pct` and `min_free_mount` of `check_disk_space(list_usage())`. -/
def hostVerdict (data : List UInt8) :
    Except PyException (CheckStatus × Option String × Option String) :=
  (exec (Host.listUsage ⟨some data, statvfs, names⟩) []).1.map fun usages =>
    diskVerdict (checkDiskSpace (some usages))

/-- The mountpoint of the first full filesystem among the mounts that are the first of
their sources. -/
def firstFull (mounts : List Reading) : Option (List Char) :=
  ((firsts [] mounts).find? (isFull statvfs)).map (·.2)

variable {names statvfs}

/-- The bytes of a table. -/
def tableBytes (lines : List (List UInt8)) : List UInt8 :=
  lines.flatMap fun line => line ++ [0x0a]

variable (names) in
/-- What a table reads as. -/
def tableLines (lines : List (List UInt8)) : List (Except PyException Reading) :=
  lines.flatMap fun line => readText names (decode line)

variable (names) in
/-- The mounts of a table that decode. -/
def tableMounts (lines : List (List UInt8)) : List Reading :=
  (tableLines names lines).filterMap Except.toOption

namespace Extended

def lineBytes : List UInt8 ⊕ ImageLine names statvfs → List UInt8
  | .inl bytes => bytes
  | .inr image => image.bytes

/-- All lines, those of the images among them. -/
def lines (table : Extended names statvfs) : List (List UInt8) :=
  table.map lineBytes

/-- The lines without the images. -/
def others (table : Extended names statvfs) : List (List UInt8) :=
  table.filterMap Sum.getLeft?

/-- Image lines leave a verdict as it is: on a table that is read, where a line does not
decode (with and without them the call raises) or where the first full filesystem is the
same; on a table that is too long, where it is too long without them, or where it measures
nothing without them. -/
def Unmoved (table : Extended names statvfs) : Prop :=
  if (tableBytes table.lines).length ≤ mountsMaxBytes then
    failure (tableLines names table.others) ≠ none ∨
      firstFull statvfs (tableMounts names table.lines) =
        firstFull statvfs (tableMounts names table.others)
  else
    mountsMaxBytes < (tableBytes table.others).length ∨
      failure (tableLines names table.others) = none ∧
        ∀ visit ∈ firsts [] (tableMounts names table.others), ∀ stat,
          statvfs visit.2 = .ok stat → stat.frsize * stat.blocks = 0

end Extended

/-! ### Reading a table -/

/-- A table reads as its lines do. -/
theorem readText_tableBytes (lines : List (List UInt8)) :
    readText names (decode (tableBytes lines)) = tableLines names lines := by
  have newline (front rest : List UInt8) :
      decode (front ++ 0x0a :: rest) = decode front ++ '\n' :: decode rest :=
    decode_append_ascii (by decide) front rest
  induction lines with
  | nil => rfl
  | cons line lines ih =>
    have split : tableBytes (line :: lines) = line ++ 0x0a :: tableBytes lines := by
      simp [tableBytes]
    rw [split, newline, readText_append_newline, ih]
    rfl

theorem tableMounts_of_decoded {lines : List (List UInt8)} {decoded : List Reading}
    (reads : tableLines names lines = decoded.map .ok) : tableMounts names lines = decoded := by
  rw [tableMounts, reads, List.filterMap_map]
  exact List.filterMap_some

theorem hostVerdict_long {lines : List (List UInt8)}
    (long : ¬ (tableBytes lines).length ≤ mountsMaxBytes) :
    hostVerdict names statvfs (tableBytes lines) = .ok (.skipped, none, none) := by
  rw [hostVerdict, exec_listUsage_long names statvfs long]
  rfl

section Expected

variable (expected : ∀ path error, statvfs path ≠ .error (.other error))

include expected

theorem hostVerdict_error {lines : List (List UInt8)}
    (fits : (tableBytes lines).length ≤ mountsMaxBytes) {error : PyException}
    (raised : failure (tableLines names lines) = some error) :
    hostVerdict names statvfs (tableBytes lines) = .error error := by
  rw [hostVerdict, exec_listUsage names statvfs fits, readText_tableBytes]
  exact congrArg (Except.map _) (usagesOf_failure (expectedAt_of_forall expected _) raised [])

theorem hostVerdict_ok {lines : List (List UInt8)}
    (fits : (tableBytes lines).length ≤ mountsMaxBytes)
    (clean : failure (tableLines names lines) = none) :
    hostVerdict names statvfs (tableBytes lines) =
      .ok (diskVerdict (checkDiskSpace
        (some ((firsts [] (tableMounts names lines)).filterMap (listed statvfs))))) := by
  obtain ⟨decoded, reads⟩ := (failure_eq_none_iff _).mp clean
  rw [hostVerdict, exec_listUsage names statvfs fits, readText_tableBytes,
    tableMounts_of_decoded reads, reads]
  exact congrArg (Except.map _) (usagesOf_map_ok (expectedAt_of_forall expected _) [])

end Expected

/-! ### The first full filesystem -/

/-- A mount is listed with the numbers that the system has for it. -/
theorem listed_eq_some_iff {visit : Visit} {usage : DiskUsage} :
    listed statvfs visit = some usage ↔
      ∃ stat, statvfs visit.2 = .ok stat ∧ Providers.usage visit.2 stat = usage := by
  rw [listed]
  cases statvfs visit.2 <;> simp

theorem isFull_listed {visit : Visit} {usage : DiskUsage}
    (found : listed statvfs visit = some usage) : usage.isFull = isFull statvfs visit := by
  obtain ⟨stat, answer, rfl⟩ := listed_eq_some_iff.mp found
  rw [isFull, answer, DiskUsage.isFull, Bool.eq_iff_iff]
  simp only [Providers.usage, Bool.and_eq_true, decide_eq_true_eq, beq_iff_eq]
  norm_cast
  rw [decide_eq_true_eq]

theorem isFull_unlisted {visit : Visit} (unknown : listed statvfs visit = none) :
    isFull statvfs visit = false := by
  simp only [listed] at unknown
  cases answer : statvfs visit.2 with
  | error error => rw [isFull, answer]
  | ok stat =>
    rw [answer] at unknown
    cases unknown

theorem find?_listed (visits : List Visit) :
    (visits.filterMap (listed statvfs)).find? DiskUsage.isFull =
      (visits.find? (isFull statvfs)).bind (listed statvfs) := by
  induction visits with
  | nil => rfl
  | cons visit visits ih =>
    cases entry : listed statvfs visit with
    | none =>
      rw [List.filterMap_cons_none entry, ih, List.find?_cons, isFull_unlisted entry]
    | some usage =>
      rw [List.filterMap_cons_some entry, List.find?_cons, List.find?_cons,
        isFull_listed entry, ih]
      cases isFull statvfs visit with
      | true => exact entry.symm
      | false => rfl

theorem listed_of_isFull {visit : Visit} (full : isFull statvfs visit = true) :
    ∃ usage, listed statvfs visit = some usage ∧
      usage.mountpoint = String.ofList visit.2 := by
  cases answer : statvfs visit.2 with
  | error error =>
    rw [isFull, answer] at full
    exact nomatch full
  | ok stat => exact ⟨usage visit.2 stat, by rw [listed, answer], rfl⟩

theorem physical_listed (visits : List Visit) :
    ∀ usage ∈ visits.filterMap (listed statvfs), 0 ≤ usage.freeBytes := by
  intro usage member
  obtain ⟨visit, -, entry⟩ := List.mem_filterMap.mp member
  obtain ⟨stat, -, rfl⟩ := listed_eq_some_iff.mp entry
  exact Int.mul_nonneg (Int.natCast_nonneg _) (Int.natCast_nonneg _)

theorem unsized_listed_iff (visits : List Visit) :
    (∀ usage ∈ visits.filterMap (listed statvfs), usage.totalBytes ≤ 0) ↔
      ∀ visit ∈ visits, ∀ stat, statvfs visit.2 = .ok stat → stat.frsize * stat.blocks = 0 := by
  have size (visit : Visit) (stat : Stat) :
      (usage visit.2 stat).totalBytes = ((stat.frsize * stat.blocks : ℕ) : Int) := by
    simp [usage]
  constructor
  · intro unsized visit member stat answer
    have entry := listed_eq_some_iff.mpr ⟨stat, answer, rfl⟩
    have small := unsized _ (List.mem_filterMap.mpr ⟨visit, member, entry⟩)
    rw [size] at small
    omega
  · intro unsized usage member
    obtain ⟨visit, among, entry⟩ := List.mem_filterMap.mp member
    obtain ⟨stat, answer, rfl⟩ := listed_eq_some_iff.mp entry
    rw [size, unsized visit among stat answer]
    exact le_rfl

/-- The first full filesystem decides the verdict of the mounts. -/
theorem verdict_of_firstFull {mounts : List Reading} {path : List Char}
    (first : firstFull statvfs mounts = some path) :
    diskVerdict (checkDiskSpace (some ((firsts [] mounts).filterMap (listed statvfs)))) =
      (.critical, some "0.0", some (String.ofList path)) := by
  obtain ⟨visit, found, rfl⟩ := Option.map_eq_some_iff.mp first
  obtain ⟨usage, entry, named⟩ := listed_of_isFull (List.find?_some found)
  have full : ((firsts [] mounts).filterMap (listed statvfs)).find? DiskUsage.isFull =
      some usage := by
    rw [find?_listed, found]
    exact entry
  rw [diskVerdict_full (physical_listed _) full, named]

/-- A verdict names the path of one of its mounts. -/
theorem exists_visit_of_verdict {mounts : List Reading} {path : List Char}
    (shown : (diskVerdict (checkDiskSpace
      (some ((firsts [] mounts).filterMap (listed statvfs))))).2.2 = some (String.ofList path)) :
    ∃ visit ∈ firsts [] mounts, visit.2 = path := by
  obtain ⟨usage, member, -, named⟩ := diskVerdict_mount shown
  obtain ⟨visit, among, entry⟩ := List.mem_filterMap.mp member
  refine ⟨visit, among, ?_⟩
  obtain ⟨stat, -, rfl⟩ := listed_eq_some_iff.mp entry
  exact String.ofList_injective named

/-! ### Lines with and without images -/

/-- Readings of a line, those of image lines marked. -/
def markedLine : List UInt8 ⊕ ImageLine names statvfs → List (Bool × Except PyException Reading)
  | .inl bytes => (readText names (decode bytes)).map (false, ·)
  | .inr image => [(true, .ok image.mount)]

def Extended.marked (table : Extended names statvfs) : List (Bool × Except PyException Reading) :=
  table.flatMap markedLine

/-- What is not marked. -/
def unmarked {α : Type} (items : List (Bool × α)) : List α :=
  (items.filter fun item => !item.1).map (·.2)

theorem Extended.tableLines_lines (table : Extended names statvfs) :
    tableLines names table.lines = table.marked.map (·.2) := by
  have own (line : List UInt8 ⊕ ImageLine names statvfs) :
      readText names (decode (lineBytes line)) = (markedLine line).map (·.2) := by
    cases line with
    | inl bytes => simp [lineBytes, markedLine]
    | inr image => simp [lineBytes, markedLine, image.reads]
  rw [tableLines, lines, List.flatMap_map, marked, List.map_flatMap]
  congr 1
  funext line
  exact own line

theorem unmarked_append {α : Type} (front rest : List (Bool × α)) :
    unmarked (front ++ rest) = unmarked front ++ unmarked rest := by
  rw [unmarked, List.filter_append, List.map_append]
  rfl

theorem unmarked_map_false {α : Type} (items : List α) :
    unmarked (items.map (false, ·)) = items := by
  induction items with
  | nil => rfl
  | cons item items ih => exact congrArg (item :: ·) ih

theorem Extended.tableLines_others (table : Extended names statvfs) :
    tableLines names table.others = unmarked table.marked := by
  induction table with
  | nil => rfl
  | cons line table ih =>
    rw [marked, List.flatMap_cons, unmarked_append]
    cases line with
    | inl bytes =>
      have step : tableLines names (Extended.others (.inl bytes :: table)) =
          readText names (decode bytes) ++ tableLines names (Extended.others table) := rfl
      rw [step, ih, markedLine, unmarked_map_false]
      rfl
    | inr image => exact ih

theorem Extended.marked_full (table : Extended names statvfs) :
    ∀ item ∈ table.marked, item.1 = true →
      ∃ mount, item.2 = .ok mount ∧ isFull statvfs mount = true := by
  intro item member image
  obtain ⟨line, -, reading⟩ := List.mem_flatMap.mp member
  cases line with
  | inl bytes =>
    obtain ⟨read, -, rfl⟩ := List.mem_map.mp reading
    exact nomatch image
  | inr line =>
    obtain rfl := List.mem_singleton.mp reading
    refine ⟨line.mount, rfl, ?_⟩
    simp [isFull, line.measured, line.sized, line.full]

theorem failure_unmarked {items : List (Bool × Except PyException Reading)}
    (images : ∀ item ∈ items, item.1 = true → ∃ mount, item.2 = .ok mount) :
    failure (unmarked items) = failure (items.map (·.2)) := by
  induction items with
  | nil => rfl
  | cons item items ih =>
    have later := ih fun other member => images other (List.mem_cons_of_mem item member)
    obtain ⟨image, reading⟩ := item
    cases image with
    | true =>
      obtain ⟨mount, read⟩ := images _ List.mem_cons_self rfl
      have read : reading = .ok mount := read
      rw [read]
      exact later
    | false =>
      cases reading with
      | error error => rfl
      | ok mount => exact later

/-- Marked readings that all decode. -/
theorem exists_decoded {items : List (Bool × Except PyException Reading)}
    (clean : failure (items.map (·.2)) = none) :
    ∃ mounts : List (Bool × Reading), items = mounts.map fun mount => (mount.1, .ok mount.2) := by
  induction items with
  | nil => exact ⟨[], rfl⟩
  | cons item items ih =>
    obtain ⟨image, reading⟩ := item
    cases reading with
    | error error => exact nomatch clean
    | ok mount =>
      obtain ⟨mounts, rest⟩ := ih clean
      exact ⟨(image, mount) :: mounts, by rw [rest]; rfl⟩

/-- Images behind other mounts of their devices leave the rest as it is. -/
theorem firsts_of_unlisted {mounts : List (Bool × Reading)}
    (images : ∀ mount ∈ mounts, mount.1 = true → isFull statvfs mount.2 = true)
    (seen : List (List Char))
    (unlisted : ∀ visit ∈ firsts seen (mounts.map (·.2)), isFull statvfs visit = false) :
    firsts seen (unmarked mounts) = firsts seen (mounts.map (·.2)) := by
  induction mounts generalizing seen with
  | nil => rfl
  | cons mount mounts ih =>
    have later : ∀ other ∈ mounts, other.1 = true → isFull statvfs other.2 = true :=
      fun other member => images other (List.mem_cons_of_mem mount member)
    obtain ⟨image, visit⟩ := mount
    rw [List.map_cons] at unlisted ⊢
    by_cases old : visit.1 ∈ seen
    · rw [firsts_cons_seen old] at unlisted ⊢
      cases image with
      | true => exact ih later seen unlisted
      | false => exact (firsts_cons_seen old _).trans (ih later seen unlisted)
    · rw [firsts_cons_new old] at unlisted ⊢
      cases image with
      | true =>
        -- an image that is listed is full
        have full := images (true, visit) List.mem_cons_self rfl
        exact absurd (full.symm.trans (unlisted visit List.mem_cons_self)) (by decide)
      | false =>
        have rest := ih later (seen ++ [visit.1]) fun other member =>
          unlisted other (List.mem_cons_of_mem visit member)
        exact (firsts_cons_new old _).trans (congrArg (visit :: ·) rest)

theorem length_others_le (table : Extended names statvfs) :
    (tableBytes table.others).length ≤ (tableBytes table.lines).length := by
  induction table with
  | nil => exact le_rfl
  | cons line table ih =>
    cases line with
    | inl bytes =>
      simp only [tableBytes, Extended.others, Extended.lines, List.filterMap_cons, List.map_cons,
        List.flatMap_cons, List.length_append, Sum.getLeft?_inl] at ih ⊢
      exact Nat.add_le_add_left ih _
    | inr image =>
      simp only [tableBytes, Extended.others, Extended.lines, List.filterMap_cons, List.map_cons,
        List.flatMap_cons, List.length_append, Sum.getLeft?_inr] at ih ⊢
      omega

/-- The verdict on mounts that all decode. -/
theorem verdict_unmarked_iff {mounts : List (Bool × Reading)}
    (images : ∀ mount ∈ mounts, mount.1 = true → isFull statvfs mount.2 = true) :
    diskVerdict (checkDiskSpace
        (some ((firsts [] (mounts.map (·.2))).filterMap (listed statvfs)))) =
      diskVerdict (checkDiskSpace
        (some ((firsts [] (unmarked mounts)).filterMap (listed statvfs)))) ↔
    firstFull statvfs (mounts.map (·.2)) = firstFull statvfs (unmarked mounts) := by
  cases first : firstFull statvfs (mounts.map (·.2)) with
  | none =>
    have unlisted : ∀ visit ∈ firsts [] (mounts.map (·.2)), isFull statvfs visit = false := by
      simpa [firstFull, List.find?_eq_none] using first
    have same := firsts_of_unlisted images [] unlisted
    rw [firstFull] at first
    rw [same, firstFull, same, first]
    simp
  | some path =>
    rw [verdict_of_firstFull first]
    constructor
    · intro shown
      -- the path of the image is mounted among the others, and full there too
      have mountpoint : (diskVerdict (checkDiskSpace (some
          ((firsts [] (unmarked mounts)).filterMap (listed statvfs))))).2.2 =
          some (String.ofList path) := by rw [← shown]
      obtain ⟨visit, among, named⟩ := exists_visit_of_verdict mountpoint
      obtain ⟨image, found, imagePath⟩ := Option.map_eq_some_iff.mp first
      have full : isFull statvfs visit = true := by
        have imageFull := List.find?_some found
        rw [isFull, named, ← imagePath]
        exact imageFull
      have some : ((firsts [] (unmarked mounts)).find? (isFull statvfs)).isSome = true :=
        List.find?_isSome.mpr ⟨visit, among, full⟩
      obtain ⟨other, foundOther⟩ := Option.isSome_iff_exists.mp some
      have firstOther : firstFull statvfs (unmarked mounts) = Option.some other.2 := by
        rw [firstFull, foundOther]
        rfl
      rw [verdict_of_firstFull firstOther] at shown
      simp only [Prod.mk.injEq, Option.some.injEq, true_and] at shown
      rw [firstOther, String.ofList_injective shown]
    · intro same
      rw [verdict_of_firstFull same.symm]

/-- In a table of which every line is read, the mounts of the image lines are marked, and
full. -/
theorem Extended.exists_mounts (table : Extended names statvfs)
    (clean : failure (tableLines names table.lines) = none) :
    ∃ mounts : List (Bool × Reading), tableMounts names table.lines = mounts.map (·.2) ∧
      tableMounts names table.others = unmarked mounts ∧
      ∀ mount ∈ mounts, mount.1 = true → isFull statvfs mount.2 = true := by
  have whole := table.tableLines_lines
  have cleanMarked : failure (table.marked.map (·.2)) = none := by rw [← whole, clean]
  obtain ⟨mounts, decoded⟩ := exists_decoded cleanMarked
  refine ⟨mounts, ?_, ?_, ?_⟩
  · apply tableMounts_of_decoded
    rw [whole, decoded, List.map_map, List.map_map]
    rfl
  · apply tableMounts_of_decoded
    rw [table.tableLines_others, decoded, unmarked, unmarked, List.filter_map, List.map_map,
      List.map_map]
    rfl
  · intro mount member image
    have marked : (mount.1, .ok mount.2) ∈ table.marked := by
      rw [decoded]
      exact List.mem_map_of_mem member
    obtain ⟨own, same, full⟩ := table.marked_full _ marked image
    rw [Except.ok.inj same]
    exact full

/-- What fails to be read fails with the image lines and without them. -/
theorem Extended.failure_others (table : Extended names statvfs) :
    failure (tableLines names table.others) = failure (tableLines names table.lines) := by
  rw [table.tableLines_lines, table.tableLines_others]
  exact failure_unmarked fun item member image =>
    (table.marked_full item member image).imp fun _ full => full.1

/-- When added image lines leave the verdict as it is. -/
theorem image_mounts_unmoved_iff
    (expected : ∀ path error, statvfs path ≠ .error (.other error))
    (table : Extended names statvfs) :
    hostVerdict names statvfs (tableBytes table.lines) =
        hostVerdict names statvfs (tableBytes table.others) ↔ table.Unmoved := by
  have sameFailure := table.failure_others
  rw [Extended.Unmoved]
  by_cases fits : (tableBytes table.lines).length ≤ mountsMaxBytes
  · have fitsOthers := (length_others_le table).trans fits
    rw [if_pos fits]
    -- an error of either table is that of the other, image lines having none
    cases clean : failure (tableLines names table.lines) with
    | some error =>
      rw [clean] at sameFailure
      rw [hostVerdict_error expected fits clean, hostVerdict_error expected fitsOthers sameFailure,
        sameFailure]
      simp
    | none =>
      rw [clean] at sameFailure
      obtain ⟨mounts, allMounts, otherMounts, full⟩ := table.exists_mounts clean
      rw [hostVerdict_ok expected fits clean, hostVerdict_ok expected fitsOthers sameFailure,
        sameFailure, allMounts, otherMounts, Except.ok.injEq, verdict_unmarked_iff full]
      simp
  · -- the table with the image lines is too long to be read
    rw [if_neg fits, hostVerdict_long fits]
    by_cases fitsOthers : (tableBytes table.others).length ≤ mountsMaxBytes
    · cases clean : failure (tableLines names table.others) with
      | some error =>
        rw [hostVerdict_error expected fitsOthers clean]
        simp [fitsOthers]
      | none =>
        rw [hostVerdict_ok expected fitsOthers clean, Except.ok.injEq, eq_comm,
          diskVerdict_skipped_iff, unsized_listed_iff]
        simp [fitsOthers]
    · rw [hostVerdict_long fitsOthers]
      simp only [true_iff]
      exact .inl (not_le.mp fitsOthers)

end Table

/-! ### A table with a snap -/

/-- A half empty root, a full stick and the image of a snap. -/
def snapStatvfs (path : List Char) : Except StatvfsError Stat :=
  if path = "/".toList then .ok ⟨4096, 1000, 500⟩
  else if path = "/media/stick".toList then .ok ⟨4096, 200, 0⟩
  else if path = "/snap/core24/490".toList then .ok ⟨131072, 528, 0⟩
  else .error (.osError "no such mount")

theorem snapStatvfs_expected :
    ∀ path error, snapStatvfs path ≠ .error (.other error) := by
  intro path error raised
  simp only [snapStatvfs] at raised
  split_ifs at raised
  exact nomatch raised

def snapLine : ImageLine (fun _ => none) snapStatvfs where
  bytes := encode "/dev/loop0 /snap/core24/490 squashfs ro 0 0".toList
  oneLine := by decide
  mount := ("/dev/loop0".toList, "/snap/core24/490".toList)
  reads := by
    rw [decode_encode]
    rfl
  loop := ⟨"0".toList, by decide, by decide, by simp⟩
  stat := ⟨131072, 528, 0⟩
  measured := rfl
  sized := by decide
  full := rfl

/-- A line, and the snap mounted after it. -/
def snapTable (line : String) : Extended (fun _ => none) snapStatvfs :=
  [.inl (encode line.toList), .inr snapLine]

/-- Behind a full stick the snap changes nothing. -/
theorem snap_unmoved :
    hostVerdict (fun _ => none) snapStatvfs
        (tableBytes (snapTable "/dev/sdb1 /media/stick ext4 rw 0 0").lines) =
      hostVerdict (fun _ => none) snapStatvfs
        (tableBytes (snapTable "/dev/sdb1 /media/stick ext4 rw 0 0").others) := by
  refine (image_mounts_unmoved_iff snapStatvfs_expected _).mpr ?_
  rw [Extended.Unmoved, if_pos (by decide)]
  exact .inr (by decide)

/-- Behind a half empty root it leaves the machine without free space. -/
theorem snap_moves :
    hostVerdict (fun _ => none) snapStatvfs
        (tableBytes (snapTable "/dev/sda1 / ext4 rw 0 0").others) =
      .ok (.ok, some "50.0", some "/") ∧
    hostVerdict (fun _ => none) snapStatvfs
        (tableBytes (snapTable "/dev/sda1 / ext4 rw 0 0").lines) =
      .ok (.critical, some "0.0", some "/snap/core24/490") ∧
    hostVerdict (fun _ => none) snapStatvfs
        (tableBytes (snapTable "/dev/sda1 / ext4 rw 0 0").lines) ≠
      hostVerdict (fun _ => none) snapStatvfs
        (tableBytes (snapTable "/dev/sda1 / ext4 rw 0 0").others) := by
  rw [hostVerdict_ok snapStatvfs_expected (by decide) rfl,
    hostVerdict_ok snapStatvfs_expected (by decide) rfl]
  have without : diskVerdict (checkDiskSpace (some ((firsts [] (tableMounts (fun _ => none)
      (snapTable "/dev/sda1 / ext4 rw 0 0").others)).filterMap (listed snapStatvfs)))) =
      (.ok, some "50.0", some "/") := by
    decide +kernel
  have added : diskVerdict (checkDiskSpace (some ((firsts [] (tableMounts (fun _ => none)
      (snapTable "/dev/sda1 / ext4 rw 0 0").lines)).filterMap (listed snapStatvfs)))) =
      (.critical, some "0.0", some "/snap/core24/490") := by
    decide +kernel
  rw [without, added]
  exact ⟨rfl, rfl, by simp⟩

end Lapcare.Providers
