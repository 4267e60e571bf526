import Lapcare.Providers.DiskUsage
import Lapcare.Providers.MountEncoding

/-!
# The mount table

The table as the kernel renders it, and when `list_usage` reads it back.

## Main results

* `readings_eq` — what a line of the table, and what stands after a line boundary in its
  mountpoint, reads as
* `decodes_iff` — when every source is visited at its first mountpoint
-/

namespace Lapcare.Providers

open Lapcare.Core Semantics Semantics.Logged Text

/-- A mount of a device. `options` is what stands between the mountpoint and the two zeros
that end a line. -/
structure Mount where
  source : List Char
  mountpoint : List Char
  options : List Char
  device : devicePrefix <+: source
  solid : ∀ c ∈ source, isSpace c = false
  absolute : mountpoint.head? = some '/'
  noNul : '\x00' ∉ mountpoint
  oneLine : ∀ c ∈ options, isLineBreak c = false

namespace Mount

/-- The line of a mount, without its newline. -/
def text (m : Mount) : List Char :=
  m.source ++ ' ' :: (mangle m.mountpoint ++ ' ' :: (m.options ++ [' ', '0', ' ', '0']))

/-- What the line is to be read as. -/
def shown (m : Mount) : Reading :=
  (m.source, m.mountpoint)

/-- The lines after the first, where the mountpoint has line boundaries of its own. -/
def laterLines (m : Mount) : List (List Char) :=
  (splitLines m.text).tail

end Mount

/-- The text of `/proc/mounts`. -/
def render (mounts : List Mount) : List Char :=
  mounts.flatMap fun m => m.text ++ ['\n']

/-- Every source with the mountpoint of its first line. -/
def firstMounts (mounts : List Mount) : List Reading :=
  firsts [] (mounts.map Mount.shown)

/-! ### The lines of a table -/

namespace Mount

theorem text_ne_nil (m : Mount) : m.text ≠ [] := by
  simp [text]

end Mount

section Readings

variable (names : List UInt8 → Option Char)

theorem Mount.source_within (m : Mount) : ∀ c ∈ m.source, (!isLineBreak c) = true := by
  intro c member
  rw [isLineBreak_of_notSpace (m.solid c member)]
  rfl

theorem Mount.source_ne_nil (m : Mount) : m.source ≠ [] := by
  obtain ⟨rest, begins⟩ := m.device
  rw [← begins]
  exact List.cons_ne_nil _ _

/-- What is cut off a line at its first boundary does not reach its first white space. -/
theorem takeWhile_space_of_line (text : List Char) :
    (text.takeWhile (!isLineBreak ·)).takeWhile (!isSpace ·) = text.takeWhile (!isSpace ·) := by
  rw [List.takeWhile_takeWhile]
  congr 1
  funext c
  by_cases boundary : isLineBreak c = true
  · simp [boundary, isSpace_of_isLineBreak boundary]
  · simp [boundary]

/-- The first line of a mount has its source, and its mountpoint up to bare white space. -/
theorem deviceFields_first (m : Mount) :
    deviceFields (splitFields (m.text.takeWhile (!isLineBreak ·))) =
      some (m.source, mangle (m.mountpoint.takeWhile (!isBare ·))) := by
  have blank : (!isLineBreak ' ') = true := by decide
  have cut : m.text.takeWhile (!isLineBreak ·) = m.source ++ ' ' ::
      (mangle m.mountpoint ++ ' ' :: (m.options ++ [' ', '0', ' ', '0'])).takeWhile
        (!isLineBreak ·) := by
    rw [Mount.text, List.takeWhile_append_of_pos m.source_within,
      List.takeWhile_cons_of_pos (p := (!isLineBreak ·)) blank]
  have field := takeWhile_space_of_line
    (mangle m.mountpoint ++ ' ' :: (m.options ++ [' ', '0', ' ', '0']))
  rw [takeWhile_mangle m.mountpoint (by decide)] at field
  have filled : mangle (m.mountpoint.takeWhile (!isBare ·)) ≠ [] := by
    obtain ⟨rest, slash⟩ := List.head?_eq_some_iff.mp m.absolute
    rw [slash]
    exact List.cons_ne_nil _ _
  obtain ⟨more, fields⟩ := splitFields_eq_cons (by rw [field]; exact filled)
  have starts : devicePrefix.isPrefixOf m.source = true :=
    List.isPrefixOf_iff_prefix.mpr m.device
  rw [cut, splitFields_append_cons m.solid m.source_ne_nil (by decide), fields, field]
  exact if_pos starts

/-- What a mount's line, and what stands after a line boundary in its mountpoint, reads
as. -/
theorem readings_eq (m : Mount) :
    readText names m.text =
      .ok (m.source, latin1 (m.mountpoint.takeWhile (!isBare ·))) ::
        readLines names m.laterLines := by
  have first : readFields names (splitFields (m.text.takeWhile (!isLineBreak ·))) =
      some (.ok (m.source, latin1 (m.mountpoint.takeWhile (!isBare ·)))) := by
    rw [readFields, deviceFields_first, Option.map_some, decodeMountField, unescape_mangle]
    rfl
  rw [readText, splitLines_eq_cons m.text_ne_nil]
  exact List.filterMap_cons_some (f := fun line => readFields names (splitFields line)) first

/-! ### When the mountpoints come back -/

/-- What a table of mounts reads as. -/
def tableReadings (mounts : List Mount) : List (Except PyException Reading) :=
  mounts.flatMap fun m => readText names m.text

theorem tableReadings_cons (m : Mount) (mounts : List Mount) :
    tableReadings names (m :: mounts) =
      .ok (m.source, latin1 (m.mountpoint.takeWhile (!isBare ·))) ::
        (readLines names m.laterLines ++ tableReadings names mounts) :=
  congrArg (· ++ tableReadings names mounts) (readings_eq names m)

/-- Nothing disturbs a table whose mounts follow on lines that named the sources `seen`: a
source is new with a plain mountpoint, and what its line reads as after its first line adds
no new source, or none but those that the table names next, at their mountpoints. -/
def Undisturbed : List (List Char) → List Mount → Prop
  | _, [] => True
  | seen, m :: mounts =>
      (m.source ∉ seen → Plain m.mountpoint) ∧
        ∃ strays : List Reading, readLines names m.laterLines = strays.map .ok ∧
          firsts (seen ++ [m.source]) strays <+:
            firsts (seen ++ [m.source]) (mounts.map Mount.shown) ∧
          Undisturbed
            (seen ++ [m.source] ++ (firsts (seen ++ [m.source]) strays).map (·.1)) mounts

/-- By induction on the table: what is undisturbed reads as a list that keeps the same
first occurrences as the table itself. -/
theorem undisturbed_iff (seen : List (List Char)) (mounts : List Mount) :
    Undisturbed names seen mounts ↔
      ∃ readings : List Reading, tableReadings names mounts = readings.map .ok ∧
        firsts seen readings = firsts seen (mounts.map Mount.shown) := by
  induction mounts generalizing seen with
  | nil => simp [Undisturbed, tableReadings]
  | cons m mounts ih =>
    rw [Undisturbed, tableReadings_cons, List.map_cons]
    constructor
    · rintro ⟨plain, strays, own, ahead, rest⟩
      obtain ⟨more, others, same⟩ := (ih _).mp rest
      refine ⟨(m.source, latin1 (m.mountpoint.takeWhile (!isBare ·))) :: (strays ++ more), ?_, ?_⟩
      · rw [own, others, List.map_cons, List.map_append]
      · apply firsts_cons_eq_iff.mpr
        refine ⟨fun fresh => (latin1_takeWhile_eq_iff m.mountpoint).mpr (plain fresh), ?_⟩
        exact firsts_append_eq_iff.mpr ⟨ahead, same⟩
    · rintro ⟨readings, whole, same⟩
      -- the readings split where the line of the first mount ends
      obtain ⟨first, later, rfl, firstRead, laterRead⟩ := List.map_eq_cons_iff.mp whole.symm
      obtain ⟨strays, more, rfl, own, others⟩ := List.map_eq_append_iff.mp laterRead
      obtain rfl := Except.ok.inj firstRead
      obtain ⟨back, agree⟩ := firsts_cons_eq_iff.mp same
      obtain ⟨ahead, after⟩ := firsts_append_eq_iff.mp agree
      refine ⟨fun fresh => (latin1_takeWhile_eq_iff m.mountpoint).mp (back fresh), strays,
        own.symm, ahead, ?_⟩
      exact (ih _).mpr ⟨more, others.symm, after⟩

end Readings

/-! ### The property -/

section Property

variable (names : List UInt8 → Option Char) (statvfs : List Char → Except StatvfsError Stat)

/-- The host with a table of mounts. -/
def tableHost (mounts : List Mount) : Host where
  mounts := some (encode (render mounts))
  statvfs := statvfs
  names := names

/-- `list_usage` visits every source once, in the order of the first lines and at the
mountpoint of its first line, and lists the filesystems under these mountpoints. -/
structure Decodes (mounts : List Mount) : Prop where
  visits : (exec (tableHost names statvfs mounts).listUsage []).2 = firstMounts mounts
  usages : (exec (tableHost names statvfs mounts).listUsage []).1 =
    .ok ((firstMounts mounts).filterMap (listed statvfs))

theorem exec_tableHost {mounts : List Mount}
    (fits : (encode (render mounts)).length ≤ mountsMaxBytes) :
    exec (tableHost names statvfs mounts).listUsage [] =
      (usagesOf statvfs [] (tableReadings names mounts),
        visitsOf statvfs [] (tableReadings names mounts)) := by
  have lines : readText names (decode (encode (render mounts))) = tableReadings names mounts := by
    rw [decode_encode, render, readText_lines]
    rfl
  rw [tableHost, exec_listUsage names statvfs fits, lines]

variable {statvfs}

/-- A table of at most a mebibyte is read back exactly when nothing disturbs it. -/
theorem mount_table_decodes_iff
    (expected : ∀ path error, statvfs path ≠ .error (.other error)) {mounts : List Mount}
    (fits : (encode (render mounts)).length ≤ mountsMaxBytes) :
    Decodes names statvfs mounts ↔ Undisturbed names [] mounts := by
  have run := exec_tableHost names statvfs fits
  have at_ := expectedAt_of_forall expected
  rw [undisturbed_iff]
  constructor
  · rintro ⟨visits, usages⟩
    rw [run] at visits usages
    cases clean : failure (tableReadings names mounts) with
    | some error =>
      rw [usagesOf_failure (at_ _) clean] at usages
      exact nomatch usages
    | none =>
      obtain ⟨readings, decoded⟩ := (failure_eq_none_iff _).mp clean
      rw [decoded, visitsOf_map_ok (at_ _)] at visits
      exact ⟨readings, decoded, visits⟩
  · rintro ⟨readings, decoded, same⟩
    rw [decoded, visitsOf_map_ok (at_ _), usagesOf_map_ok (at_ _), same] at run
    exact ⟨by rw [run]; rfl, by rw [run]; rfl⟩

end Property

/-! ### Two tables -/

/-- The filesystems of the provider's own tests. -/
def fakeStatvfs (path : List Char) : Except StatvfsError Stat :=
  if path = "/".toList then .ok ⟨4096, 1000, 500⟩
  else if path = "/mnt/usb drive".toList then .ok ⟨4096, 200, 10⟩
  else .error (.osError "no such mount")

/-- A stick mounted at a path with a blank, between two mounts of the root device. -/
def usbTable : List Mount :=
  [⟨"/dev/sda1".toList, "/".toList, "ext4 rw".toList, by decide, by simp [isSpace], rfl,
      by decide, by simp [isLineBreak]⟩,
    ⟨"/dev/sdb1".toList, "/mnt/usb drive".toList, "vfat rw".toList, by decide, by simp [isSpace],
      rfl, by decide, by simp [isLineBreak]⟩,
    ⟨"/dev/sda1".toList, "/var/lib/docker".toList, "ext4 rw".toList, by decide, by simp [isSpace],
      rfl, by decide, by simp [isLineBreak]⟩]

theorem usbTable_decodes : Decodes (fun _ => none) fakeStatvfs usbTable := by
  refine (mount_table_decodes_iff (fun _ => none) ?_ ?_).mpr ?_
  · intro path error raised
    simp only [fakeStatvfs] at raised
    split_ifs at raised
    exact nomatch raised
  · decide
  · exact ⟨fun _ => by decide, [], rfl, by simp [firsts], fun _ => by decide, [], rfl,
      by simp [firsts], fun _ => by decide, [], rfl, by simp [firsts], trivial⟩

/-- A stick mounted under a name with an accent. -/
def accentTable : List Mount :=
  [⟨"/dev/sdb1".toList, "/media/é".toList, "vfat rw".toList, by decide, by simp [isSpace], rfl,
    by decide, by simp [isLineBreak]⟩]

/-- The stick is looked for at the two characters that its accented one takes as bytes. -/
theorem accentTable_not_decodes :
    (encode (render accentTable)).length ≤ mountsMaxBytes ∧
      (exec (tableHost (fun _ => none) fakeStatvfs accentTable).listUsage []).2 =
        [("/dev/sdb1".toList, "/media/Ã©".toList)] ∧
      ¬ Decodes (fun _ => none) fakeStatvfs accentTable := by
  have visited : (exec (tableHost (fun _ => none) fakeStatvfs accentTable).listUsage []).2 =
      [("/dev/sdb1".toList, "/media/Ã©".toList)] := by
    rw [exec_tableHost _ _ (by decide)]
    decide
  refine ⟨by decide, visited, fun decodes => ?_⟩
  have shown := visited.symm.trans decodes.visits
  exact absurd shown (by decide)

end Lapcare.Providers
