import Lapcare.Core.Degradation
import Lapcare.Providers.DiskUsage
import Mathlib.Data.List.Perm.Subperm

/-!
# Mount tables that go wrong

A line whose mountpoint does not decode raises a foreign exception out of `list_usage`, and
out of the diagnostics run that asks for it. A mountpoint whose `statvfs` fails is skipped,
and with it every later mountpoint of the same source.

## Main results

* `listUsage_oneEach_iff` — when every source that can be measured has its entry
* `malformedTable_iff` — when neither `list_usage` nor a run raises
-/

namespace Lapcare.Providers

open Lapcare.Core Semantics Semantics.Logged Text

/-! ### One entry for each device -/

section Devices

variable (names : List UInt8 → Option Char) (statvfs : List Char → Except StatvfsError Stat)

def Succeeds (path : List Char) : Prop :=
  ∃ stat, statvfs path = .ok stat

theorem isSome_listed_iff (visit : Visit) :
    (listed statvfs visit).isSome = true ↔ Succeeds statvfs visit.2 := by
  rw [listed, Succeeds]
  cases statvfs visit.2 <;> simp

/-- Exactly one entry for each source that has a mountpoint whose `statvfs` succeeds, made
at one such mountpoint, and none for any other source. -/
def OneEach (readings : List Reading) (usages : List DiskUsage) : Prop :=
  ∃ chosen : List Visit, chosen.map (listed statvfs) = usages.map some ∧
    (chosen.map (·.1)).Nodup ∧
    (∀ visit ∈ chosen, visit ∈ readings ∧ Succeeds statvfs visit.2) ∧
    ∀ visit ∈ readings, Succeeds statvfs visit.2 → visit.1 ∈ chosen.map (·.1)

/-- The `statvfs` of the first mountpoint that a source is listed with succeeds. -/
def FirstSucceeds (readings : List Reading) (source : List Char) : Prop :=
  ∃ path, readings.find? (·.1 = source) = some (source, path) ∧ Succeeds statvfs path

/-- The first mountpoints whose `statvfs` succeeds. -/
def measuredFirsts (readings : List Reading) : List Visit :=
  (firsts [] readings).filter fun visit => (listed statvfs visit).isSome

variable {statvfs} {readings : List Reading}

theorem mem_measuredFirsts_iff {visit : Visit} :
    visit ∈ measuredFirsts statvfs readings ↔
      readings.find? (·.1 = visit.1) = some visit ∧ Succeeds statvfs visit.2 := by
  rw [measuredFirsts, List.mem_filter, mem_firsts_iff, isSome_listed_iff]
  simp

theorem measuredFirsts_listed :
    (measuredFirsts statvfs readings).map (listed statvfs) =
      ((firsts [] readings).filterMap (listed statvfs)).map some := by
  rw [measuredFirsts]
  induction firsts [] readings with
  | nil => rfl
  | cons visit rest ih =>
    cases entry : listed statvfs visit with
    | none =>
      rw [List.filter_cons_of_neg (by simp [entry]), List.filterMap_cons_none entry, ih]
    | some usage =>
      rw [List.filter_cons_of_pos (by simp [entry]), List.filterMap_cons_some entry,
        List.map_cons, List.map_cons, entry, ih]

theorem measuredFirsts_sources_nodup : ((measuredFirsts statvfs readings).map (·.1)).Nodup :=
  (firsts_keys_nodup [] readings).sublist (List.filter_sublist.map _)

/-- The loop lists every source that can be measured exactly if it can be measured at its
first mountpoint: the entries are as many as the sources with such a first mountpoint. -/
theorem oneEach_firsts_iff :
    OneEach statvfs readings ((firsts [] readings).filterMap (listed statvfs)) ↔
      ∀ visit ∈ readings, Succeeds statvfs visit.2 → FirstSucceeds statvfs readings visit.1 := by
  constructor
  · rintro ⟨chosen, entries, once, own, complete⟩ visit member succeeds
    rw [← measuredFirsts_listed] at entries
    -- the loop lists at most the sources that have to be listed, so it lists them all
    have within : (measuredFirsts statvfs readings).map (·.1) ⊆ chosen.map (·.1) := by
      intro source known
      obtain ⟨first, kept, rfl⟩ := List.mem_map.1 known
      obtain ⟨found, measured⟩ := mem_measuredFirsts_iff.1 kept
      exact complete first (List.mem_of_find?_eq_some found) measured
    have few :
        (chosen.map (·.1)).length ≤ ((measuredFirsts statvfs readings).map (·.1)).length := by
      have lengths := congrArg List.length entries
      simp only [List.length_map] at lengths ⊢
      exact lengths.le
    have same := (List.subperm_of_subset measuredFirsts_sources_nodup within).perm_of_length_le few
    obtain ⟨first, kept, source⟩ := List.mem_map.1 (same.mem_iff.2 (complete visit member succeeds))
    obtain ⟨found, measured⟩ := mem_measuredFirsts_iff.1 kept
    refine ⟨first.2, ?_, measured⟩
    rw [← source]
    exact found
  · intro firstSucceeds
    -- the entries of the loop themselves are the choice
    refine ⟨measuredFirsts statvfs readings, measuredFirsts_listed, measuredFirsts_sources_nodup,
      ?_, ?_⟩
    · intro visit kept
      obtain ⟨found, measured⟩ := mem_measuredFirsts_iff.1 kept
      exact ⟨List.mem_of_find?_eq_some found, measured⟩
    · intro visit member succeeds
      obtain ⟨path, found, measured⟩ := firstSucceeds visit member succeeds
      exact List.mem_map.2 ⟨(visit.1, path), mem_measuredFirsts_iff.2 ⟨found, measured⟩, rfl⟩

/-- A table that is not read lists nothing, so nothing in it may be measurable. -/
theorem oneEach_nil_iff :
    OneEach statvfs readings [] ↔ ∀ visit ∈ readings, ¬ Succeeds statvfs visit.2 := by
  constructor
  · rintro ⟨chosen, entries, -, -, complete⟩ visit member succeeds
    have none_ : chosen = [] := List.map_eq_nil_iff.1 entries
    have listed := complete visit member succeeds
    rw [none_] at listed
    cases listed
  · intro stale
    exact ⟨[], rfl, List.nodup_nil, List.forall_mem_nil _, fun visit member succeeds =>
      absurd succeeds (stale visit member)⟩

/-- Where all mountpoints decode, a run lists exactly one entry for each source that can be
measured, if and only if the table is no longer than what is read of it and each of these
sources can be measured at its first mountpoint. -/
theorem listUsage_oneEach_iff (expected : ∀ path error, statvfs path ≠ .error (.other error))
    {data : List UInt8} (decoded : readText names (decode data) = readings.map .ok) :
    (∃ usages, (exec (Host.listUsage ⟨some data, statvfs, names⟩) []).1 = .ok usages ∧
        OneEach statvfs readings usages) ↔
      ∀ visit ∈ readings, Succeeds statvfs visit.2 →
        data.length ≤ mountsMaxBytes ∧ FirstSucceeds statvfs readings visit.1 := by
  by_cases fits : data.length ≤ mountsMaxBytes
  · rw [exec_listUsage names statvfs fits, decoded,
      usagesOf_map_ok (expectedAt_of_forall expected _)]
    simp only [Except.ok.injEq, exists_eq_left', fits, true_and]
    exact oneEach_firsts_iff
  · rw [exec_listUsage_long names statvfs fits]
    simp only [Except.ok.injEq, exists_eq_left', fits, false_and]
    exact oneEach_nil_iff

end Devices

/-- A filesystem that can be measured under one of its two mountpoints. -/
def staleStatvfs (path : List Char) : Except StatvfsError Stat :=
  if path = "/home".toList then .ok ⟨4096, 1000, 500⟩ else .error (.osError "stale")

theorem staleStatvfs_expected (path : List Char) (error : PyException) :
    staleStatvfs path ≠ .error (.other error) := by
  unfold staleStatvfs
  split_ifs <;> simp

/-- One device, first at a stale mountpoint. -/
def staleFirst : List Char :=
  "/dev/sda2 /mnt/old ext4 rw 0 0\n/dev/sda2 /home ext4 rw 0 0\n".toList

def homeFirst : List Char :=
  "/dev/sda2 /home ext4 rw 0 0\n/dev/sda2 /mnt/old ext4 rw 0 0\n".toList

def staleReading : Reading := ("/dev/sda2".toList, "/mnt/old".toList)

def homeReading : Reading := ("/dev/sda2".toList, "/home".toList)

theorem listUsage_oneEach_homeFirst :
    ∃ usages, (exec (Host.listUsage ⟨some (encode homeFirst), staleStatvfs, fun _ => none⟩) []).1 =
        .ok usages ∧
      OneEach staleStatvfs [homeReading, staleReading] usages := by
  refine (listUsage_oneEach_iff (fun _ => none) staleStatvfs_expected ?_).2 ?_
  · rw [decode_encode]
    rfl
  · intro visit member succeeds
    refine ⟨by decide, ?_⟩
    rcases List.mem_pair.1 member with rfl | rfl
    · exact ⟨"/home".toList, rfl, succeeds⟩
    · exact ⟨"/home".toList, rfl, ⟨_, rfl⟩⟩

/-- The device is lost although it can be measured. -/
theorem staleFirst_lost :
    readText (fun _ => none) (decode (encode staleFirst)) = [staleReading, homeReading].map .ok ∧
      (exec (Host.listUsage ⟨some (encode staleFirst), staleStatvfs, fun _ => none⟩) []).1 =
        .ok [] ∧
      ¬ OneEach staleStatvfs [staleReading, homeReading] [] := by
  have read : readText (fun _ => none) (decode (encode staleFirst)) =
      [staleReading, homeReading].map .ok := by
    rw [decode_encode]
    rfl
  refine ⟨read, ?_, fun complete => ?_⟩
  · rw [exec_listUsage _ _ (by decide), read]
    rfl
  · exact oneEach_nil_iff.1 complete homeReading (by simp) ⟨_, rfl⟩

/-! ### Lines that do not decode -/

section Malformed

variable (names : List UInt8 → Option Char)

/-- What is read of a table has only mountpoints that `unicode_escape` decodes. -/
def Decodable (data : List UInt8) : Prop :=
  data.length ≤ mountsMaxBytes →
    ∀ line ∈ splitLines (decode data), ∀ source field,
      deviceFields (splitFields line) = some (source, field) →
        ∃ path, decodeMountField names field = .ok path

theorem failure_readLines_eq_none_iff (lines : List (List Char)) :
    failure (readLines names lines) = none ↔
      ∀ line ∈ lines, ∀ source field, deviceFields (splitFields line) = some (source, field) →
        ∃ path, decodeMountField names field = .ok path := by
  rw [failure, List.findSome?_eq_none_iff]
  constructor
  · intro clean line member source field device
    -- a device line that does not decode is a reading that fails
    have read : (source, ·) <$> decodeMountField names field ∈ readLines names lines :=
      List.mem_filterMap.2 ⟨line, member, by rw [readFields, device]; rfl⟩
    cases decoded : decodeMountField names field with
    | ok path => exact ⟨path, rfl⟩
    | error error =>
      rw [decoded] at read
      cases clean _ read
  · intro decodes reading member
    obtain ⟨line, within, read⟩ := List.mem_filterMap.1 member
    obtain ⟨⟨source, field⟩, device, rfl⟩ := Option.map_eq_some_iff.1 read
    obtain ⟨path, decoded⟩ := decodes line within source field device
    simp only [decoded]
    rfl

theorem decodeMountField_error {field : List Char} {error : PyException}
    (raised : decodeMountField names field = .error error) :
    ∃ detail, error = .foreign "UnicodeDecodeError" detail := by
  unfold decodeMountField at raised
  cases decoded : UnicodeEscape.unescape names (encode field) with
  | ok path =>
    rw [decoded] at raised
    cases raised
  | error detail =>
    rw [decoded] at raised
    exact ⟨detail, (Except.error.inj raised).symm⟩

theorem failure_foreign {lines : List (List Char)} {error : PyException}
    (raised : failure (readLines names lines) = some error) :
    ∃ detail, error = .foreign "UnicodeDecodeError" detail := by
  obtain ⟨reading, member, failed⟩ := List.exists_of_findSome?_eq_some raised
  obtain ⟨line, -, read⟩ := List.mem_filterMap.1 member
  obtain ⟨⟨source, field⟩, -, rfl⟩ := Option.map_eq_some_iff.1 read
  cases decoded : decodeMountField names field with
  | ok path =>
    simp only [decoded] at failed
    cases failed
  | error first =>
    simp only [decoded] at failed
    obtain rfl := Option.some.inj failed
    exact decodeMountField_error names decoded

variable {statvfs : List Char → Except StatvfsError Stat} {data : List UInt8}
  (expected : ExpectedAt statvfs (readText names (decode data)))

include expected

theorem listUsage_decodable (decodable : Decodable names data) :
    ∃ usages, (exec (Host.listUsage ⟨some data, statvfs, names⟩) []).1 = .ok usages := by
  by_cases fits : data.length ≤ mountsMaxBytes
  · have clean := (failure_readLines_eq_none_iff names _).2 (decodable fits)
    obtain ⟨readings, decoded⟩ := (failure_eq_none_iff _).1 clean
    have read : readText names (decode data) = readings.map .ok := decoded
    rw [read] at expected
    rw [exec_listUsage names statvfs fits, read, usagesOf_map_ok expected]
    exact ⟨_, rfl⟩
  · rw [exec_listUsage_long names statvfs fits]
    exact ⟨_, rfl⟩

theorem listUsage_malformed (malformed : ¬ Decodable names data) :
    ∃ detail, (exec (Host.listUsage ⟨some data, statvfs, names⟩) []).1 =
      .error (.foreign "UnicodeDecodeError" detail) := by
  obtain ⟨fits, undecoded⟩ := Classical.not_imp.1 malformed
  rw [← failure_readLines_eq_none_iff] at undecoded
  obtain ⟨error, raised⟩ := Option.ne_none_iff_exists'.1 undecoded
  obtain ⟨detail, rfl⟩ := failure_foreign names raised
  rw [exec_listUsage names statvfs fits]
  exact ⟨detail, usagesOf_failure expected raised []⟩

end Malformed

/-- The port that a run asks. The files do not change between two calls. -/
def Host.provider (host : Host) : DiskUsageProvider where
  usage _ := (exec host.listUsage []).1

/-- `except LapcareError` of the disk block. -/
theorem alone_gatherUsages (provider : DiskUsageProvider) :
    alone (gatherUsages (some provider)) =
      match provider.usage [] with
      | .ok usages => .ok (some usages)
      | .error (.lapcare _) => .ok none
      | .error (.foreign className detail) => .error (.foreign className detail) := by
  rw [alone, gatherUsages, orElse, exec_tryCatch, exec_map, DiskUsageProvider.listUsage, ask,
    exec_perform, List.filter_nil]
  rcases provider.usage [] with (error | ⟨className, detail⟩) | usages <;> rfl

section Runs

variable (names : List UInt8 → Option Char) {statvfs : List Char → Except StatvfsError Stat}
  (expected : ∀ path error, statvfs path ≠ .error (.other error)) (data : List UInt8)
  (others : Sources) (includeStorageHealth : Bool)

/-- A run that asks for the filesystems of a table. -/
def tableRun (statvfs : List Char → Except StatvfsError Stat) :
    Except PyException DiagnosticsReport :=
  runOutcome { others with disk := some (Host.provider ⟨some data, statvfs, names⟩) }
    includeStorageHealth

include expected

theorem tableRun_decodable (keep : others.KeepConvention) (decodable : Decodable names data) :
    ∃ report, tableRun names data others includeStorageHealth statvfs = .ok report := by
  obtain ⟨usages, listed⟩ :=
    listUsage_decodable names (expectedAt_of_forall expected _) decodable
  have keeps : Sources.KeepConvention
      { others with disk := some (Host.provider ⟨some data, statvfs, names⟩) } := by
    refine { keep with disk := ?_ }
    rintro provider ⟨⟩ calls
    change OnlyLapcare (exec (Host.listUsage ⟨some data, statvfs, names⟩) []).1
    rw [listed]
    exact onlyLapcare_ok usages
  obtain ⟨inputs, done⟩ := inputsAlone_returns keeps includeStorageHealth
  rw [tableRun, runOutcome_eq, done]
  exact ⟨_, rfl⟩

theorem tableRun_malformed (malformed : ¬ Decodable names data) :
    ¬ ∃ report, tableRun names data others includeStorageHealth statvfs = .ok report := by
  rintro ⟨report, reported⟩
  obtain ⟨detail, raised⟩ :=
    listUsage_malformed names (expectedAt_of_forall expected _) malformed
  obtain ⟨inputs, done, -⟩ := runOutcome_eq_ok_iff.1 reported
  have gathered := (inputsAlone_eq_ok_iff.1 done).2.2.2.2
  -- the block of the filesystems lets the foreign exception through
  rw [alone_gatherUsages, Host.provider, raised] at gathered
  cases gathered

end Runs

/-- No exception but a `LapcareError` escapes from the table exactly if what is read of it
decodes. With providers that keep to the convention for everything else, it is then too
that a run returns. -/
theorem malformedTable_iff (names : List UInt8 → Option Char)
    {statvfs : List Char → Except StatvfsError Stat}
    (expected : ∀ path error, statvfs path ≠ .error (.other error)) (data : List UInt8) :
    (OnlyLapcare (exec (Host.listUsage ⟨some data, statvfs, names⟩) []).1 ↔
        Decodable names data) ∧
      ∀ (others : Sources) (includeStorageHealth : Bool), others.KeepConvention →
        ((∃ report, tableRun names data others includeStorageHealth statvfs = .ok report) ↔
          Decodable names data) := by
  by_cases decodable : Decodable names data
  · -- every field decodes: the table is read, and the run returns
    obtain ⟨usages, listed⟩ :=
      listUsage_decodable names (expectedAt_of_forall expected _) decodable
    constructor
    · apply iff_of_true _ decodable
      rw [listed]
      exact onlyLapcare_ok usages
    · intro others includeStorageHealth keep
      apply iff_of_true _ decodable
      exact tableRun_decodable names expected data others includeStorageHealth keep decodable
  · -- one does not: its error is foreign, and nothing on the way catches it
    obtain ⟨detail, raised⟩ :=
      listUsage_malformed names (expectedAt_of_forall expected _) decodable
    constructor
    · apply iff_of_false _ decodable
      rw [raised]
      intro only
      exact only _ rfl
    · intro others includeStorageHealth _
      apply iff_of_false _ decodable
      exact tableRun_malformed names expected data others includeStorageHealth decodable

/-- A stick whose name has a blank, beside a filesystem that can be measured. -/
def stickBesideHome : List Char :=
  "/dev/sda2 /home ext4 rw 0 0\n/dev/sdb1 /media/USB\\040Stick vfat rw 0 0\n".toList

theorem malformedTable_stickBesideHome :
    OnlyLapcare
        (exec (Host.listUsage ⟨some (encode stickBesideHome), staleStatvfs, fun _ => none⟩) []).1 ∧
      ∃ report, tableRun (fun _ => none) (encode stickBesideHome) {} false staleStatvfs =
        .ok report := by
  have decodable : Decodable (fun _ => none) (encode stickBesideHome) := by
    intro _
    rw [decode_encode]
    exact (failure_readLines_eq_none_iff _ _).1 rfl
  obtain ⟨only, runs⟩ :=
    malformedTable_iff (fun _ => none) staleStatvfs_expected (encode stickBesideHome)
  exact ⟨only.2 decodable, (runs {} false Sources.keepConvention_absent).2 decodable⟩

/-- A mountpoint that ends in a bare backslash. -/
def bareBackslash : List Char :=
  "/dev/sda2 /mnt/old\\ ext4 rw 0 0\n".toList

theorem bareBackslash_raises :
    (exec (Host.listUsage ⟨some (encode bareBackslash), staleStatvfs, fun _ => none⟩) []).1 =
        .error (.foreign "UnicodeDecodeError" "\\ at end of string") ∧
      ¬ OnlyLapcare (exec
        (Host.listUsage ⟨some (encode bareBackslash), staleStatvfs, fun _ => none⟩) []).1 ∧
      ¬ ∃ report, tableRun (fun _ => none) (encode bareBackslash) {} false staleStatvfs =
        .ok report := by
  have raised :
      (exec (Host.listUsage ⟨some (encode bareBackslash), staleStatvfs, fun _ => none⟩) []).1 =
        .error (.foreign "UnicodeDecodeError" "\\ at end of string") := by
    rw [exec_listUsage _ _ (by decide), decode_encode]
    rfl
  have foreign : ¬ OnlyLapcare
      (exec (Host.listUsage ⟨some (encode bareBackslash), staleStatvfs, fun _ => none⟩) []).1 := by
    intro only
    exact only _ raised
  refine ⟨raised, foreign, tableRun_malformed _ staleStatvfs_expected _ {} false ?_⟩
  intro decodable
  obtain ⟨usages, listed⟩ :=
    listUsage_decodable _ (expectedAt_of_forall staleStatvfs_expected _) decodable
  rw [listed] at raised
  cases raised

end Lapcare.Providers
