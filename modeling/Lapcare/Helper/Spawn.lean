import Lapcare.Helper.Runs

/-!
# What the helper runs as root

The helper spawns at most one child, and only for an entry of `/sys/block` whose node is
a block device. No path it hands to `stat` or to `smartctl` holds anything but the name
of such an entry.
-/

namespace Lapcare.Helper

open Semantics Semantics.Logged

/-- The children that were spawned. -/
def children (events : List HelperEvent) : List Child :=
  events.filterMap fun
    | .spawn child => some child
    | _ => none

/-- The paths under `/dev` that were handed to `stat` or to a child. -/
def handedPaths (events : List HelperEvent) : List String :=
  events.flatMap fun
    | .stat path => [path]
    | .spawn child => child.argv.drop 3
    | _ => []

/-- The request names an entry of `/sys/block`. -/
structure Listed (machine : Machine) (argv : List String) (device : String) : Prop where
  given : ∃ program, argv = [program, "smart-report", device]
  listed : ∃ present, machine.listdir "/sys/block" = .ok present ∧ device ∈ present

/-- What `stat` says of the node of a block device. -/
def IsBlockDevice (machine : Machine) (path : String) : Prop :=
  ∃ mode, machine.stat path = .ok mode ∧ isBlk mode = true

theorem NodeRun.children_eq {machine : Machine} {name : String}
    {outcome : Except HelperEnd String} {events : List HelperEvent}
    (run : NodeRun machine name outcome events) : children events = [] := by
  cases run <;> rfl

/-- A node that was found is the node of an entry, and a block device. -/
theorem NodeRun.found {machine : Machine} {name node : String} {events : List HelperEvent}
    (run : NodeRun machine name (.ok node) events) :
    node = deviceNodePath name ∧
      (∃ present, machine.listdir "/sys/block" = .ok present ∧ name ∈ present) ∧
      IsBlockDevice machine node := by
  cases run with
  | node listing listed found block =>
    exact ⟨rfl, ⟨_, listing, listed⟩, _, found, block⟩

theorem NodeRun.handedPaths {machine : Machine} {name : String}
    {outcome : Except HelperEnd String} {events : List HelperEvent}
    (run : NodeRun machine name outcome events) :
    ∀ path ∈ handedPaths events, path = deviceNodePath name ∧
      ∃ present, machine.listdir "/sys/block" = .ok present ∧ name ∈ present := by
  intro path handed
  cases run with
  | unreadable | unlisted => exact nomatch handed
  | noNode listing listed =>
    exact ⟨List.mem_singleton.mp handed, _, listing, listed⟩
  | notBlock listing listed =>
    exact ⟨List.mem_singleton.mp handed, _, listing, listed⟩
  | node listing listed =>
    exact ⟨List.mem_singleton.mp handed, _, listing, listed⟩

/-- A report spawns no child, or the one child for its node. -/
theorem ReportRun.children_eq {machine : Machine} {node : String}
    {outcome : Except HelperEnd Unit} {events : List HelperEvent}
    (run : ReportRun machine node outcome events) :
    children events = [] ∨ children events = [smartctlChild node] := by
  cases run with
  | toolMissing => exact .inl rfl
  | notSpawned | timedOut | toolFailed | tooLarge | notJson | notLoaded | report =>
    exact .inr rfl

theorem ReportRun.handedPaths {machine : Machine} {node : String}
    {outcome : Except HelperEnd Unit} {events : List HelperEvent}
    (run : ReportRun machine node outcome events) : ∀ path ∈ handedPaths events, path = node := by
  intro path handed
  cases run with
  | toolMissing => exact nomatch handed
  | notSpawned | timedOut | toolFailed | tooLarge | notJson | notLoaded | report =>
    exact List.mem_singleton.mp handed

theorem children_append (events more : List HelperEvent) :
    children (events ++ more) = children events ++ children more :=
  List.filterMap_append

theorem handedPaths_append (events more : List HelperEvent) :
    handedPaths (events ++ more) = handedPaths events ++ handedPaths more :=
  List.flatMap_append

/-- A run spawns nothing, or exactly the child for the block device it was asked for. -/
theorem MainRun.children {machine : Machine} {argv : List String}
    {outcome : Except HelperEnd ℕ} {events : List HelperEvent}
    (run : MainRun machine argv outcome events) :
    children events = [] ∨
      ∃ device, Listed machine argv device ∧ IsBlockDevice machine (deviceNodePath device) ∧
        children events = [smartctlChild (deviceNodePath device)] := by
  have both {program device node : String} {outcome : Except HelperEnd Unit}
      {events more : List HelperEvent} (given : argv = [program, "smart-report", device])
      (found : NodeRun machine device (.ok node) events)
      (report : ReportRun machine node outcome more) :
      Helper.children (events ++ more) = [] ∨
        ∃ device, Listed machine argv device ∧ IsBlockDevice machine (deviceNodePath device) ∧
          Helper.children (events ++ more) = [smartctlChild (deviceNodePath device)] := by
    obtain ⟨rfl, listed, block⟩ := found.found
    rw [children_append, found.children_eq, List.nil_append]
    rcases report.children_eq with nothing | one
    · exact .inl nothing
    · exact .inr ⟨device, ⟨⟨program, given⟩, listed⟩, block, one⟩
  cases run with
  | usage | unknownVerb => exact .inl rfl
  | refused given refused => exact .inl refused.children_eq
  | ended given found report => exact both given found report
  | reported given found report => exact both given found report

/-- Every path a run hands out is the node of the entry it was asked for. -/
theorem MainRun.handedPaths {machine : Machine} {argv : List String}
    {outcome : Except HelperEnd ℕ} {events : List HelperEvent}
    (run : MainRun machine argv outcome events) :
    ∀ path ∈ handedPaths events, ∃ device, Listed machine argv device ∧
      path = deviceNodePath device := by
  -- a report runs on the node that the lookup before it found
  have both {program device node : String} {outcome : Except HelperEnd Unit}
      {events more : List HelperEvent} (given : argv = [program, "smart-report", device])
      (found : NodeRun machine device (.ok node) events)
      (report : ReportRun machine node outcome more) :
      ∀ path ∈ Helper.handedPaths (events ++ more), ∃ device, Listed machine argv device ∧
        path = deviceNodePath device := by
    intro path handed
    obtain ⟨rfl, listed, -⟩ := found.found
    rw [handedPaths_append] at handed
    rcases List.mem_append.mp handed with early | late
    · exact ⟨device, ⟨⟨program, given⟩, listed⟩, (found.handedPaths path early).1⟩
    · exact ⟨device, ⟨⟨program, given⟩, listed⟩, report.handedPaths path late⟩
  intro path handed
  cases run with
  | usage | unknownVerb => exact nomatch handed
  | refused given refused =>
    obtain ⟨rfl, listed⟩ := refused.handedPaths path handed
    exact ⟨_, ⟨⟨_, given⟩, listed⟩, rfl⟩
  | ended given found report => exact both given found report path handed
  | reported given found report => exact both given found report path handed

/-- A name that a directory listing can yield. -/
def IsEntryName (name : String) : Prop :=
  name ≠ "" ∧ '/' ∉ name.toList ∧ name ≠ "." ∧ name ≠ ".."

/-- The helper runs a root child only for an enumerated block device, exactly
`smartctl --json --all` on its node; and if listings yield entry names only, no path it
hands to `stat` or to a child holds any other argument. -/
theorem helper_spawns_enumerated_only (machine : Machine) (argv : List String) :
    (children (process machine argv).events).length ≤ 1 ∧
    (∀ child ∈ children (process machine argv).events,
      ∃ program device present, argv = [program, "smart-report", device] ∧
        machine.listdir "/sys/block" = .ok present ∧ device ∈ present ∧
        IsBlockDevice machine ("/dev/" ++ device) ∧
        child.argv = ["/usr/sbin/smartctl", "--json", "--all", "/dev/" ++ device]) ∧
    ((∀ present, machine.listdir "/sys/block" = .ok present →
        ∀ name ∈ present, IsEntryName name) →
      ∀ path ∈ handedPaths (process machine argv).events,
        ∃ device, argv[2]? = some device ∧ IsEntryName device ∧ path = "/dev/" ++ device) := by
  obtain ⟨outcome, events, run, ends⟩ := process_run machine argv
  rw [ends, endProcess_events]
  refine ⟨?_, fun child spawned => ?_, fun entries path handed => ?_⟩
  · -- a run has no child, or one on a listed block device
    rcases run.children with nothing | ⟨device, -, -, one⟩
    · simp [nothing]
    · simp [one]
  · rcases run.children with nothing | ⟨device, ⟨⟨program, given⟩, present, listing, listed⟩,
      block, one⟩
    · rw [nothing] at spawned
      exact nomatch spawned
    · rw [one] at spawned
      obtain rfl := List.mem_singleton.mp spawned
      exact ⟨program, device, present, given, listing, listed, block, rfl⟩
  · obtain ⟨device, ⟨⟨program, rfl⟩, present, listing, listed⟩, rfl⟩ :=
      run.handedPaths path handed
    exact ⟨device, rfl, entries present listing device listed, rfl⟩

/-- A machine with one healthy drive. -/
def oneDrive : Machine where
  listdir _ := .ok ["sda"]
  stat _ := .ok 0o060660
  access _ := true
  spawn _ := .completed 0 "null".toUTF8.toList
  loads _ := .value

theorem oneDrive_spawns_enumerated_only :
    (children (process oneDrive ["lapcare-helper", "smart-report", "sda"]).events).length ≤ 1 ∧
    ∀ path ∈ handedPaths (process oneDrive ["lapcare-helper", "smart-report", "sda"]).events,
      ∃ device, ["lapcare-helper", "smart-report", "sda"][2]? = some device ∧
        IsEntryName device ∧ path = "/dev/" ++ device := by
  obtain ⟨single, -, named⟩ :=
    helper_spawns_enumerated_only oneDrive ["lapcare-helper", "smart-report", "sda"]
  refine ⟨single, named ?_⟩
  rintro present listing name listed
  obtain rfl := Except.ok.inj listing
  obtain rfl := List.mem_singleton.mp listed
  exact ⟨by decide, by decide, by decide, by decide⟩

end Lapcare.Helper
