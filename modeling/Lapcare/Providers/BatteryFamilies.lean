import Lapcare.Core.BatteryAnalysis
import Lapcare.Core.Errors
import Lapcare.Providers.SystemFiles

/-!
# The unit families of a battery

A battery reports its capacities as energy, as charge, or as both, and each family consists
of two files. The provider reads the second family only if it finds nothing of the first.

## Main results

* `wear_known_iff` — the files of a battery whose wear is known
* `battery_wear_law` — what a listing of batteries promises
-/

namespace Lapcare.Providers

open Lapcare.Core Platform Text

/-- The file of a family that holds the full capacity. -/
def fullFile : CapacityUnit → String
  | .microWattHours => "energy_full"
  | .microAmpHours => "charge_full"

/-- The file of a family that holds the design capacity. -/
def designFile : CapacityUnit → String
  | .microWattHours => "energy_full_design"
  | .microAmpHours => "charge_full_design"

section Families

variable (builtins : Builtins) (root : Root)

/-- What one file of an entry reads as. -/
def entryInt (name file : String) : Option Int :=
  readInt builtins (root.content (powerSupplyDir ++ [name] ++ [file]))

/-- The type of an entry is `Battery`. -/
def IsBattery (name : String) : Prop :=
  readStr (root.content (powerSupplyDir ++ [name] ++ ["type"])) 64 = some "Battery".toList

instance (name : String) : Decidable (IsBattery root name) :=
  inferInstanceAs (Decidable (_ = _))

/-- Both files of a family are integers, and the design capacity is positive. -/
def Complete (name : String) (unit : CapacityUnit) : Prop :=
  ∃ full design, entryInt builtins root name (fullFile unit) = some full ∧
    entryInt builtins root name (designFile unit) = some design ∧ 0 < design

/-- Neither file of a family is an integer. -/
def Missing (name : String) (unit : CapacityUnit) : Prop :=
  entryInt builtins root name (fullFile unit) = none ∧
    entryInt builtins root name (designFile unit) = none

/-- The capacities of a battery are those of one family, or it has neither. -/
def OfOneFamily (battery : BatteryWear) : Prop :=
  ∃ unit, battery.capacityFull = entryInt builtins root battery.name (fullFile unit) ∧
    battery.capacityDesign = entryInt builtins root battery.name (designFile unit) ∧
    (battery.capacityUnit = some unit ∨
      battery.capacityUnit = none ∧ battery.capacityFull = none ∧ battery.capacityDesign = none)

/-! ### One battery -/

theorem missing_iff (name : String) (unit : CapacityUnit) :
    Missing builtins root name unit ↔
      ¬ (entryInt builtins root name (fullFile unit) ≠ none ∨
        entryInt builtins root name (designFile unit) ≠ none) := by
  simp [Missing]

/-- Energy is read if there is any of it. -/
theorem readCapacity_energy {name : String}
    (present : ¬ Missing builtins root name .microWattHours) :
    readCapacity builtins root (powerSupplyDir ++ [name]) =
      (entryInt builtins root name "energy_full",
        entryInt builtins root name "energy_full_design", some .microWattHours) := by
  rw [missing_iff, not_not] at present
  exact if_pos present

/-- Charge is read if there is none. -/
theorem readCapacity_charge {name : String}
    (missing : Missing builtins root name .microWattHours)
    (present : ¬ Missing builtins root name .microAmpHours) :
    readCapacity builtins root (powerSupplyDir ++ [name]) =
      (entryInt builtins root name "charge_full",
        entryInt builtins root name "charge_full_design", some .microAmpHours) := by
  rw [missing_iff] at missing present
  rw [not_not] at present
  exact (if_neg missing).trans (if_pos present)

theorem readCapacity_missing {name : String}
    (energy : Missing builtins root name .microWattHours)
    (charge : Missing builtins root name .microAmpHours) :
    readCapacity builtins root (powerSupplyDir ++ [name]) = (none, none, none) := by
  rw [missing_iff] at energy charge
  exact (if_neg energy).trans (if_neg charge)

theorem ofOneFamily_batteryWear (name : String) :
    OfOneFamily builtins root (batteryWear builtins root name) := by
  -- by the family that is read, which is energy if there is any of it
  by_cases energy : Missing builtins root name .microWattHours
  · by_cases charge : Missing builtins root name .microAmpHours
    · have capacity := readCapacity_missing builtins root energy charge
      refine ⟨.microWattHours, ?_, ?_, .inr ⟨?_, ?_, ?_⟩⟩
      · exact (congrArg (·.1) capacity).trans energy.1.symm
      · exact (congrArg (·.2.1) capacity).trans energy.2.symm
      · exact congrArg (·.2.2) capacity
      · exact congrArg (·.1) capacity
      · exact congrArg (·.2.1) capacity
    · have capacity := readCapacity_charge builtins root energy charge
      exact ⟨.microAmpHours, congrArg (·.1) capacity, congrArg (·.2.1) capacity,
        .inl (congrArg (·.2.2) capacity)⟩
  · have capacity := readCapacity_energy builtins root energy
    exact ⟨.microWattHours, congrArg (·.1) capacity, congrArg (·.2.1) capacity,
      .inl (congrArg (·.2.2) capacity)⟩

theorem wearPercent_ne_none_iff (full design : Option Int) :
    wearPercent full design ≠ none ↔
      ∃ capacityFull capacityDesign, full = some capacityFull ∧ design = some capacityDesign ∧
        0 < capacityDesign := by
  rcases full with _ | full
  · simp [wearPercent]
  rcases design with _ | design
  · simp [wearPercent]
  simp [wearPercent]

theorem not_complete_of_missing {name : String} {unit : CapacityUnit}
    (missing : Missing builtins root name unit) : ¬ Complete builtins root name unit := by
  rintro ⟨full, design, read, -, -⟩
  rw [missing.1] at read
  exact nomatch read

/-- The wear of a battery is known exactly if its energy is complete, or there is none and its
charge is. -/
theorem wear_known_iff (name : String) :
    let battery := batteryWear builtins root name
    wearPercent battery.capacityFull battery.capacityDesign ≠ none ↔
      Complete builtins root name .microWattHours ∨
        Missing builtins root name .microWattHours ∧
          Complete builtins root name .microAmpHours := by
  dsimp only
  rw [wearPercent_ne_none_iff]
  -- what is missing is not complete, so one side of the disjunction is left
  by_cases energy : Missing builtins root name .microWattHours
  · have nothing := not_complete_of_missing builtins root energy
    by_cases charge : Missing builtins root name .microAmpHours
    · have nothing' := not_complete_of_missing builtins root charge
      simp [batteryWear, readCapacity_missing builtins root energy charge, nothing, nothing']
    · simp only [batteryWear, readCapacity_charge builtins root energy charge, nothing, energy,
        true_and, false_or]
      rfl
  · simp only [batteryWear, readCapacity_energy builtins root energy, energy, false_and, or_false]
    rfl

/-! ### The listing -/

theorem readBattery_eq (name : String) :
    readBattery builtins root name =
      if IsBattery root name then some (batteryWear builtins root name) else none := rfl

/-- A battery for each entry of that type, and no other. -/
theorem listBatteries_eq :
    listBatteries builtins root =
      ((root.sortedNames powerSupplyDir).filter (IsBattery root ·)).map
        (batteryWear builtins root) := by
  have each (names : List String) : names.filterMap (readBattery builtins root) =
      (names.filter (IsBattery root ·)).map (batteryWear builtins root) := by
    induction names with
    | nil => rfl
    | cons name names ih =>
      rw [List.filterMap_cons, readBattery_eq, ih]
      by_cases battery : IsBattery root name
      · simp [battery]
      · simp [battery]
  unfold listBatteries
  split_ifs with present
  · exact each _
  -- without the directory there are no names to go through
  · have nothing : root.entries powerSupplyDir = none := by simpa [Root.isDir] using present
    simp [Root.sortedNames, nothing]

end Families

/-- `BatterySysfs.list_batteries` in any tree: nothing stops `is_dir` and `iterdir` from raising. -/
def listBatteriesIn (builtins : Builtins) (tree : Tree) : Except PyException (List BatteryWear) :=
  match tree.listing powerSupplyDir with
  | .denied => .error (.foreign "PermissionError" "Permission denied")
  | .absent | .names _ => .ok (listBatteries builtins tree.root)

/-- What a listing promises: one battery for each entry of that type, in the order of their
names. None pairs capacities of two families, and the wear of one is known whose energy is
complete, or whose charge is and that has no energy to prefer. -/
structure ListsBatteries (builtins : Builtins) (root : Root) (batteries : List BatteryWear) :
    Prop where
  names : batteries.map (·.name) = (root.sortedNames powerSupplyDir).filter (IsBattery root ·)
  ascends : (batteries.map (·.name)).Pairwise (· < ·)
  family : ∀ battery ∈ batteries, OfOneFamily builtins root battery
  worn : ∀ battery ∈ batteries,
    Complete builtins root battery.name .microWattHours ∨
        Missing builtins root battery.name .microWattHours ∧
          Complete builtins root battery.name .microAmpHours →
      wearPercent battery.capacityFull battery.capacityDesign ≠ none

theorem listsBatteries (builtins : Builtins) (root : Root) :
    ListsBatteries builtins root (listBatteries builtins root) := by
  have names : (listBatteries builtins root).map (·.name) =
      (root.sortedNames powerSupplyDir).filter (IsBattery root ·) := by
    rw [listBatteries_eq, List.map_map]
    exact List.map_id _
  have made {battery : BatteryWear} (listed : battery ∈ listBatteries builtins root) :
      ∃ name, batteryWear builtins root name = battery := by
    rw [listBatteries_eq] at listed
    obtain ⟨name, -, same⟩ := List.mem_map.mp listed
    exact ⟨name, same⟩
  refine ⟨names, ?_, fun battery listed => ?_, fun battery listed => ?_⟩
  -- the names of a directory are sorted, and passing over some keeps them so
  · rw [names]
    exact (Finset.sortedLT_sort _).pairwise.filter _
  · obtain ⟨name, rfl⟩ := made listed
    exact ofOneFamily_batteryWear builtins root name
  · obtain ⟨name, rfl⟩ := made listed
    exact (wear_known_iff builtins root name).mpr

/-- Whatever the tree, the power supplies are listed as promised, or they may not be listed and
the provider raises. -/
theorem battery_wear_law (builtins : Builtins) (tree : Tree) :
    (tree.listing powerSupplyDir ≠ .denied →
      ∃ batteries, listBatteriesIn builtins tree = .ok batteries ∧
        ListsBatteries builtins tree.root batteries) ∧
      (tree.listing powerSupplyDir = .denied →
        listBatteriesIn builtins tree =
          .error (.foreign "PermissionError" "Permission denied")) := by
  have listed := listsBatteries builtins tree.root
  rw [listBatteriesIn]
  cases tree.listing powerSupplyDir with
  | absent => exact ⟨fun _ => ⟨_, rfl, listed⟩, fun denied => nomatch denied⟩
  | names entries => exact ⟨fun _ => ⟨_, rfl, listed⟩, fun denied => nomatch denied⟩
  | denied => exact ⟨fun allowed => (allowed rfl).elim, fun _ => rfl⟩

/-! ### Both families -/

/-- A power supply with these files. -/
def supplyTree (name : String) (files : List (String × String)) : Root :=
  files.foldl
    (fun root file => root.write (powerSupplyDir ++ [name, file.1]) (encode file.2.toList))
    Root.empty

/-- A battery whose firmware leaves the design energy at zero. -/
def zeroDesign : Root :=
  supplyTree "BAT0" [("type", "Battery\n"), ("energy_full", "50000000\n"),
    ("energy_full_design", "0\n"), ("charge_full", "4000000\n"),
    ("charge_full_design", "5000000\n")]

/-- Energy is preferred where both families are present, so a complete charge does not help. -/
theorem zeroDesign_wear_unknown :
    ∃ battery ∈ listBatteries digitBuiltins zeroDesign,
      Complete digitBuiltins zeroDesign battery.name .microAmpHours ∧
        wearPercent battery.capacityFull battery.capacityDesign = none := by
  have listed : "BAT0" ∈ zeroDesign.sortedNames powerSupplyDir := by
    simp [zeroDesign, supplyTree, Platform.mem_sortedNames_write]
    decide
  have named : IsBattery zeroDesign "BAT0" := by decide +kernel
  refine ⟨batteryWear digitBuiltins zeroDesign "BAT0", ?_, ?_, by decide +kernel⟩
  · rw [listBatteries_eq]
    exact List.mem_map_of_mem (List.mem_filter.mpr ⟨listed, decide_eq_true named⟩)
  · exact ⟨4000000, 5000000, by decide +kernel, by decide +kernel, by decide⟩

end Lapcare.Providers
