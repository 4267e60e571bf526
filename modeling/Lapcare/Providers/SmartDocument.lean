import Lapcare.Providers.SmartParse

/-!
# SMART parsing is total, exact and local

Every report can be written down as a document, and is what such a document is read as. A
value of the wrong type costs the field that it stands for, and no other.

## Main results

* `parseReport_of_shows` — a document that shows a report is read as that report
* `reportOf_set` — a wrong type at a leaf clears the field of that leaf
* `parsing_total_exact_local` — the three properties together
-/

namespace Lapcare.Providers

open Lapcare.Core Json Loaded

/-! ### Documents that show a report -/

/-- What stands at a path for a value that may be missing. -/
def node {α : Type} (wrap : α → Loaded) (value : Option α) : Loaded :=
  value.elim .null wrap

@[simp] theorem int?_node (value : Option Int) : int? (node .int value) = value := by
  cases value <;> rfl

@[simp] theorem bool?_node (value : Option Bool) : bool? (node .bool value) = value := by
  cases value <;> rfl

@[simp] theorem str?_node (value : Option String) : str? (node .str value) = value := by
  cases value <;> rfl

/-- The row is about the attribute. -/
def HasId (attrId : Int) (row : Loaded) : Prop :=
  eqInt attrId (row.at_ ["id"]) = true

instance (attrId : Int) : DecidablePred (HasId attrId) := fun row =>
  inferInstanceAs (Decidable (eqInt attrId (row.at_ ["id"]) = true))

/-- The table has one row about the attribute, anywhere among rows about others, or none
for a value that is missing. -/
def ShowsAttribute (rows : List Loaded) (attrId : Int) : Option Int → Prop
  | none => ∀ row ∈ rows, ¬ HasId attrId row
  | some value => ∃ before row after, rows = before ++ row :: after ∧
      (∀ other ∈ before ++ after, ¬ HasId attrId other) ∧
      row.at_ ["id"] = .int attrId ∧ row.at_ ["raw", "value"] = .int value

/-- Every field of the report stands at its path. What else the document holds, next to
these or beneath them, is not looked at. -/
structure Shows (data : Loaded) (report : SmartReport) : Prop where
  dict : isDict data = true
  passed : data.at_ ["smart_status", "passed"] = node .bool report.passed
  temperatureC : data.at_ ["temperature", "current"] = node .int report.temperatureC
  powerOnHours : data.at_ ["power_on_time", "hours"] = node .int report.powerOnHours
  powerCycles : data.at_ ["power_cycle_count"] = node .int report.powerCycles
  percentageUsed : data.at_ ["nvme_smart_health_information_log", "percentage_used"] =
    node .int report.percentageUsed
  availableSparePct : data.at_ ["nvme_smart_health_information_log", "available_spare"] =
    node .int report.availableSparePct
  mediaErrors : data.at_ ["nvme_smart_health_information_log", "media_errors"] =
    node .int report.mediaErrors
  criticalWarning : data.at_ ["nvme_smart_health_information_log", "critical_warning"] =
    node .int report.criticalWarning
  unsafeShutdowns : data.at_ ["nvme_smart_health_information_log", "unsafe_shutdowns"] =
    node .int report.unsafeShutdowns
  reallocatedSectors : ShowsAttribute (attributeRows data) 5 report.reallocatedSectors
  pendingSectors : ShowsAttribute (attributeRows data) 197 report.pendingSectors
  model : data.at_ ["model_name"] = node .str report.model
  firmwareVersion : data.at_ ["firmware_version"] = node .str report.firmwareVersion
  serialNumber : data.at_ ["serial_number"] = node .str report.serialNumber
  messages : (messageEntries data).map (·.at_ ["string"]) = report.messages.map .str

/-- The string fields are `None` or not empty. -/
structure Filled (report : SmartReport) : Prop where
  model : report.model ≠ some ""
  firmwareVersion : report.firmwareVersion ≠ some ""
  serialNumber : report.serialNumber ≠ some ""

theorem filter_of_filled {value : Option String} (filled : value ≠ some "") :
    value.filter (· ≠ "") = value := by
  cases value with
  | none => rfl
  | some text =>
    have given : text ≠ "" := fun empty => filled (congrArg some empty)
    simp [Option.filter, given]

theorem rowValue_of_not_hasId {attrId : Int} {row : Loaded} (other : ¬ HasId attrId row) :
    rowValue attrId row = none :=
  if_neg other

theorem findSome?_of_forall_not_hasId {attrId : Int} {rows : List Loaded}
    (others : ∀ row ∈ rows, ¬ HasId attrId row) :
    rows.findSome? (rowValue attrId) = none :=
  List.findSome?_eq_none_iff.mpr fun row member => rowValue_of_not_hasId (others row member)

theorem ShowsAttribute.findSome? {rows : List Loaded} {attrId : Int} {value : Option Int}
    (shows_ : ShowsAttribute rows attrId value) : rows.findSome? (rowValue attrId) = value := by
  cases value with
  | none => exact findSome?_of_forall_not_hasId shows_
  | some value =>
    obtain ⟨before, row, after, rfl, others, id, raw⟩ := shows_
    have here : rowValue attrId row = some value := by
      have same : eqInt attrId (row.at_ ["id"]) = true := by
        rw [id]
        exact beq_self_eq_true attrId
      rw [rowValue, if_pos same, raw]
      rfl
    have skipped := findSome?_of_forall_not_hasId fun other member =>
      others other (List.mem_append_left after member)
    rw [List.findSome?_append, skipped, List.findSome?_cons, here]
    rfl

theorem filterMap_str? {entries : List Loaded} {texts : List String}
    (shows_ : entries.map (·.at_ ["string"]) = texts.map .str) :
    entries.filterMap (fun entry => str? (entry.at_ ["string"])) = texts := by
  have read : entries.filterMap (fun entry => str? (entry.at_ ["string"])) =
      (entries.map (·.at_ ["string"])).filterMap str? := by
    rw [List.filterMap_map]
    rfl
  rw [read, shows_, List.filterMap_map]
  exact List.filterMap_some

/-- A document that shows a report is read as that report. -/
theorem parseReport_of_shows {data : Loaded} {report : SmartReport} (filled : Filled report)
    (shows_ : Shows data report) : parseReport report.deviceName data = .ok report := by
  rw [parseReport_eq shows_.dict, reportOf]
  simp only [shows_.passed, shows_.temperatureC, shows_.powerOnHours, shows_.powerCycles,
    shows_.percentageUsed, shows_.availableSparePct, shows_.mediaErrors, shows_.criticalWarning,
    shows_.unsafeShutdowns, shows_.reallocatedSectors.findSome?, shows_.pendingSectors.findSome?,
    shows_.model, shows_.firmwareVersion, shows_.serialNumber, filterMap_str? shows_.messages,
    int?_node, bool?_node, str?_node, filter_of_filled filled.model,
    filter_of_filled filled.firmwareVersion, filter_of_filled filled.serialNumber]

/-! ### Every report has a document -/

/-- The members whose values are not missing. -/
def present (fields : List (String × Option Loaded)) : List (String × Loaded) :=
  fields.filterMap fun field => field.2.map (field.1, ·)

theorem lookup_present_nil (key : String) : (present []).lookup key = none := rfl

theorem lookup_present_cons (name key : String) (value : Option Loaded)
    (fields : List (String × Option Loaded)) :
    (present ((name, value) :: fields)).lookup key =
      if key = name then value.or ((present fields).lookup key)
      else (present fields).lookup key := by
  cases value with
  | none => exact (ite_self _).symm
  | some value =>
    change List.lookup key ((name, value) :: present fields) = _
    rw [List.lookup_cons]
    by_cases same : key = name
    · rw [if_pos same, same, beq_self_eq_true]
      rfl
    · rw [if_neg same, beq_eq_false_iff_ne.mpr same]

/-- A row about an attribute, if there is something to say about it. -/
def attributeRow (attrId : Int) (value : Option Int) : List Loaded :=
  value.toList.map fun value =>
    .obj [("id", .int attrId), ("raw", .obj [("value", .int value)])]

/-- The plainest document that shows a report. -/
def document (report : SmartReport) : List (String × Loaded) :=
  present
    [("smart_status", some (.obj (present [("passed", report.passed.map .bool)]))),
      ("temperature", some (.obj (present [("current", report.temperatureC.map .int)]))),
      ("power_on_time", some (.obj (present [("hours", report.powerOnHours.map .int)]))),
      ("power_cycle_count", report.powerCycles.map .int),
      ("nvme_smart_health_information_log", some (.obj (present
        [("percentage_used", report.percentageUsed.map .int),
          ("available_spare", report.availableSparePct.map .int),
          ("media_errors", report.mediaErrors.map .int),
          ("critical_warning", report.criticalWarning.map .int),
          ("unsafe_shutdowns", report.unsafeShutdowns.map .int)]))),
      ("ata_smart_attributes", some (.obj [("table", .arr
        (attributeRow 5 report.reallocatedSectors ++
          attributeRow 197 report.pendingSectors))])),
      ("model_name", report.model.map .str),
      ("firmware_version", report.firmwareVersion.map .str),
      ("serial_number", report.serialNumber.map .str),
      ("smartctl", some (.obj [("messages", .arr
        (report.messages.map fun text => .obj [("string", .str text)]))]))]

@[simp] theorem at_nil (node : Loaded) : node.at_ [] = node := rfl

theorem at_obj (members : List (String × Loaded)) (key : String) (keys : List String) :
    Tree.at_ (.obj members) (key :: keys) =
      Tree.at_ ((members.lookup key).getD .null) keys := by
  rw [Tree.at_, List.map_cons, Tree.get?, Tree.child?]
  cases members.lookup key with
  | some value => rfl
  | none => cases keys <;> rfl

theorem getD_map {α : Type} (wrap : α → Loaded) (value : Option α) :
    (value.map wrap).getD .null = node wrap value := by
  cases value <;> rfl

theorem hasId_attributeRow {attrId : Int} {value : Option Int} {row : Loaded}
    (member : row ∈ attributeRow attrId value) (other : Int) :
    HasId other row ↔ attrId = other := by
  obtain ⟨value, -, rfl⟩ := List.mem_map.mp member
  exact beq_iff_eq

theorem showsAttribute_attributeRow (before after : List Loaded) {attrId : Int}
    (earlier : ∀ row ∈ before, ¬ HasId attrId row) (later : ∀ row ∈ after, ¬ HasId attrId row)
    (value : Option Int) :
    ShowsAttribute (before ++ (attributeRow attrId value ++ after)) attrId value := by
  have others : ∀ row ∈ before ++ after, ¬ HasId attrId row := by
    intro row member
    rcases List.mem_append.mp member with front | back
    · exact earlier row front
    · exact later row back
  cases value with
  | none => exact others
  | some value => exact ⟨before, _, after, rfl, others, rfl, rfl⟩

theorem attributeRows_document (report : SmartReport) :
    attributeRows (.obj (document report)) =
      attributeRow 5 report.reallocatedSectors ++ attributeRow 197 report.pendingSectors := by
  simp [attributeRows, document, at_obj, lookup_present_cons, Tree.items]

theorem messageEntries_document (report : SmartReport) :
    messageEntries (.obj (document report)) =
      report.messages.map fun text => .obj [("string", .str text)] := by
  simp [messageEntries, document, at_obj, lookup_present_cons, Tree.items]

theorem shows_document (report : SmartReport) : Shows (.obj (document report)) report where
  dict := rfl
  passed := by simp [document, at_obj, lookup_present_cons, lookup_present_nil, getD_map]
  temperatureC := by simp [document, at_obj, lookup_present_cons, lookup_present_nil, getD_map]
  powerOnHours := by simp [document, at_obj, lookup_present_cons, lookup_present_nil, getD_map]
  powerCycles := by simp [document, at_obj, lookup_present_cons, lookup_present_nil, getD_map]
  percentageUsed := by simp [document, at_obj, lookup_present_cons, lookup_present_nil, getD_map]
  availableSparePct := by simp [document, at_obj, lookup_present_cons, lookup_present_nil, getD_map]
  mediaErrors := by simp [document, at_obj, lookup_present_cons, lookup_present_nil, getD_map]
  criticalWarning := by simp [document, at_obj, lookup_present_cons, lookup_present_nil, getD_map]
  unsafeShutdowns := by simp [document, at_obj, lookup_present_cons, lookup_present_nil, getD_map]
  -- the rows have different ids, so neither hides the other
  reallocatedSectors := by
    rw [attributeRows_document]
    exact showsAttribute_attributeRow [] _ (by simp)
      (fun row member same => absurd ((hasId_attributeRow member 5).mp same) (by decide)) _
  pendingSectors := by
    have last := showsAttribute_attributeRow (attributeRow 5 report.reallocatedSectors) []
      (fun row member same => absurd ((hasId_attributeRow member 197).mp same) (by decide))
      (by simp) report.pendingSectors
    rw [List.append_nil] at last
    rw [attributeRows_document]
    exact last
  model := by simp [document, at_obj, lookup_present_cons, lookup_present_nil, getD_map]
  firmwareVersion := by simp [document, at_obj, lookup_present_cons, lookup_present_nil, getD_map]
  serialNumber := by simp [document, at_obj, lookup_present_cons, lookup_present_nil, getD_map]
  messages := by
    rw [messageEntries_document, List.map_map]
    rfl

/-! ### A value of the wrong type -/

/-- The paths to the integers and the boolean of a report. The value of an attribute stands
in one row of the table. -/
inductive Leaf
  | passed
  | temperatureC
  | powerOnHours
  | powerCycles
  | percentageUsed
  | availableSparePct
  | mediaErrors
  | criticalWarning
  | unsafeShutdowns
  | reallocatedSectors (row : ℕ)
  | pendingSectors (row : ℕ)

namespace Leaf

def rowPath (row : ℕ) : List Step :=
  [.key "ata_smart_attributes", .key "table", .index row, .key "raw", .key "value"]

def path : Leaf → List Step
  | passed => [.key "smart_status", .key "passed"]
  | temperatureC => [.key "temperature", .key "current"]
  | powerOnHours => [.key "power_on_time", .key "hours"]
  | powerCycles => [.key "power_cycle_count"]
  | percentageUsed => [.key "nvme_smart_health_information_log", .key "percentage_used"]
  | availableSparePct => [.key "nvme_smart_health_information_log", .key "available_spare"]
  | mediaErrors => [.key "nvme_smart_health_information_log", .key "media_errors"]
  | criticalWarning => [.key "nvme_smart_health_information_log", .key "critical_warning"]
  | unsafeShutdowns => [.key "nvme_smart_health_information_log", .key "unsafe_shutdowns"]
  | reallocatedSectors row => rowPath row
  | pendingSectors row => rowPath row

/-- The attribute of a leaf in the table, and its row. -/
def attribute? : Leaf → Option (Int × ℕ)
  | reallocatedSectors row => some (5, row)
  | pendingSectors row => some (197, row)
  | _ => none

/-- The report without the field of the leaf. -/
def clear : Leaf → SmartReport → SmartReport
  | passed, report => { report with passed := none }
  | temperatureC, report => { report with temperatureC := none }
  | powerOnHours, report => { report with powerOnHours := none }
  | powerCycles, report => { report with powerCycles := none }
  | percentageUsed, report => { report with percentageUsed := none }
  | availableSparePct, report => { report with availableSparePct := none }
  | mediaErrors, report => { report with mediaErrors := none }
  | criticalWarning, report => { report with criticalWarning := none }
  | unsafeShutdowns, report => { report with unsafeShutdowns := none }
  | reallocatedSectors _, report => { report with reallocatedSectors := none }
  | pendingSectors _, report => { report with pendingSectors := none }

/-- The type that the leaf has to have. -/
def Expects : Leaf → Loaded → Prop
  | passed, value => ∃ b, value = .bool b
  | _, value => ∃ n, value = .int n

/-- The row of an attribute is about it. -/
def About (leaf : Leaf) (data : Loaded) : Prop :=
  ∀ attrId i, leaf.attribute? = some (attrId, i) →
    ∃ row, (attributeRows data)[i]? = some row ∧ HasId attrId row

end Leaf

/-- At most one row is about the attribute. -/
def Single (rows : List Loaded) (attrId : Int) : Prop :=
  ∀ (i j : ℕ) (first second : Loaded), rows[i]? = some first → rows[j]? = some second →
    HasId attrId first → HasId attrId second → i = j

/-- No two rows of the table are about one attribute. -/
def SingleRows (data : Loaded) : Prop :=
  Single (attributeRows data) 5 ∧ Single (attributeRows data) 197

theorem index_of_hasId {attrId : Int} {before after : List Loaded} {here : Loaded}
    (others : ∀ other ∈ before ++ after, ¬ HasId attrId other) {i : ℕ} {row : Loaded}
    (found : (before ++ here :: after)[i]? = some row) (about : HasId attrId row) :
    i = before.length := by
  rcases Nat.lt_trichotomy i before.length with early | same | late
  · rw [List.getElem?_append_left early] at found
    have front := List.mem_append_left after (List.mem_of_getElem? found)
    exact absurd about (others row front)
  · exact same
  · obtain ⟨k, later⟩ := Nat.exists_eq_add_of_lt late
    have shifted : i - before.length = k + 1 := by omega
    rw [List.getElem?_append_right late.le, shifted, List.getElem?_cons_succ] at found
    have back := List.mem_append_right before (List.mem_of_getElem? found)
    exact absurd about (others row back)

theorem ShowsAttribute.single {rows : List Loaded} {attrId : Int} {value : Option Int}
    (shows_ : ShowsAttribute rows attrId value) : Single rows attrId := by
  intro i j first second foundFirst foundSecond about alsoAbout
  cases value with
  | none => exact absurd about (shows_ first (List.mem_of_getElem? foundFirst))
  | some value =>
    obtain ⟨before, here, after, rfl, others, -, -⟩ := shows_
    rw [index_of_hasId others foundFirst about, index_of_hasId others foundSecond alsoAbout]

theorem Shows.singleRows {data : Loaded} {report : SmartReport} (shows_ : Shows data report) :
    SingleRows data :=
  ⟨shows_.reallocatedSectors.single, shows_.pendingSectors.single⟩

/-! ### Rows after a replacement -/

theorem hasId_set (attrId : Int) (row value : Loaded) :
    HasId attrId (row.set [.key "raw", .key "value"] value) ↔ HasId attrId row := by
  have same : (row.set [.key "raw", .key "value"] value).at_ ["id"] = row.at_ ["id"] :=
    Tree.at_set_of_diverge (by rfl) row value
  rw [HasId, same]
  rfl

/-- A row is about one attribute only. -/
theorem HasId.unique {attrId other : Int} {row : Loaded} (about : HasId attrId row)
    (alsoAbout : HasId other row) : attrId = other := by
  rw [HasId] at about alsoAbout
  cases id : row.at_ ["id"] with
  | int n =>
    rw [id] at about alsoAbout
    exact (beq_iff_eq.mp about).symm.trans (beq_iff_eq.mp alsoAbout)
  | bool b =>
    rw [id] at about alsoAbout
    exact (beq_iff_eq.mp about).symm.trans (beq_iff_eq.mp alsoAbout)
  | float q =>
    rw [id] at about alsoAbout
    cases q with
    | none => exact absurd about Bool.false_ne_true
    | some q =>
      have same := (beq_iff_eq.mp about).symm.trans (beq_iff_eq.mp alsoAbout)
      exact Rat.intCast_injective same
  | null | str _ | arr _ | obj _ =>
    rw [id] at about
    exact absurd about Bool.false_ne_true

/-- A row whose raw value is no integer has none to give. -/
theorem rowValue_set {value : Loaded} (wrong : int? value = none) (attrId : Int)
    (row : Loaded) : rowValue attrId (row.set [.key "raw", .key "value"] value) = none := by
  have gone : int? ((row.set [.key "raw", .key "value"] value).at_ ["raw", "value"]) = none := by
    rcases Tree.at_set ["raw", "value"] row value with replaced | missing
    · exact (congrArg int? replaced).trans wrong
    · exact congrArg int? missing
  rw [rowValue, gone, ite_self]

section Rows

variable {rows : List Loaded} {i : ℕ} {value : Loaded} {attrId : Int}

/-- A replacement in the only row about the attribute. -/
theorem findSome?_modify (wrong : int? value = none) (single : Single rows attrId)
    {row : Loaded} (found : rows[i]? = some row) (about : HasId attrId row) :
    (rows.modify i (·.set [.key "raw", .key "value"] value)).findSome? (rowValue attrId) =
      none := by
  rw [List.findSome?_eq_none_iff]
  intro other member
  obtain ⟨j, at_j⟩ := List.mem_iff_getElem?.mp member
  rw [List.getElem?_modify] at at_j
  obtain ⟨old, was, rfl⟩ := Option.map_eq_some_iff.mp at_j
  by_cases here : i = j
  · rw [if_pos here]
    exact rowValue_set wrong attrId old
  · rw [if_neg here]
    exact rowValue_of_not_hasId fun alsoAbout =>
      here (single i j row old found was about alsoAbout)

/-- A replacement in a row about another attribute. -/
theorem findSome?_modify_of_other (value : Loaded)
    (other : ∀ row, rows[i]? = some row → ¬ HasId attrId row) :
    (rows.modify i (·.set [.key "raw", .key "value"] value)).findSome? (rowValue attrId) =
      rows.findSome? (rowValue attrId) := by
  induction rows generalizing i with
  | nil => rw [List.modify_nil]
  | cons row rows ih =>
    cases i with
    | zero =>
      have before := rowValue_of_not_hasId (other row rfl)
      have after : rowValue attrId (row.set [.key "raw", .key "value"] value) = none :=
        rowValue_of_not_hasId ((hasId_set attrId row value).not.mpr (other row rfl))
      rw [List.modify_zero_cons, List.findSome?_cons, List.findSome?_cons, before, after]
    | succ i =>
      rw [List.modify_succ_cons, List.findSome?_cons, List.findSome?_cons, ih other]

end Rows

theorem not_hasId_of_other {rows : List Loaded} {i : ℕ} {row : Loaded} {attrId other : Int}
    (found : rows[i]? = some row) (about : HasId attrId row) (different : attrId ≠ other) :
    ∀ here, rows[i]? = some here → ¬ HasId other here := by
  intro here also alsoAbout
  obtain rfl := Option.some.inj (found.symm.trans also)
  exact different (about.unique alsoAbout)

theorem attributeRows_set (i : ℕ) (data value : Loaded) :
    attributeRows (data.set (Leaf.rowPath i) value) =
      (attributeRows data).modify i (·.set [.key "raw", .key "value"] value) :=
  Tree.items_at_set ["ata_smart_attributes", "table"] i _ data value

/-- The table is of no concern to the other sections. -/
theorem at_set_rowPath {key : String} (other : key ≠ "ata_smart_attributes")
    (keys : List String) (i : ℕ) (data value : Loaded) :
    (data.set (Leaf.rowPath i) value).at_ (key :: keys) = data.at_ (key :: keys) := by
  apply Tree.at_set_of_diverge
  simp [Leaf.rowPath, Tree.diverge, other]

theorem int?_at_set {value : Loaded} (wrong : int? value = none) {keys : List String}
    {path : List Step} (there : keys.map .key = path) (data : Loaded) :
    int? ((data.set path value).at_ keys) = none := by
  subst there
  rcases Tree.at_set keys data value with replaced | missing
  · rw [replaced, wrong]
  · exact congrArg int? missing

theorem bool?_at_set {value : Loaded} (wrong : bool? value = none) {keys : List String}
    {path : List Step} (there : keys.map .key = path) (data : Loaded) :
    bool? ((data.set path value).at_ keys) = none := by
  subst there
  rcases Tree.at_set keys data value with replaced | missing
  · rw [replaced, wrong]
  · exact congrArg bool? missing

theorem int?_of_not_expects {value : Loaded} (wrong : ¬ ∃ n, value = .int n) :
    int? value = none := by
  cases value with
  | int n => exact absurd ⟨n, rfl⟩ wrong
  | null | bool _ | float _ | str _ | arr _ | obj _ => rfl

theorem bool?_of_not_expects {value : Loaded} (wrong : ¬ ∃ b, value = .bool b) :
    bool? value = none := by
  cases value with
  | bool b => exact absurd ⟨b, rfl⟩ wrong
  | null | int _ | float _ | str _ | arr _ | obj _ => rfl

/-- A value of the wrong type at a leaf clears the field of the leaf, and no other. -/
theorem reportOf_set {data value : Loaded} {leaf : Leaf} (single : SingleRows data)
    (about : leaf.About data) (wrong : ¬ leaf.Expects value) (deviceName : String) :
    reportOf deviceName (data.set leaf.path value) = leaf.clear (reportOf deviceName data) := by
  cases leaf with
  | passed =>
    have gone := bool?_of_not_expects wrong
    simp (disch := decide) only [reportOf, attributeRows, messageEntries, Leaf.clear, Leaf.path,
      Tree.at_set_of_diverge]
    -- the other paths diverge from this one
    congr 1
    exact bool?_at_set gone (by rfl) data
  | temperatureC | powerOnHours | powerCycles | percentageUsed | availableSparePct | mediaErrors
  | criticalWarning | unsafeShutdowns =>
    have gone := int?_of_not_expects wrong
    simp (disch := decide) only [reportOf, attributeRows, messageEntries, Leaf.clear, Leaf.path,
      Tree.at_set_of_diverge]
    congr 1
    exact int?_at_set gone (by rfl) data
  | reallocatedSectors i =>
    obtain ⟨row, found, here⟩ := about 5 i rfl
    have gone := findSome?_modify (int?_of_not_expects wrong) single.1 found here
    -- the row of the one id is not that of the other
    have apart := not_hasId_of_other found here (show (5 : Int) ≠ 197 by decide)
    have kept := findSome?_modify_of_other value apart
    simp (disch := decide) only [reportOf, messageEntries, Leaf.clear, Leaf.path,
      attributeRows_set, gone, kept, at_set_rowPath]
  | pendingSectors i =>
    obtain ⟨row, found, here⟩ := about 197 i rfl
    have gone := findSome?_modify (int?_of_not_expects wrong) single.2 found here
    have apart := not_hasId_of_other found here (show (197 : Int) ≠ 5 by decide)
    have kept := findSome?_modify_of_other value apart
    simp (disch := decide) only [reportOf, messageEntries, Leaf.clear, Leaf.path,
      attributeRows_set, gone, kept, at_set_rowPath]

/-- No object makes the parser raise, every report is read back from any document that shows
it, and a value of the wrong type at a leaf costs the field of that leaf alone. -/
theorem parsing_total_exact_local :
    (∀ deviceName members, ∃ report, parseReport deviceName (.obj members) = .ok report) ∧
    (∀ report, Filled report →
      (∃ members, Shows (.obj members) report) ∧
        ∀ data, Shows data report →
          SingleRows data ∧ parseReport report.deviceName data = .ok report) ∧
    ∀ deviceName members report (leaf : Leaf) value, SingleRows (.obj members) →
      parseReport deviceName (.obj members) = .ok report → leaf.About (.obj members) →
        ¬ leaf.Expects value →
          parseReport deviceName (Tree.set (.obj members) leaf.path value) =
            .ok (leaf.clear report) := by
  refine ⟨fun deviceName members => ⟨_, parseReport_eq rfl deviceName⟩, ?_, ?_⟩
  · intro report filled
    exact ⟨⟨document report, shows_document report⟩, fun data shows_ =>
      ⟨shows_.singleRows, parseReport_of_shows filled shows_⟩⟩
  · intro deviceName members report leaf value single parsed about wrong
    have dict : isDict (Tree.set (.obj members) leaf.path value) = true := by
      cases leaf <;> rfl
    rw [parseReport_eq rfl] at parsed
    obtain rfl := Except.ok.inj parsed
    rw [parseReport_eq dict, reportOf_set single about wrong]

def wornReport : SmartReport where
  deviceName := "sda"
  powerCycles := some 608
  reallocatedSectors := some 1264
  messages := ["Warning: self-test log missing"]

/-- A truth value where the count of reallocated sectors belongs. -/
theorem parsing_survives_wrong_count :
    parseReport "sda" (.obj (document wornReport)) = .ok wornReport ∧
    parseReport "sda" (Tree.set (.obj (document wornReport)) (Leaf.path (.reallocatedSectors 0))
        (.bool true)) =
      .ok { wornReport with reallocatedSectors := none } := by
  have filled : Filled wornReport := by constructor <;> decide
  obtain ⟨single, parsed⟩ :=
    (parsing_total_exact_local.2.1 wornReport filled).2 _ (shows_document wornReport)
  refine ⟨parsed, parsing_total_exact_local.2.2 "sda" _ _ (.reallocatedSectors 0) _ single parsed
    ?_ ?_⟩
  · rintro attrId i ⟨⟩
    rw [attributeRows_document]
    exact ⟨_, rfl, beq_self_eq_true 5⟩
  · rintro ⟨n, ⟨⟩⟩

end Lapcare.Providers
