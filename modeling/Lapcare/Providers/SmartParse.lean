import Lapcare.Core.Errors
import Lapcare.Json.Path

/-!
# What `smartctl --json` reports

The only place where the format is known: `_parse_report` of `providers/storage_smart.py`
and its field readers. A reader asks a value for its type before it uses it as one; `get`
on anything but a `dict` would be an `AttributeError`.

## Main results

* `parseReport_eq` — no reader ever raises, and a report is what stands at its paths
-/

namespace Lapcare.Providers

open Lapcare.Core Json

/-- What `json.loads` returns. A float is the rational number it denotes; the infinities
and NaN denote none. -/
abbrev Loaded := Json.Tree (Option ℚ)

namespace Loaded

/-- `type(node).__name__`. -/
def typeName : Loaded → String
  | .null => "NoneType"
  | .bool _ => "bool"
  | .int _ => "int"
  | .float _ => "float"
  | .str _ => "str"
  | .arr _ => "list"
  | .obj _ => "dict"

/-- `isinstance(node, dict)`. -/
def isDict : Loaded → Bool
  | .obj _ => true
  | _ => false

/-- `node.get(key, fallback)`. -/
def getD : Loaded → String → Loaded → Except PyException Loaded
  | .obj members, key, fallback => .ok ((members.lookup key).getD fallback)
  | node, _, _ =>
      let typeName := typeName node
      .error (.foreign "AttributeError" s!"'{typeName}' object has no attribute 'get'")

/-- `node.get(key)`. -/
def get (node : Loaded) (key : String) : Except PyException Loaded :=
  getD node key .null

/-- `node.get(key) if isinstance(node, dict) else None`. -/
def getIfDict (node : Loaded) (key : String) : Except PyException Loaded :=
  if isDict node then get node key else .ok .null

/-- `node if isinstance(node, int) and not isinstance(node, bool) else None`. -/
def int? : Loaded → Option Int
  | .int n => some n
  | _ => none

/-- `node if isinstance(node, bool) else None`. -/
def bool? : Loaded → Option Bool
  | .bool b => some b
  | _ => none

/-- `node if isinstance(node, str) else None`. -/
def str? : Loaded → Option String
  | .str text => some text
  | _ => none

/-- `node == n`. A `bool` is a number to Python, and a float may be a whole one. -/
def eqInt (n : Int) : Loaded → Bool
  | .int m => m == n
  | .bool b => (if b then 1 else 0) == n
  | .float (some q) => q == n
  | _ => false

end Loaded

open Loaded

/-- `_get_int`. -/
def getInt : Loaded → List String → Except PyException (Option Int)
  | node, [] => .ok (int? node)
  | node, key :: path =>
      if isDict node then do getInt (← get node key) path
      else .ok none

/-- `_get_str`. -/
def getStr (data : Loaded) (key : String) : Except PyException (Option String) := do
  let value ← get data key
  return (str? value).filter (· ≠ "")

/-- The body of the loop of `_ata_raw_value`: the value that it returns at this row. -/
def rowRawValue (attrId : Int) (row : Loaded) : Except PyException (Option Int) := do
  if isDict row then
    if eqInt attrId (← get row "id") then
      let raw ← get row "raw"
      if isDict raw then return int? (← get raw "value")
      else return none
    else return none
  else return none

/-- `_ata_raw_value`: the first row with the id and an integer for its raw value. -/
def ataRawValue (data : Loaded) (attrId : Int) : Except PyException (Option Int) := do
  let table ← getD data "ata_smart_attributes" (.obj [])
  let rows ← getIfDict table "table"
  rows.items.findSomeM? (rowRawValue attrId)

/-- The body of the loop of `_messages`. -/
def entryMessage (entry : Loaded) : Except PyException (Option String) := do
  if isDict entry then return str? (← get entry "string")
  else return none

/-- `_messages`. -/
def messages (data : Loaded) : Except PyException (List String) := do
  let smartctl ← get data "smartctl"
  let entries ← getIfDict smartctl "messages"
  return (← entries.items.mapM entryMessage).filterMap id

/-- `_parse_report`. -/
def parseReport (deviceName : String) (data : Loaded) : Except PyException SmartReport := do
  let status ← get data "smart_status"
  let passed ← getIfDict status "passed"
  return {
    deviceName
    passed := bool? passed
    temperatureC := ← getInt data ["temperature", "current"]
    powerOnHours := ← getInt data ["power_on_time", "hours"]
    powerCycles := ← getInt data ["power_cycle_count"]
    percentageUsed := ← getInt data ["nvme_smart_health_information_log", "percentage_used"]
    availableSparePct := ← getInt data ["nvme_smart_health_information_log", "available_spare"]
    mediaErrors := ← getInt data ["nvme_smart_health_information_log", "media_errors"]
    criticalWarning := ← getInt data ["nvme_smart_health_information_log", "critical_warning"]
    unsafeShutdowns := ← getInt data ["nvme_smart_health_information_log", "unsafe_shutdowns"]
    reallocatedSectors := ← ataRawValue data 5
    pendingSectors := ← ataRawValue data 197
    model := ← getStr data "model_name"
    firmwareVersion := ← getStr data "firmware_version"
    serialNumber := ← getStr data "serial_number"
    messages := ← messages data }

/-! ### Reading without raising -/

theorem getD_of_isDict {node : Loaded} (dict : isDict node = true) (key : String)
    (fallback : Loaded) :
    getD node key fallback = .ok ((node.get? [.key key]).getD fallback) := by
  cases node with
  | obj members =>
    rw [getD, Tree.get?, Tree.child?]
    cases members.lookup key <;> rfl
  | null | bool _ | int _ | float _ | str _ | arr _ => exact absurd dict Bool.false_ne_true

theorem get_of_isDict {node : Loaded} (dict : isDict node = true) (key : String) :
    get node key = .ok (node.at_ [key]) :=
  getD_of_isDict dict key .null

/-- Nothing but a `dict` has members. -/
theorem at_of_not_isDict {node : Loaded} (other : ¬ isDict node = true) (key : String)
    (keys : List String) : node.at_ (key :: keys) = .null := by
  cases node with
  | obj members => exact absurd rfl other
  | null | bool _ | int _ | float _ | str _ | arr _ => rfl

theorem at_at (node : Loaded) (keys more : List String) :
    (node.at_ keys).at_ more = node.at_ (keys ++ more) := by
  rw [Tree.at_, Tree.at_, Tree.at_, List.map_append, Tree.get?_append]
  cases node.get? (keys.map .key) with
  | some child => rfl
  | none =>
    -- nothing stands below a missing value
    cases more <;> rfl

/-- Reading a member of what may not be a `dict`. -/
theorem getIfDict_eq (node : Loaded) (key : String) :
    getIfDict node key = .ok (node.at_ [key]) := by
  rw [getIfDict]
  by_cases dict : isDict node = true
  · rw [if_pos dict, get_of_isDict dict]
  · rw [if_neg dict, at_of_not_isDict dict]

theorem getInt_eq (node : Loaded) (path : List String) :
    getInt node path = .ok (int? (node.at_ path)) := by
  induction path generalizing node with
  | nil => rfl
  | cons key path ih =>
    rw [getInt]
    by_cases dict : isDict node = true
    · rw [if_pos dict, get_of_isDict dict]
      change getInt (node.at_ [key]) path = _
      rw [ih, at_at]
      rfl
    · rw [if_neg dict, at_of_not_isDict dict]
      rfl

theorem getStr_eq {data : Loaded} (dict : isDict data = true) (key : String) :
    getStr data key = .ok ((str? (data.at_ [key])).filter (· ≠ "")) := by
  rw [getStr, get_of_isDict dict]
  rfl

/-- The raw value of a row with the id. -/
def rowValue (attrId : Int) (row : Loaded) : Option Int :=
  if eqInt attrId (row.at_ ["id"]) then int? (row.at_ ["raw", "value"]) else none

theorem rowRawValue_eq (attrId : Int) (row : Loaded) :
    rowRawValue attrId row = .ok (rowValue attrId row) := by
  rw [rowRawValue, rowValue]
  by_cases dict : isDict row = true
  · rw [if_pos dict, get_of_isDict dict]
    change (if eqInt attrId (row.at_ ["id"]) then _ else _) = _
    by_cases same : eqInt attrId (row.at_ ["id"]) = true
    · rw [if_pos same, if_pos same, get_of_isDict dict]
      change (if isDict (row.at_ ["raw"]) then _ else _) = _
      have deeper := at_at row ["raw"] ["value"]
      by_cases rawDict : isDict (row.at_ ["raw"]) = true
      · rw [if_pos rawDict, get_of_isDict rawDict, deeper]
        rfl
      · rw [if_neg rawDict, ← List.singleton_append, ← deeper, at_of_not_isDict rawDict]
        rfl
    · rw [if_neg same, if_neg same]
      rfl
  · rw [if_neg dict, at_of_not_isDict dict]
    rfl

def attributeRows (data : Loaded) : List Loaded :=
  (data.at_ ["ata_smart_attributes", "table"]).items

theorem ataRawValue_eq {data : Loaded} (dict : isDict data = true) (attrId : Int) :
    ataRawValue data attrId = .ok ((attributeRows data).findSome? (rowValue attrId)) := by
  have pureRows : rowRawValue attrId = fun row => pure (rowValue attrId row) :=
    funext (rowRawValue_eq attrId)
  -- the fallback for a missing section has no table either
  have table : ((data.get? [.key "ata_smart_attributes"]).getD (.obj [])).at_ ["table"] =
      data.at_ ["ata_smart_attributes", "table"] := by
    have deeper := at_at data ["ata_smart_attributes"] ["table"]
    rw [List.singleton_append] at deeper
    rw [← deeper, Tree.at_.eq_def data]
    change _ = ((data.get? [.key "ata_smart_attributes"]).getD .null).at_ ["table"]
    cases data.get? [.key "ata_smart_attributes"] <;> rfl
  rw [ataRawValue, getD_of_isDict dict]
  change (do
    let rows ← getIfDict ((data.get? [.key "ata_smart_attributes"]).getD (.obj [])) "table"
    rows.items.findSomeM? (rowRawValue attrId)) = _
  rw [getIfDict_eq, table, pureRows]
  exact List.findSomeM?_pure

theorem entryMessage_eq (entry : Loaded) :
    entryMessage entry = .ok (str? (entry.at_ ["string"])) := by
  rw [entryMessage]
  by_cases dict : isDict entry = true
  · rw [if_pos dict, get_of_isDict dict]
    rfl
  · rw [if_neg dict, at_of_not_isDict dict]
    rfl

def messageEntries (data : Loaded) : List Loaded :=
  (data.at_ ["smartctl", "messages"]).items

theorem messages_eq {data : Loaded} (dict : isDict data = true) :
    messages data =
      .ok ((messageEntries data).filterMap fun entry => str? (entry.at_ ["string"])) := by
  have pureEntries : entryMessage = fun entry => pure (str? (entry.at_ ["string"])) :=
    funext entryMessage_eq
  have deeper := at_at data ["smartctl"] ["messages"]
  rw [messages, get_of_isDict dict]
  change (do
    let entries ← getIfDict (data.at_ ["smartctl"]) "messages"
    return (← entries.items.mapM entryMessage).filterMap id) = _
  rw [getIfDict_eq, deeper, pureEntries]
  have read : (messageEntries data).mapM (fun entry => pure (str? (entry.at_ ["string"]))) =
      (pure ((messageEntries data).map fun entry => str? (entry.at_ ["string"])) :
        Except PyException _) := List.mapM_pure
  exact (congrArg (List.filterMap id <$> ·) read).trans (congrArg Except.ok List.filterMap_map)

/-- What stands at the paths of a report. -/
def reportOf (deviceName : String) (data : Loaded) : SmartReport where
  deviceName := deviceName
  passed := bool? (data.at_ ["smart_status", "passed"])
  temperatureC := int? (data.at_ ["temperature", "current"])
  powerOnHours := int? (data.at_ ["power_on_time", "hours"])
  powerCycles := int? (data.at_ ["power_cycle_count"])
  percentageUsed := int? (data.at_ ["nvme_smart_health_information_log", "percentage_used"])
  availableSparePct := int? (data.at_ ["nvme_smart_health_information_log", "available_spare"])
  mediaErrors := int? (data.at_ ["nvme_smart_health_information_log", "media_errors"])
  criticalWarning := int? (data.at_ ["nvme_smart_health_information_log", "critical_warning"])
  unsafeShutdowns := int? (data.at_ ["nvme_smart_health_information_log", "unsafe_shutdowns"])
  reallocatedSectors := (attributeRows data).findSome? (rowValue 5)
  pendingSectors := (attributeRows data).findSome? (rowValue 197)
  model := (str? (data.at_ ["model_name"])).filter (· ≠ "")
  firmwareVersion := (str? (data.at_ ["firmware_version"])).filter (· ≠ "")
  serialNumber := (str? (data.at_ ["serial_number"])).filter (· ≠ "")
  messages := (messageEntries data).filterMap fun entry => str? (entry.at_ ["string"])

/-- No reader ever raises, whatever the object holds. -/
theorem parseReport_eq {data : Loaded} (dict : isDict data = true) (deviceName : String) :
    parseReport deviceName data = .ok (reportOf deviceName data) := by
  rw [parseReport]
  simp only [get_of_isDict dict, getIfDict_eq, getInt_eq, getStr_eq dict, ataRawValue_eq dict,
    messages_eq dict]
  exact congrArg (fun passed => Except.ok { reportOf deviceName data with passed })
    (congrArg bool? (at_at data ["smart_status"] ["passed"]))

end Lapcare.Providers
