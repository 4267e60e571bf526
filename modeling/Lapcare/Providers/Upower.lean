import Lapcare.Core.Errors
import Lapcare.Providers.BatteryFamilies
import Lapcare.Semantics.FailFast

/-!
# The UPower provider

`UPowerDbus` of `providers/upower.py`: the devices that UPower enumerates, and what it says of
each when it is asked. A battery is a device of type 2 that supplies power. Mice and keyboards
do not, and are passed over once they have answered.

## Main results

* `readStatus_eq` — while every other device answers, the status is that of the batteries
* `readStatus_vanished` — one that does not answer leaves no status at all
* `peripherals_undisturbing_iff` — which peripherals disturb the status of the batteries
-/

namespace Lapcare.Providers

open Lapcare.Core Semantics Text

/-- `SOURCE`. -/
def upowerSource : String := "upower"

/-- A property as `GVariant.unpack` gives it. Lists, tuples and dictionaries are told apart by
their class, and by whether they are empty. -/
inductive Variant
  | bool (value : Bool)
  | int (value : Int)
  | double (value : PyFloat)
  | str (value : String)
  | container (className : String) (empty : Bool)
  deriving DecidableEq

/-- `bool(value)`. -/
def Variant.truthy : Variant → Bool
  | bool value => value
  | int value => value ≠ 0
  | double value => value ≠ .finite 0
  | str value => value ≠ ""
  | container _ empty => !empty

/-- `value == 2`. -/
def Variant.isTwo : Variant → Bool
  | int value => value = 2
  | double value => value = .finite 2
  | bool _ | str _ | container _ _ => false

/-- The properties of a device. -/
abbrev Props := List (String × Variant)

/-- `props.get(key, default)`. -/
def Props.get (props : Props) (key : String) (default : Variant) : Variant :=
  (props.lookup key).getD default

/-- `props.get("Type") == 2 and props.get("PowerSupply", False)`. A device without a type is
none of type 2. -/
def Props.isBattery (props : Props) : Bool :=
  ((props.lookup "Type").map Variant.isTwo).getD false &&
    (props.get "PowerSupply" (.bool false)).truthy

/-- A `GLib.Error` of a call on the bus. -/
structure BusError where
  message : Option String
  deriving DecidableEq

/-- A device that UPower enumerates. `gone` is how `GetAll` fails on a device that vanished
after that. -/
structure UPowerDevice where
  path : String
  props : Props
  gone : Option BusError := none
  deriving DecidableEq

/-- What there is to know of UPower: whether the system bus can be reached, whether the
manager answers, and the devices it then enumerates. -/
structure UPower where
  bus : Option BusError := none
  manager : Option BusError := none
  devices : List UPowerDevice

def upowerUnavailable : LapcareError :=
  .providerUnavailable upowerSource .toolMissing (some "upower")

/-- The `except GLib.Error` of `_call`. -/
def BusError.translate (e : BusError) : PyException :=
  if "Timeout".toList <:+: (e.message.getD "").toList then
    .lapcare (.providerTimeout upowerSource (e.message.getD ""))
  else .lapcare upowerUnavailable

/-- `_STATE_MAP`. -/
def stateMap : List (Int × BatteryState) :=
  [(1, .charging), (2, .discharging), (3, .empty), (4, .full), (5, .notCharging),
    (6, .notCharging)]

/-- `path.rsplit("/", 1)[-1]`. -/
def lastComponent (path : String) : String :=
  String.ofList (path.toList.reverse.takeWhile (· ≠ '/')).reverse

/-- What the `except` around a device makes of an exception. -/
def caught (path : String) : PyException → PyException
  | .foreign className detail =>
      if className ∈ ["TypeError", "ValueError", "KeyError"] then
        .lapcare (.providerParseError upowerSource s!"device {path}: {detail}")
      else .foreign className detail
  | .lapcare error => .lapcare error

section Reading

-- Python's numbers of a text, and `repr`
variable (builtins : Builtins) (repr : Variant → String)

/-- `int(value)`. A number is cut off at its point. -/
def Variant.toInt : Variant → Except PyException Int
  | bool value => .ok value.toInt
  | int value => .ok value
  | double (.finite value) => .ok (value.num.tdiv value.den)
  | double .nan => .error (.foreign "ValueError" "cannot convert float NaN to integer")
  | double (.infinite _) =>
      .error (.foreign "OverflowError" "cannot convert float infinity to integer")
  | str value =>
      match builtins.int value.toList with
      | some n => .ok n
      | none =>
          let shown := repr (.str value)
          .error (.foreign "ValueError" s!"invalid literal for int() with base 10: {shown}")
  | container className _ =>
      .error (.foreign "TypeError" ("int() argument must be a string, a bytes-like object " ++
        s!"or a real number, not '{className}'"))

/-- `float(value)`. -/
def Variant.toFloat : Variant → Except PyException PyFloat
  | bool value => .ok (.finite value.toInt)
  | int value => .ok (.finite value)
  | double value => .ok value
  | str value =>
      match builtins.float value.toList with
      | some x => .ok x
      | none =>
          let shown := repr (.str value)
          .error (.foreign "ValueError" s!"could not convert string to float: {shown}")
  | container className _ =>
      .error (.foreign "TypeError"
        s!"float() argument must be a string or a real number, not '{className}'")

/-- `str(value)`. -/
def Variant.toStr : Variant → String
  | str value => value
  | other => repr other

/-- `int(props.get(key, 0)) or None`. -/
def timeOf (props : Props) (key : String) : Except PyException (Option Int) := do
  let seconds ← (props.get key (.int 0)).toInt builtins repr
  return if seconds = 0 then none else some seconds

/-- `float(props[key]) if key in props else None`. -/
def floatOf (props : Props) (key : String) : Except PyException (Option PyFloat) :=
  match props.lookup key with
  | none => .ok none
  | some value => some <$> value.toFloat builtins repr

/-- The status that the properties of a battery make. -/
def batteryStatus (path : String) (props : Props) : Except PyException BatteryStatus := do
  let native := ((props.lookup "NativePath").filter (·.truthy)).getD (.str (lastComponent path))
  let timeToEmptyS ← timeOf builtins repr props "TimeToEmpty"
  let timeToFullS ← timeOf builtins repr props "TimeToFull"
  let state ← (props.get "State" (.int 0)).toInt builtins repr
  let percentage ← floatOf builtins repr props "Percentage"
  let energyRateW ← floatOf builtins repr props "EnergyRate"
  return {
    name := native.toStr repr
    state := (stateMap.lookup state).getD .unknown
    percentage
    timeToEmptyS
    timeToFullS
    energyRateW }

/-- The body of the loop over the devices. -/
def readDevice (device : UPowerDevice) : Except PyException (Option BatteryStatus) :=
  match device.gone with
  | some e => .error e.translate
  -- the properties came before the type is looked at
  | none =>
      if device.props.isBattery then
        (some <$> batteryStatus builtins repr device.path device.props).mapError
          (caught device.path)
      else .ok none

/-- `batteries.sort(key=lambda b: b.name)`, which is stable. -/
def sortByName (batteries : List BatteryStatus) : List BatteryStatus :=
  batteries.mergeSort fun first second => decide (first.name ≤ second.name)

/-- `read_status`. -/
def readStatus (upower : UPower) : Except PyException (List BatteryStatus) :=
  match upower.bus, upower.manager with
  | some _, _ => .error (.lapcare upowerUnavailable)
  | none, some e => .error e.translate
  | none, none =>
      ((upower.devices.mapM (readDevice builtins repr)).map List.reduceOption).map sortByName

/-! ### Batteries and other devices -/

def UPowerDevice.isBattery (device : UPowerDevice) : Bool :=
  device.props.isBattery

/-- The devices of type 2 that supply power. -/
def UPower.batteries (upower : UPower) : List UPowerDevice :=
  upower.devices.filter (·.isBattery)

/-- The states agree on the batteries, and on how the manager can be reached. All other devices
may differ. -/
structure UPower.Agree (first second : UPower) : Prop where
  bus : first.bus = second.bus
  manager : first.manager = second.manager
  batteries : first.batteries = second.batteries

/-- A device that is no battery has vanished since it was enumerated. -/
def UPower.PeripheralVanished (upower : UPower) : Prop :=
  ∃ device ∈ upower.devices, device.isBattery = false ∧ device.gone ≠ none

/-- A battery of which no status can be made. -/
def Unreadable (device : UPowerDevice) : Prop :=
  device.gone ≠ none ∨ ∃ e, batteryStatus builtins repr device.path device.props = .error e

/-- No status can be read, whatever other devices there are. -/
def UPower.Hopeless (upower : UPower) : Prop :=
  upower.bus ≠ none ∨ upower.manager ≠ none ∨
    ∃ device ∈ upower.batteries, Unreadable builtins repr device

/-- The same list, or an error in both. -/
def SameOutcome {α : Type} (first second : Except PyException α) : Prop :=
  first.toOption = second.toOption

/-! ### One device -/

section Devices

variable {builtins repr} {device : UPowerDevice}

theorem readDevice_gone (vanished : device.gone ≠ none) :
    ∃ e, readDevice builtins repr device = .error e := by
  obtain ⟨e, gone⟩ := Option.ne_none_iff_exists'.mp vanished
  exact ⟨e.translate, by rw [readDevice, gone]⟩

/-- What is no battery is passed over, once it has answered. -/
theorem readDevice_peripheral (other : device.isBattery = false) (there : device.gone = none) :
    readDevice builtins repr device = .ok none := by
  rw [UPowerDevice.isBattery] at other
  rw [readDevice, there]
  exact if_neg (by simp [other])

theorem readDevice_battery_error_iff (battery : device.isBattery = true) :
    (∃ e, readDevice builtins repr device = .error e) ↔ Unreadable builtins repr device := by
  cases gone : device.gone with
  | some e =>
    refine iff_of_true (readDevice_gone ?_) (.inl ?_) <;> simp [gone]
  | none =>
    rw [UPowerDevice.isBattery] at battery
    simp only [readDevice, gone, battery, if_true, Unreadable]
    rcases batteryStatus builtins repr device.path device.props with e | status
    · simp [Except.mapError]
    · simp [Except.mapError]

end Devices

/-! ### The status -/

section Status

variable {builtins repr} {upower : UPower}

/-- The batteries and nothing else. -/
def UPower.batteriesOnly (upower : UPower) : UPower :=
  { upower with devices := upower.batteries }

/-- While every other device answers, it is as if there were batteries only. -/
theorem readStatus_eq (answering : ¬ upower.PeripheralVanished) :
    readStatus builtins repr upower = readStatus builtins repr upower.batteriesOnly := by
  have passed : ∀ device ∈ upower.devices, device.isBattery = false →
      readDevice builtins repr device = .ok none := by
    intro device listed other
    apply readDevice_peripheral other
    by_contra vanished
    exact answering ⟨device, listed, other, vanished⟩
  -- devices that are passed over leave no trace in the result of the loop
  have loop := mapM_filter_of_passed passed
  unfold readStatus
  rw [loop]
  rfl

/-- One that does not answer leaves no status. -/
theorem readStatus_vanished (vanished : upower.PeripheralVanished) :
    ∃ e, readStatus builtins repr upower = .error e := by
  obtain ⟨device, listed, -, gone⟩ := vanished
  obtain ⟨e, failed⟩ : ∃ e, readDevice builtins repr device = .error e := readDevice_gone gone
  obtain ⟨e', raised⟩ := mapM_raises listed failed
  unfold readStatus
  cases upower.bus with
  | some _ => exact ⟨_, rfl⟩
  | none =>
    cases upower.manager with
    | some _ => exact ⟨_, rfl⟩
    | none => exact ⟨e', by rw [raised]; rfl⟩

/-- The batteries alone fail exactly if one of them cannot be read, or UPower not be reached. -/
theorem readStatus_batteriesOnly_error_iff :
    (∃ e, readStatus builtins repr upower.batteriesOnly = .error e) ↔
      upower.Hopeless builtins repr := by
  have loop : (∃ e, upower.batteries.mapM (readDevice builtins repr) = .error e) ↔
      ∃ device ∈ upower.batteries, Unreadable builtins repr device := by
    rw [mapM_error_iff]
    refine exists_congr fun device => and_congr_right fun listed => ?_
    exact readDevice_battery_error_iff (List.mem_filter.mp listed).2
  simp only [readStatus, UPower.batteriesOnly, UPower.Hopeless, ← loop]
  cases upower.bus with
  | some _ => simp
  | none =>
    cases upower.manager with
    | some _ => simp
    | none =>
      rcases upower.batteries.mapM (readDevice builtins repr) with e | results
      · simp [Except.map]
      · simp [Except.map]

theorem UPower.Agree.batteriesOnly {first second : UPower} (agree : first.Agree second) :
    first.batteriesOnly = second.batteriesOnly := by
  obtain ⟨bus, manager, batteries⟩ := agree
  rw [UPower.batteriesOnly, UPower.batteriesOnly, batteries, bus, manager]

theorem toOption_eq_none_iff {α : Type} {outcome : Except PyException α} :
    outcome.toOption = none ↔ ∃ e, outcome = .error e := by
  rcases outcome with e | value <;> simp [Except.toOption]

/-- An outcome next to one that is an error. -/
theorem sameOutcome_error_iff {α : Type} {first second : Except PyException α}
    (failed : ∃ e, first = .error e) : SameOutcome first second ↔ ∃ e, second = .error e := by
  rw [SameOutcome, toOption_eq_none_iff.mpr failed, eq_comm, toOption_eq_none_iff]

end Status

/-- Two states of the same batteries give the same outcome exactly if other devices have vanished
from both or from neither, or if the batteries give none anyway. -/
theorem peripherals_undisturbing_iff {first second : UPower} (agree : first.Agree second) :
    SameOutcome (readStatus builtins repr first) (readStatus builtins repr second) ↔
      (first.PeripheralVanished ↔ second.PeripheralVanished) ∨ first.Hopeless builtins repr := by
  have alone := agree.batteriesOnly
  -- if one state has no outcome, the other has none only by its own loss or with the batteries
  by_cases vanished : first.PeripheralVanished
  · rw [sameOutcome_error_iff (readStatus_vanished vanished)]
    by_cases vanished' : second.PeripheralVanished
    · exact iff_of_true (readStatus_vanished vanished') (.inl (iff_of_true vanished vanished'))
    · rw [readStatus_eq vanished', ← alone, readStatus_batteriesOnly_error_iff]
      simp [vanished, vanished']
  · rw [readStatus_eq vanished]
    by_cases vanished' : second.PeripheralVanished
    · rw [SameOutcome, eq_comm, ← SameOutcome,
        sameOutcome_error_iff (readStatus_vanished vanished'), readStatus_batteriesOnly_error_iff]
      simp [vanished, vanished']
    · rw [readStatus_eq vanished', alone]
      exact iff_of_true rfl (.inl (iff_of_false vanished vanished'))

end Reading

/-! ### A mouse and a battery -/

/-- The battery of a laptop. -/
def laptopBattery : UPowerDevice where
  path := "/org/freedesktop/UPower/devices/battery_BAT0"
  props := [("Type", .int 2), ("PowerSupply", .bool true), ("NativePath", .str "BAT0"),
    ("State", .int 2), ("Percentage", .double (.finite 77)), ("TimeToEmpty", .int 5400)]

/-- A wireless mouse. -/
def wirelessMouse (gone : Option BusError) : UPowerDevice where
  path := "/org/freedesktop/UPower/devices/mouse_hidpp_battery_0"
  props := [("Type", .int 5), ("PowerSupply", .bool false), ("Percentage", .double (.finite 30))]
  gone

theorem agree_wirelessMouse (gone gone' : Option BusError) (position : Bool) :
    UPower.Agree { devices := [wirelessMouse gone, laptopBattery] }
      { devices :=
          if position then [laptopBattery, wirelessMouse gone'] else [laptopBattery] } := by
  refine ⟨rfl, rfl, ?_⟩
  cases position <;> rfl

/-- A mouse that answers does not disturb, wherever it stands. -/
theorem mouse_undisturbing :
    SameOutcome
      (readStatus digitBuiltins (fun _ => "") { devices := [wirelessMouse none, laptopBattery] })
      (readStatus digitBuiltins (fun _ => "")
        { devices := [laptopBattery, wirelessMouse none] }) := by
  refine (peripherals_undisturbing_iff _ _ (agree_wirelessMouse none none true)).mpr
    (.inl (iff_of_false ?_ ?_))
  · rintro ⟨device, listed, -, gone⟩
    rcases List.mem_pair.mp listed with rfl | rfl <;> exact gone rfl
  · rintro ⟨device, listed, -, gone⟩
    rcases List.mem_pair.mp listed with rfl | rfl <;> exact gone rfl

/-- A mouse that is switched off between the two calls takes the battery's status with it. -/
theorem mouse_disturbing :
    let vanished : Option BusError :=
      some ⟨some "GDBus.Error:org.freedesktop.DBus.Error.UnknownObject: No such object path"⟩
    UPower.Agree { devices := [wirelessMouse vanished, laptopBattery] }
        { devices := [laptopBattery] } ∧
      ¬ SameOutcome
        (readStatus digitBuiltins (fun _ => "")
          { devices := [wirelessMouse vanished, laptopBattery] })
        (readStatus digitBuiltins (fun _ => "") { devices := [laptopBattery] }) := by
  refine ⟨agree_wirelessMouse _ none false, ?_⟩
  rw [sameOutcome_error_iff (readStatus_vanished ?_)]
  · rintro ⟨e, failed⟩
    have known : (readStatus digitBuiltins (fun _ => "") { devices := [laptopBattery] }).toOption =
        some [{
          name := "BAT0"
          state := .discharging
          percentage := some (.finite 77)
          timeToEmptyS := some 5400 }] := by
      decide +kernel
    rw [failed] at known
    exact nomatch known
  · exact ⟨wirelessMouse _, List.mem_cons_self, rfl, nofun⟩

end Lapcare.Providers
