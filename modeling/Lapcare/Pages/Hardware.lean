import Mathlib.Data.List.InsertIdx
import Lapcare.Core.PythonNumbers
import Lapcare.Pages.Firmware
import Lapcare.Providers.SystemFiles
import Lapcare.Providers.ToolFailures
import Lapcare.Semantics.Transition

/-!
# The hardware page

`HardwareViewModel` of `ui/pages/hardware/view_model.py`: identity, processor and memory, and
the two inventories. An inventory that fails costs the page its own panel, which then says why.

## Main results

* `hardware_page_ready` — over contained tools the page comes up whatever the tools do, and what
  each panel says
* `hardware_panels_confined` — no panel shows anything of the other inventory
-/

namespace Lapcare.Pages

open Lapcare.Core Semantics Platform Providers Text

/-- `format_memory`. -/
def formatMemory : Option Int → Except PyException String
  | none => .ok placeholder
  | some kib => do
      let gib ← trueDivide kib (1024 * 1024)
      return fixed 1 gib ++ " GiB"

/-- One of the two panels: its devices, and a note that is empty while all is well. -/
structure InventoryPanel (δ : Type) where
  devices : List δ := []
  note : String := ""
  deriving DecidableEq

structure HardwareViewModel extends PageViewModel where
  family : String := placeholder
  machineType : String := placeholder
  board : String := placeholder
  biosVersion : String := placeholder
  biosDate : String := placeholder
  cpuModel : String := placeholder
  cpuCount : String := placeholder
  memory : String := placeholder
  pci : InventoryPanel PciDevice := {}
  usb : InventoryPanel UsbDevice := {}
  deriving DecidableEq

/-- The result of a gather. -/
structure HardwareData where
  identity : SystemIdentity
  cpuMem : CpuMemSummary
  pci : InventoryPanel PciDevice
  usb : InventoryPanel UsbDevice

/-- What the providers answer to a gather. -/
structure HardwareAnswers where
  identity : SystemIdentity
  cpuMem : CpuMemSummary
  pci : Except PyException (List PciDevice)
  usb : Except PyException (List UsbDevice)

def notReadText : String := "Could not be read."

def notHereText : String := "Not available on this system."

def installText (package : String) : String :=
  s!"Not available — install the '{package}' package."

/-- `_inventory_note`. -/
def inventoryNote : LapcareError → String
  | .providerUnavailable _ .toolMissing tool =>
      match PageViewModel.namedTool tool with
      | some package => installText package
      | none => notHereText
  | .providerUnavailable .. => notHereText
  | _ => notReadText

/-- One inventory of `_gather`. -/
def inventoryPanel {δ : Type} (answer : Except PyException (List δ)) :
    Except PyException (InventoryPanel δ) :=
  match answer with
  | .ok devices => .ok { devices }
  | .error (.lapcare e) => .ok { note := inventoryNote e }
  | .error (.foreign className detail) => .error (.foreign className detail)

namespace HardwareViewModel

def load (vm : HardwareViewModel) : HardwareViewModel :=
  { vm with toPageViewModel := vm.showLoading }

/-- `_gather`. -/
def gather (answers : HardwareAnswers) : Except PyException HardwareData := do
  let pci ← inventoryPanel answers.pci
  let usb ← inventoryPanel answers.usb
  return { identity := answers.identity, cpuMem := answers.cpuMem, pci, usb }

/-- `str(cpu_mem.cpu_count) if cpu_mem.cpu_count else PLACEHOLDER`. -/
def cpuCountText : Option Int → String
  | none => placeholder
  | some count => if count = 0 then placeholder else toString count

/-- What `_apply` sets before the memory. -/
def named (vm : HardwareViewModel) (data : HardwareData) : HardwareViewModel :=
  { vm with
    family := orText data.identity.productFamily placeholder
    machineType := orText data.identity.productName placeholder
    board := orText data.identity.boardName placeholder
    biosVersion := orText data.identity.biosVersion placeholder
    biosDate := orText data.identity.biosDate placeholder
    cpuModel := orText data.cpuMem.cpuModel placeholder
    cpuCount := cpuCountText data.cpuMem.cpuCount
    pci := { vm.pci with note := data.pci.note }
    usb := { vm.usb with note := data.usb.note } }

/-- `_apply`. A size of the memory that raises ends it, before the page becomes ready. -/
def apply (vm : HardwareViewModel) (data : HardwareData) : HardwareViewModel :=
  match formatMemory data.cpuMem.memoryTotalKib with
  | .error _ => vm.named data
  | .ok memory =>
      { vm.named data with
        toPageViewModel := vm.showReady
        memory
        pci := data.pci
        usb := data.usb }

/-- The callback of a gather: `_apply`, or `handle_error`. -/
def complete (vm : HardwareViewModel) : Except PyException HardwareData → HardwareViewModel
  | .ok data => vm.apply data
  | .error e => { vm with toPageViewModel := vm.handleError e }

end HardwareViewModel

/-! ### The page in its environment -/

/-- The page, the gathers that run, and the outcomes whose callbacks are still to come. -/
structure HardwareSystem where
  vm : HardwareViewModel := {}
  gathers : ℕ := 0
  ended : List (Except PyException HardwareData) := []

inductive HardwareEvent
  | load
  | gatherEnds (answers : HardwareAnswers)
  | callback (position : ℕ)

namespace HardwareSystem

/-- One event, when it can happen. -/
def step (system : HardwareSystem) : HardwareEvent → Option HardwareSystem
  | .load => some { system with vm := system.vm.load, gathers := system.gathers + 1 }
  | .gatherEnds answers =>
      if system.gathers = 0 then none
      else
        some { system with
          gathers := system.gathers - 1
          ended := system.ended ++ [HardwareViewModel.gather answers] }
  | .callback position =>
      match system.ended[position]? with
      | none => none
      | some outcome =>
          some { system with
            ended := system.ended.eraseIdx position
            vm := system.vm.complete outcome }

section Inversion

variable {system later : HardwareSystem} {position : ℕ}

theorem step_gatherEnds_iff {answers : HardwareAnswers} :
    system.step (.gatherEnds answers) = some later ↔ system.gathers ≠ 0 ∧
      { system with
        gathers := system.gathers - 1
        ended := system.ended ++ [HardwareViewModel.gather answers] } = later := by
  simp only [step, Option.ite_none_left_eq_some, Option.some.injEq, ne_eq]

theorem step_callback_iff :
    system.step (.callback position) = some later ↔
      ∃ outcome, system.ended[position]? = some outcome ∧
        { system with
          ended := system.ended.eraseIdx position
          vm := system.vm.complete outcome } = later := by
  rw [step]
  cases system.ended[position]? <;> simp

end Inversion

end HardwareSystem

/-! ### The machine below -/

/-- What the providers read of a machine: its files, and its tools. -/
structure HardwareMachine where
  root : Root
  host : ToolHost

/-- The tools of the inventories end in a way that the runner foresees. -/
def HardwareMachine.Contains (machine : HardwareMachine) : Prop :=
  Contained machine.host "lspci" ["-mm"] 10 ∧ Contained machine.host "lsusb" [] 10

section Machine

variable (isDecimal : Char → Bool) (builtins : Builtins)

/-- Binary64 has every size of a memory up to this machine's. -/
def HardwareMachine.Measurable (machine : HardwareMachine) : Prop :=
  ∀ kib ∈ (readCpuMem builtins machine.root).memoryTotalKib, kib.natAbs < 2 ^ 53

def HardwareMachine.answers (machine : HardwareMachine) : HardwareAnswers where
  identity := readIdentity machine.root
  cpuMem := readCpuMem builtins machine.root
  pci := listPci (runTool machine.host)
  usb := listUsb isDecimal (runTool machine.host)

/-- What a panel shows of a run of its tool: the devices of the lines that parse, or a note that
names the missing package, or one that it could not be read. -/
def panelOf {δ : Type} (parse : List Char → Option δ) (package : String) :
    Except ToolError String → InventoryPanel δ
  | .ok out =>
      let devices := (splitLines out.toList).filterMap parse
      if devices = [] ∧ strip out.toList ≠ [] then { note := notReadText } else { devices }
  | .error (.toolNotFound _) => { note := installText package }
  | .error _ => { note := notReadText }

/-- The data of a gather on the machine. -/
def HardwareMachine.data (machine : HardwareMachine) : HardwareData where
  identity := readIdentity machine.root
  cpuMem := readCpuMem builtins machine.root
  pci := panelOf pciLine "pciutils" (runTool machine.host "lspci" ["-mm"] 10)
  usb := panelOf (usbLine isDecimal) "usbutils" (runTool machine.host "lsusb" [] 10)

/-- Each listing becomes its panel, unless something foreign escapes from the tool. -/
theorem inventoryPanel_listing {δ : Type} (parse : List Char → Option δ) (run : ToolRunner)
    {tool package : String} (args : List String) (known : packages.lookup tool = some package)
    (named : package ≠ "") (own : RaisesOwn (run tool args 10)) :
    inventoryPanel (runTranslated run tool args >>= fun out => listDevices parse tool out) =
      .ok (panelOf parse package (run tool args 10)) := by
  unfold runTranslated
  cases ran : run tool args 10 with
  | ok out =>
    change inventoryPanel (listDevices parse tool out) = _
    unfold listDevices panelOf
    simp only [List.isEmpty_iff]
    split_ifs <;> rfl
  | error e =>
    cases e with
    | toolNotFound =>
      have shown : PageViewModel.namedTool (some package) = some package := by
        unfold PageViewModel.namedTool
        split
        · simp_all
        · rfl
      rw [known]
      change Except.ok (InventoryPanel.mk [] (match PageViewModel.namedTool (some package) with
        | some package => installText package
        | none => notHereText)) = _
      rw [shown]
      rfl
    | toolTimeout => rfl
    | toolFailed => rfl
    | foreign className detail => exact absurd ran (own className detail)

/-- On a machine with contained tools a gather always ends well. -/
theorem gather_answers {machine : HardwareMachine} (contains : machine.Contains) :
    HardwareViewModel.gather (machine.answers isDecimal builtins) =
      .ok (machine.data isDecimal builtins) := by
  have lspci : "lspci" ∈ allowedTools.map (·.1) := by simp [allowedTools]
  have lsusb : "lsusb" ∈ allowedTools.map (·.1) := by simp [allowedTools]
  have pci := inventoryPanel_listing pciLine (runTool machine.host) ["-mm"]
    (by decide : packages.lookup "lspci" = some "pciutils") (by decide)
    ((runTool_raisesOwn_iff lspci machine.host ["-mm"] 10).mpr contains.1)
  have usb := inventoryPanel_listing (usbLine isDecimal) (runTool machine.host) []
    (by decide : packages.lookup "lsusb" = some "usbutils") (by decide)
    ((runTool_raisesOwn_iff lsusb machine.host [] 10).mpr contains.2)
  change inventoryPanel (listPci (runTool machine.host)) = _ at pci
  change inventoryPanel (listUsb isDecimal (runTool machine.host)) = _ at usb
  simp only [HardwareViewModel.gather, HardwareMachine.answers, pci, usb]
  rfl

end Machine

/-! ### What the page shows -/

namespace HardwareSystem

/-- The page when it was opened. -/
def opened : HardwareSystem where
  vm := ({} : HardwareViewModel).load
  gathers := 1

section Ready

variable (isDecimal : Char → Bool) (builtins : Builtins)

/-- The gather found a machine with contained tools, and a memory that can be told. -/
def FromMachine : HardwareEvent → Prop
  | .gatherEnds answers => ∃ machine : HardwareMachine, machine.Contains ∧
      machine.Measurable builtins ∧ answers = machine.answers isDecimal builtins
  | .load | .callback _ => True

/-- What the page owes to a machine: its rows are what the files say, and its panels what the
tools do. -/
structure Shows (machine : HardwareMachine) (vm : HardwareViewModel) : Prop where
  family : RowGives (said machine.root (dmiDir ++ ["product_family"]) 4096) vm.family
  machineType : RowGives (said machine.root (dmiDir ++ ["product_name"]) 4096) vm.machineType
  board : RowGives (said machine.root (dmiDir ++ ["board_name"]) 4096) vm.board
  biosVersion : RowGives (said machine.root (dmiDir ++ ["bios_version"]) 4096) vm.biosVersion
  biosDate : RowGives (said machine.root (dmiDir ++ ["bios_date"]) 4096) vm.biosDate
  cpuModel : RowGives (readCpuMem builtins machine.root).cpuModel vm.cpuModel
  cpuCount : RowGives ((readCpuMem builtins machine.root).cpuCount.map toString) vm.cpuCount
  memory : RowGives ((readCpuMem builtins machine.root).memoryTotalKib.map fun kib =>
    fixed 1 (kib / 1024 ^ 2) ++ " GiB") vm.memory
  pci : vm.pci = panelOf pciLine "pciutils" (runTool machine.host "lspci" ["-mm"] 10)
  usb : vm.usb = panelOf (usbLine isDecimal) "usbutils" (runTool machine.host "lsusb" [] 10)

/-- One of the events is a gather that found this machine. -/
structure Found (events : List HardwareEvent) (machine : HardwareMachine) : Prop where
  contains : machine.Contains
  measurable : machine.Measurable builtins
  among : .gatherEnds (machine.answers isDecimal builtins) ∈ events

/-- The page shows one of the machines that were found. -/
def ShowsFound (events : List HardwareEvent) (vm : HardwareViewModel) : Prop :=
  ∃ machine, Found isDecimal builtins events machine ∧ Shows isDecimal builtins machine vm

/-- The page is loading while something is to come, and then its rows may be untouched, or it is
ready. What is to come is of machines. -/
structure Sound (events : List HardwareEvent) (system : HardwareSystem) : Prop where
  state : system.vm.state = .loading ∧ (system.gathers ≠ 0 ∨ system.ended ≠ []) ∨
    system.vm.state = .ready
  shown : system.vm = ({} : HardwareViewModel).load ∨
    ShowsFound isDecimal builtins events system.vm
  coming : ∀ outcome ∈ system.ended, ∃ machine : HardwareMachine,
    Found isDecimal builtins events machine ∧ outcome = .ok (machine.data isDecimal builtins)

variable {isDecimal : Char → Bool} {builtins : Builtins} {events : List HardwareEvent}
  {system later : HardwareSystem}

/-- A memory that can be told is told. -/
theorem formatMemory_of_measurable {machine : HardwareMachine}
    (measurable : machine.Measurable builtins) :
    ∃ memory, formatMemory (readCpuMem builtins machine.root).memoryTotalKib = .ok memory ∧
      RowGives ((readCpuMem builtins machine.root).memoryTotalKib.map fun kib =>
        fixed 1 (kib / 1024 ^ 2) ++ " GiB") memory := by
  cases known : (readCpuMem builtins machine.root).memoryTotalKib with
  | none => exact ⟨_, rfl, fun said => absurd rfl said, fun _ => rfl⟩
  | some kib =>
    have small : |(kib : ℚ)| < 2 ^ 53 := by
      rw [← Int.cast_abs, Int.abs_eq_natAbs]
      exact_mod_cast measurable kib known
    have size : ((1024 * 1024 : Int) : ℚ) = 1024 ^ 2 := by norm_num
    have below : |(kib / (1024 * 1024 : Int) : ℚ)| < floatLimit := by
      rw [size, abs_div]
      refine lt_of_le_of_lt (div_le_self (abs_nonneg _) (by norm_num)) ?_
      exact small.trans two_pow_lt_floatLimit
    refine ⟨fixed 1 (kib / 1024 ^ 2) ++ " GiB", ?_, fun _ => rfl, fun blank => ?_⟩
    · rw [formatMemory, trueDivide, if_pos below, size]
      rfl
    · simp at blank

/-- No processors are not counted. -/
theorem rowGives_cpuCountText {count : Option Int} (counted : count ≠ some 0) :
    RowGives (count.map toString) (HardwareViewModel.cpuCountText count) := by
  cases count with
  | none => exact ⟨fun said => absurd rfl said, fun _ => rfl⟩
  | some n =>
    have some_ : n ≠ 0 := fun zero => counted (congrArg some zero)
    have shown : HardwareViewModel.cpuCountText (some n) = toString n := if_neg some_
    refine ⟨fun _ => shown, fun blank => ?_⟩
    change Int.repr n = "" at blank
    cases n with
    | ofNat n => exact absurd blank Nat.repr_ne_empty
    | negSucc n => simp [Int.repr] at blank

theorem cpuCount_ne_zero (root : Root) : (readCpuMem builtins root).cpuCount ≠ some 0 := by
  change (readStr (root.content cpuinfoFile) (1024 * 1024)).bind cpuCountOf ≠ some 0
  intro zero
  obtain ⟨text, -, counted⟩ := Option.bind_eq_some_iff.mp zero
  unfold cpuCountOf at counted
  split_ifs at counted with none_
  exact none_ (by exact_mod_cast Option.some.inj counted)

/-- What a gather found is applied as a whole, and shown. -/
theorem shows_apply {machine : HardwareMachine} (measurable : machine.Measurable builtins)
    (vm : HardwareViewModel) :
    (vm.apply (machine.data isDecimal builtins)).state = .ready ∧
      Shows isDecimal builtins machine (vm.apply (machine.data isDecimal builtins)) := by
  obtain ⟨memory, told, gives⟩ := formatMemory_of_measurable measurable
  have applied : vm.apply (machine.data isDecimal builtins) =
      { vm.named (machine.data isDecimal builtins) with
        toPageViewModel := vm.showReady
        memory
        pci := panelOf pciLine "pciutils" (runTool machine.host "lspci" ["-mm"] 10)
        usb := panelOf (usbLine isDecimal) "usbutils" (runTool machine.host "lsusb" [] 10) } := by
    unfold HardwareViewModel.apply
    change (match formatMemory (readCpuMem builtins machine.root).memoryTotalKib with
      | .error _ => _
      | .ok memory => _) = _
    rw [told]
    rfl
  rw [applied]
  exact ⟨rfl, {
    family := rowGives_orText _
    machineType := rowGives_orText _
    board := rowGives_orText _
    biosVersion := rowGives_orText _
    biosDate := rowGives_orText _
    cpuModel := rowGives_orText _
    cpuCount := rowGives_cpuCountText (cpuCount_ne_zero machine.root)
    memory := gives
    pci := rfl
    usb := rfl }⟩

/-- Loading again leaves what is shown. -/
theorem Shows.load {machine : HardwareMachine} {vm : HardwareViewModel}
    (shows_ : Shows isDecimal builtins machine vm) : Shows isDecimal builtins machine vm.load :=
  { shows_ with }

theorem sound_opened : opened.Sound isDecimal builtins events where
  state := .inl ⟨rfl, .inl one_ne_zero⟩
  shown := .inl rfl
  coming _ member := absurd member List.not_mem_nil

theorem sound_step {event : HardwareEvent}
    (admitted : event ∈ events ∧ FromMachine isDecimal builtins event)
    (sound : system.Sound isDecimal builtins events) (taken : system.step event = some later) :
    later.Sound isDecimal builtins events := by
  obtain ⟨among, from_⟩ := admitted
  cases event with
  | load =>
    obtain rfl := Option.some.inj taken
    refine ⟨.inl ⟨rfl, .inl (Nat.succ_ne_zero _)⟩, ?_, sound.coming⟩
    rcases sound.shown with untouched | ⟨machine, found, shown⟩
    · exact .inl (by rw [untouched]; rfl)
    · exact .inr ⟨machine, found, shown.load⟩
  | gatherEnds answers =>
    obtain ⟨running, rfl⟩ := step_gatherEnds_iff.mp taken
    obtain ⟨machine, contains, measurable, rfl⟩ := from_
    rw [gather_answers isDecimal builtins contains]
    refine ⟨?_, sound.shown, fun outcome member => ?_⟩
    · rcases sound.state with ⟨loading, -⟩ | ready
      · exact .inl ⟨loading, .inr (by simp)⟩
      · exact .inr ready
    · rcases List.mem_append.mp member with before | own
      · exact sound.coming outcome before
      · exact ⟨machine, ⟨contains, measurable, among⟩, List.mem_singleton.mp own⟩
  | callback position =>
    obtain ⟨outcome, ended, rfl⟩ := step_callback_iff.mp taken
    obtain ⟨machine, found, rfl⟩ := sound.coming outcome (List.mem_of_getElem? ended)
    obtain ⟨ready, shown⟩ : (system.vm.apply (machine.data isDecimal builtins)).state = .ready ∧
        Shows isDecimal builtins machine (system.vm.apply (machine.data isDecimal builtins)) :=
      shows_apply found.measurable system.vm
    exact ⟨.inr ready, .inr ⟨machine, found, shown⟩,
      fun outcome member => sound.coming outcome (List.mem_of_mem_eraseIdx member)⟩

/-- A panel says nothing, or one of two things. -/
theorem panelOf_note {δ : Type} (parse : List Char → Option δ) (package : String)
    (outcome : Except ToolError String) :
    (panelOf parse package outcome).note ∈ ["", installText package, notReadText] := by
  unfold panelOf
  split
  · dsimp only
    split_ifs <;> simp
  · simp
  · simp

/-- Over machines whose tools are contained, whatever else becomes of the tools and in whatever
order gathers end and report, the page is loading while something is to come, and else ready. Once
ready it shows one machine as one of the gathers found it; while it loads it may be as it was
opened. Its notes name the missing package, or say that the inventory could not be read. -/
theorem hardware_page_ready (isDecimal : Char → Bool) (builtins : Builtins)
    (events : List HardwareEvent) (from_ : ∀ event ∈ events, FromMachine isDecimal builtins event)
    (system : HardwareSystem) (ran : runFrom step opened events = some system) :
    (system.vm.state = .loading ∧ (system.gathers ≠ 0 ∨ system.ended ≠ []) ∧
        (system.vm = ({} : HardwareViewModel).load ∨
          ShowsFound isDecimal builtins events system.vm) ∨
      system.vm.state = .ready ∧ ShowsFound isDecimal builtins events system.vm) ∧
    system.vm.pci.note ∈ ["", installText "pciutils", notReadText] ∧
    system.vm.usb.note ∈ ["", installText "usbutils", notReadText] := by
  have sound : system.Sound isDecimal builtins events :=
    invariant_runFrom_of (fun _ _ _ => sound_step) sound_opened
      (fun event among => ⟨among, from_ event among⟩) ran
  refine ⟨?_, ?_⟩
  · rcases sound.state with ⟨loading, pending⟩ | ready
    · exact .inl ⟨loading, pending, sound.shown⟩
    · refine .inr ⟨ready, sound.shown.resolve_left fun untouched => ?_⟩
      rw [untouched] at ready
      cases ready
  · rcases sound.shown with untouched | ⟨machine, -, shown⟩
    · rw [untouched]
      exact ⟨List.mem_cons_self, List.mem_cons_self⟩
    · rw [shown.pci, shown.usb]
      exact ⟨panelOf_note .., panelOf_note ..⟩

/-- A laptop with one device on its bus, and without `lsusb`. -/
def laptopMachine : HardwareMachine where
  root := laptop
  host :=
    { executable := fun path => path = "/usr/bin/lspci"
      spawn := fun _ _ => .exited 0 (encode
        "00:00.0 \"Host bridge\" \"AMD\" \"Phoenix Root Complex\" -r00 \"Lenovo\"\n".toList) [] }

theorem laptopMachine_contains : laptopMachine.Contains := by
  constructor <;> intro path found <;> exact id

theorem laptopMachine_measurable : laptopMachine.Measurable decimalBuiltins := by
  have known : (readCpuMem decimalBuiltins laptop).memoryTotalKib = some 15728640 := by
    decide +kernel
  intro kib member
  obtain rfl : kib = 15728640 := Option.some.inj (member.symm.trans known)
  decide

/-- A gather that reported, and one that is still to report. -/
theorem hardware_page_ready_laptop :
    let answers := laptopMachine.answers Char.isDigit decimalBuiltins
    let events : List HardwareEvent :=
      [.load, .gatherEnds answers, .callback 0, .gatherEnds answers]
    ∃ system, runFrom step opened events = some system ∧
      system.vm.memory = "15.0 GiB" ∧
      system.vm.pci.devices.length = 1 ∧ system.vm.usb.note = installText "usbutils" ∧
      (system.vm.state = .loading ∧ (system.gathers ≠ 0 ∨ system.ended ≠ []) ∧
          (system.vm = ({} : HardwareViewModel).load ∨
            ShowsFound Char.isDigit decimalBuiltins events system.vm) ∨
        system.vm.state = .ready ∧ ShowsFound Char.isDigit decimalBuiltins events system.vm) ∧
      system.vm.pci.note ∈ ["", installText "pciutils", notReadText] ∧
      system.vm.usb.note ∈ ["", installText "usbutils", notReadText] := by
  refine ⟨_, rfl, by decide +kernel, by decide +kernel, by decide +kernel,
    hardware_page_ready Char.isDigit decimalBuiltins
      [.load, .gatherEnds (laptopMachine.answers Char.isDigit decimalBuiltins), .callback 0,
        .gatherEnds (laptopMachine.answers Char.isDigit decimalBuiltins)] ?_ _ rfl⟩
  intro event member
  simp only [List.mem_cons, List.not_mem_nil, or_false] at member
  rcases member with rfl | rfl | rfl | rfl
  · trivial
  · exact ⟨laptopMachine, laptopMachine_contains, laptopMachine_measurable, rfl⟩
  · trivial
  · exact ⟨laptopMachine, laptopMachine_contains, laptopMachine_measurable, rfl⟩

end Ready

/-! ### No panel shows anything of the other -/

inductive Inventory
  | pci
  | usb

/-- The data without one panel. -/
def Inventory.clear (hidden : Inventory) (data : HardwareData) : HardwareData :=
  match hidden with
  | .pci => { data with pci := {} }
  | .usb => { data with usb := {} }

/-- An answer of which only a foreign exception can be told. -/
def hideOwn {δ : Type} : Except PyException (List δ) → Except PyException (List δ)
  | .ok _ | .error (.lapcare _) => .ok []
  | .error (.foreign className detail) => .error (.foreign className detail)

def Inventory.hide (hidden : Inventory) (answers : HardwareAnswers) : HardwareAnswers :=
  match hidden with
  | .pci => { answers with pci := hideOwn answers.pci }
  | .usb => { answers with usb := hideOwn answers.usb }

/-- The page without one panel. -/
def Inventory.cover (hidden : Inventory) (vm : HardwareViewModel) : HardwareViewModel :=
  match hidden with
  | .pci => { vm with pci := {} }
  | .usb => { vm with usb := {} }

def Inventory.view (hidden : Inventory) (system : HardwareSystem) : HardwareSystem where
  vm := hidden.cover system.vm
  gathers := system.gathers
  ended := system.ended.map (·.map hidden.clear)

def Inventory.look (hidden : Inventory) : HardwareEvent → HardwareEvent
  | .gatherEnds answers => .gatherEnds (hidden.hide answers)
  | event => event

section Confined

variable (hidden : Inventory)

theorem gather_hide (answers : HardwareAnswers) :
    (HardwareViewModel.gather (hidden.hide answers)).map hidden.clear =
      (HardwareViewModel.gather answers).map hidden.clear := by
  obtain ⟨identity, cpuMem, pci, usb⟩ := answers
  cases hidden with
  | pci =>
    rcases pci with (error | ⟨className, detail⟩) | devices <;>
      rcases usb with (error' | ⟨className', detail'⟩) | devices' <;> rfl
  | usb =>
    rcases pci with (error | ⟨className, detail⟩) | devices <;>
      rcases usb with (error' | ⟨className', detail'⟩) | devices' <;> rfl

theorem cover_complete (vm : HardwareViewModel) (outcome : Except PyException HardwareData) :
    hidden.cover ((hidden.cover vm).complete (outcome.map hidden.clear)) =
      hidden.cover (vm.complete outcome) := by
  cases outcome with
  | error e => cases hidden <;> rfl
  | ok data =>
    have same : (hidden.clear data).cpuMem = data.cpuMem := by cases hidden <;> rfl
    change hidden.cover ((hidden.cover vm).apply (hidden.clear data)) = hidden.cover (vm.apply data)
    unfold HardwareViewModel.apply
    rw [same]
    cases formatMemory data.cpuMem.memoryTotalKib <;> cases hidden <;> rfl

theorem clear_clear (outcomes : List (Except PyException HardwareData)) :
    (outcomes.map (·.map hidden.clear)).map (·.map hidden.clear) =
      outcomes.map (·.map hidden.clear) := by
  rw [List.map_map]
  refine List.map_congr_left fun outcome _ => ?_
  cases hidden <;> cases outcome <;> rfl

theorem view_step (system : HardwareSystem) (event : HardwareEvent) :
    (system.step event).map hidden.view =
      ((hidden.view system).step (hidden.look event)).map hidden.view := by
  cases event with
  | load =>
    simp only [step, Inventory.look, Inventory.view, Option.map_some, clear_clear]
    cases hidden <;> rfl
  | gatherEnds answers =>
    simp only [step, Inventory.look, Inventory.view]
    by_cases idle : system.gathers = 0
    · simp only [idle, ↓reduceIte, Option.map_none]
    · simp only [idle, ↓reduceIte, Option.map_some, Inventory.view, List.map_append, clear_clear,
        List.map_cons, List.map_nil, gather_hide]
      cases hidden <;> rfl
  | callback position =>
    have ended : (hidden.view system).ended[position]? =
        system.ended[position]?.map (·.map hidden.clear) := List.getElem?_map ..
    simp only [step, Inventory.look, ended]
    cases found : system.ended[position]? with
    | none => rfl
    | some outcome =>
      simp only [Option.map_some, Inventory.view, cover_complete, ← List.eraseIdx_map, clear_clear]

/-- What comes of one inventory, as long as it is the provider's own, is seen in its own panel
and nowhere else: every run leaves the rest of the page and all that is to come as they are
after the run in which this inventory was empty at each gather. -/
theorem hardware_panels_confined (events : List HardwareEvent) :
    (runFrom step opened events).map hidden.view =
      (runFrom step opened (events.map hidden.look)).map hidden.view := by
  have unwinds (system system' : HardwareSystem) (event event' : HardwareEvent) (_ _ : True)
      (same : hidden.view system = hidden.view system')
      (looks : hidden.look event = hidden.look event') :
      (system.step event).map hidden.view = (system'.step event').map hidden.view := by
    rw [view_step, view_step hidden system', same, looks]
  apply runFrom_alike (fun _ _ _ _ _ => trivial) unwinds trivial trivial rfl
  have twice (event : HardwareEvent) : hidden.look (hidden.look event) = hidden.look event := by
    cases event with
    | load | callback => rfl
    | gatherEnds answers =>
      obtain ⟨identity, cpuMem, pci, usb⟩ := answers
      cases hidden with
      | pci => rcases pci with (error | ⟨className, detail⟩) | devices <;> rfl
      | usb => rcases usb with (error | ⟨className, detail⟩) | devices <;> rfl
  simp [List.map_map, Function.comp_def, twice]

end Confined

end HardwareSystem

end Lapcare.Pages
