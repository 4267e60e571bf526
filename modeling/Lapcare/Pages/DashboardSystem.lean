import Mathlib.Data.List.InsertIdx
import Lapcare.Pages.DashboardIdentity
import Lapcare.Semantics.Transition

/-!
# The dashboard in its environment

Every load submits two coroutines: a gather for the identity rows, and a health run for the
score card. They end and report in any order, and so do those of several loads.

## Main results

* `dashboard_halves_independent` — neither half of the page notices the other
* `dashboard_rows_of_machine` — the rows are of the machine, as soon as the gathers reported
-/

namespace Lapcare.Pages

open Lapcare.Core Semantics Platform Providers

structure DashboardSystem where
  page : DashboardPage := {}
  /-- The gathers that run. -/
  gathers : ℕ := 0
  /-- The gathers that ended, before their callback. -/
  gathered : List (Except PyException DashboardData) := []
  /-- The health runs that run. -/
  scorings : List (Gather DiagnosticsReport) := []
  /-- The health runs that ended, before their callback. -/
  scored : List (Except PyException DiagnosticsReport) := []

/-- What can happen next. A health run that ends has found its providers with `calls` behind
them. -/
inductive DashboardEvent
  | load
  | gatherEnds (answers : DashboardAnswers)
  | gatherCallback (position : ℕ)
  | scoringEnds (position : ℕ) (calls : List ProviderCall)
  | scoringCallback (position : ℕ)

/-- The event is one of a gather, or starts one. -/
def DashboardEvent.ofIdentity : DashboardEvent → Bool
  | .load | .gatherEnds _ | .gatherCallback _ => true
  | .scoringEnds _ _ | .scoringCallback _ => false

/-- The event is one of a health run, or starts one. -/
def DashboardEvent.ofHealth : DashboardEvent → Bool
  | .load | .scoringEnds _ _ | .scoringCallback _ => true
  | .gatherEnds _ | .gatherCallback _ => false

namespace DashboardSystem

section Step

variable (ports : DashboardPorts)

/-- One event, when it can happen. -/
def step (system : DashboardSystem) : DashboardEvent → Option DashboardSystem
  | .load =>
      let (vm, run) := system.page.toDashboardViewModel.load ports
      some { system with
        page := { system.page with toDashboardViewModel := vm }
        gathers := system.gathers + 1
        scorings := system.scorings ++ [run] }
  | .gatherEnds answers =>
      if system.gathers = 0 then none
      else
        some { system with
          gathers := system.gathers - 1
          gathered := system.gathered ++ [DashboardPage.gather answers] }
  | .gatherCallback position =>
      match system.gathered[position]? with
      | none => none
      | some outcome =>
          some { system with
            gathered := system.gathered.eraseIdx position
            page := system.page.complete outcome }
  | .scoringEnds position calls =>
      match system.scorings[position]? with
      | none => none
      | some run =>
          some { system with
            scorings := system.scorings.eraseIdx position
            scored := system.scored ++ [(Logged.exec run calls).1] }
  | .scoringCallback position =>
      match system.scored[position]? with
      | none => none
      | some outcome =>
          some { system with
            scored := system.scored.eraseIdx position
            page := system.page.completeHealth outcome }

end Step

/-- The page as its view leaves it: loaded once. -/
def opened (ports : DashboardPorts) : DashboardSystem where
  page := { toDashboardViewModel := (({} : DashboardViewModel).load ports).1 }
  gathers := 1
  scorings := [(({} : DashboardViewModel).load ports).2]

section Inversion

variable {ports : DashboardPorts} {system later : DashboardSystem} {position : ℕ}

theorem step_gatherEnds_iff {answers : DashboardAnswers} :
    system.step ports (.gatherEnds answers) = some later ↔ system.gathers ≠ 0 ∧
      { system with
        gathers := system.gathers - 1
        gathered := system.gathered ++ [DashboardPage.gather answers] } = later := by
  simp only [step, Option.ite_none_left_eq_some, Option.some.injEq, ne_eq]

theorem step_gatherCallback_iff :
    system.step ports (.gatherCallback position) = some later ↔
      ∃ outcome, system.gathered[position]? = some outcome ∧
        { system with
          gathered := system.gathered.eraseIdx position
          page := system.page.complete outcome } = later := by
  rw [step]
  cases system.gathered[position]? <;> simp

theorem step_scoringEnds_iff {calls : List ProviderCall} :
    system.step ports (.scoringEnds position calls) = some later ↔
      ∃ run, system.scorings[position]? = some run ∧
        { system with
          scorings := system.scorings.eraseIdx position
          scored := system.scored ++ [(Logged.exec run calls).1] } = later := by
  rw [step]
  cases system.scorings[position]? <;> simp

theorem step_scoringCallback_iff :
    system.step ports (.scoringCallback position) = some later ↔
      ∃ outcome, system.scored[position]? = some outcome ∧
        { system with
          scored := system.scored.eraseIdx position
          page := system.page.completeHealth outcome } = later := by
  rw [step]
  cases system.scored[position]? <;> simp

end Inversion

/-! ### The two halves -/

/-- What the gathers decide: the state of the page, its rows, and their own pending work. -/
structure IdentityHalf where
  state : PageViewModel
  rows : IdentityRows
  gathers : ℕ
  gathered : List (Except PyException DashboardData)

def identityHalf (system : DashboardSystem) : IdentityHalf where
  state := system.page.toPageViewModel
  rows := system.page.rows
  gathers := system.gathers
  gathered := system.gathered

/-- What the health runs decide: the score card, and their own pending work. -/
structure HealthHalf where
  score : String
  coverage : String
  scorings : List (Gather DiagnosticsReport)
  scored : List (Except PyException DiagnosticsReport)

def healthHalf (system : DashboardSystem) : HealthHalf where
  score := system.page.healthScore
  coverage := system.page.healthCoverage
  scorings := system.scorings
  scored := system.scored

section Halves

variable {ports : DashboardPorts}

/-- A health run does not touch the state of the page, nor its rows. -/
theorem completeHealth_identity (page : DashboardPage)
    (outcome : Except PyException DiagnosticsReport) :
    (page.completeHealth outcome).toPageViewModel = page.toPageViewModel ∧
      (page.completeHealth outcome).rows = page.rows := by
  cases outcome with
  | error e => exact ⟨rfl, rfl⟩
  | ok report =>
    unfold DashboardPage.completeHealth DashboardViewModel.applyHealth
    dsimp only
    split <;> exact ⟨rfl, rfl⟩

/-- A gather does not touch the score card. -/
theorem complete_health (page : DashboardPage) (outcome : Except PyException DashboardData) :
    (page.complete outcome).healthScore = page.healthScore ∧
      (page.complete outcome).healthCoverage = page.healthCoverage := by
  cases outcome with
  | error e => exact ⟨rfl, rfl⟩
  | ok data =>
    unfold DashboardPage.complete DashboardPage.apply
    dsimp only
    split <;> exact ⟨rfl, rfl⟩

/-- What a health run shows depends on nothing but the card before it. -/
theorem completeHealth_health {page page' : DashboardPage}
    (score : page.healthScore = page'.healthScore)
    (coverage : page.healthCoverage = page'.healthCoverage)
    (outcome : Except PyException DiagnosticsReport) :
    (page.completeHealth outcome).healthScore = (page'.completeHealth outcome).healthScore ∧
      (page.completeHealth outcome).healthCoverage =
        (page'.completeHealth outcome).healthCoverage := by
  cases outcome with
  | error e => exact ⟨score, coverage⟩
  | ok report =>
    simp only [DashboardPage.completeHealth, DashboardViewModel.applyHealth]
    cases report.score
    · exact ⟨score, coverage⟩
    · exact ⟨rfl, rfl⟩

theorem strand_identity : Strand (step ports) identityHalf (·.ofIdentity) where
  rest system event later other taken := by
    cases event with
    | load | gatherEnds | gatherCallback => cases other
    | scoringEnds position calls =>
      obtain ⟨run, -, rfl⟩ := step_scoringEnds_iff.mp taken
      rfl
    | scoringCallback position =>
      obtain ⟨outcome, -, rfl⟩ := step_scoringCallback_iff.mp taken
      obtain ⟨state, rows⟩ := completeHealth_identity system.page outcome
      simp only [identityHalf, state, rows]
  mine system system' event own same := by
    obtain ⟨state, rows, gathers, gathered⟩ := IdentityHalf.mk.inj same
    cases event with
    | scoringEnds | scoringCallback => cases own
    | load =>
      refine congrArg some ?_
      simp only [identityHalf, gathers, gathered, rows]
      rw [show system.page.showLoading = system'.page.showLoading by rw [state]]
    | gatherEnds answers =>
      simp only [step, gathers]
      split_ifs
      · rfl
      · exact congrArg some (by simp only [identityHalf, state, rows, gathered])
    | gatherCallback position =>
      simp only [step, gathered]
      cases system'.gathered[position]? with
      | none => rfl
      | some outcome =>
        refine congrArg some ?_
        cases outcome with
        | ok data =>
          simp only [identityHalf, DashboardPage.complete, DashboardPage.apply, rows, gathers]
          cases formatUptime data.os.uptimeSeconds with
          | error e => simp only [state]
          | ok uptime => simp only [state]
        | error e => simp only [identityHalf, DashboardPage.complete, state, rows, gathers]

theorem strand_health : Strand (step ports) healthHalf (·.ofHealth) where
  rest system event later other taken := by
    cases event with
    | load | scoringEnds | scoringCallback => cases other
    | gatherEnds answers =>
      obtain ⟨-, rfl⟩ := step_gatherEnds_iff.mp taken
      rfl
    | gatherCallback position =>
      obtain ⟨outcome, -, rfl⟩ := step_gatherCallback_iff.mp taken
      obtain ⟨score, coverage⟩ := complete_health system.page outcome
      simp only [healthHalf, score, coverage]
  mine system system' event own same := by
    obtain ⟨score, coverage, scorings, scored⟩ := HealthHalf.mk.inj same
    cases event with
    | gatherEnds | gatherCallback => cases own
    | load =>
      refine congrArg some ?_
      simp only [healthHalf, score, coverage, scorings, scored]
    | scoringEnds position calls =>
      simp only [step, scorings]
      cases system'.scorings[position]? with
      | none => rfl
      | some run => exact congrArg some (by simp only [healthHalf, score, coverage, scored])
    | scoringCallback position =>
      simp only [step, scored]
      cases system'.scored[position]? with
      | none => rfl
      | some outcome =>
        obtain ⟨shown, covered⟩ := completeHealth_health score coverage outcome
        exact congrArg some (by simp only [healthHalf, shown, covered, scorings])

end Halves

/-- In every run the state and the rows of the page are those of the run without any step of a
health run, and the score card is that of the run without any step of a gather: however slow one
half is, and however it fails, the other does not notice. -/
theorem dashboard_halves_independent (ports : DashboardPorts) (events : List DashboardEvent)
    (system : DashboardSystem) (ran : runFrom (step ports) (opened ports) events = some system) :
    (∃ alone, runFrom (step ports) (opened ports) (events.filter (·.ofIdentity)) = some alone ∧
      alone.identityHalf = system.identityHalf) ∧
    ∃ alone, runFrom (step ports) (opened ports) (events.filter (·.ofHealth)) = some alone ∧
      alone.healthHalf = system.healthHalf :=
  ⟨strand_identity.runFrom_filter ran, strand_health.runFrom_filter ran⟩

/-- One battery with nine tenths of its capacity. -/
def batteryPorts : DashboardPorts where
  batteryWear := some ⟨fun _ =>
    .ok [{ name := "BAT0", capacityFull := some 45000000, capacityDesign := some 50000000 }]⟩

/-- A health run that scores the battery while the gather is still running. -/
theorem dashboard_halves_independent_scored :
    let events : List DashboardEvent := [.scoringEnds 0 [], .scoringCallback 0,
      .gatherEnds (dashboardAnswers id decimalBuiltins laptop), .gatherCallback 0]
    ∃ system, runFrom (step batteryPorts) (opened batteryPorts) events = some system ∧
      system.page.healthScore ≠ "" ∧ system.page.rows ≠ {} ∧
      (∃ alone, runFrom (step batteryPorts) (opened batteryPorts)
          (events.filter (·.ofIdentity)) = some alone ∧
        alone.identityHalf = system.identityHalf) ∧
      ∃ alone, runFrom (step batteryPorts) (opened batteryPorts)
          (events.filter (·.ofHealth)) = some alone ∧
        alone.healthHalf = system.healthHalf :=
  ⟨_, rfl, by decide +kernel, by decide +kernel, dashboard_halves_independent batteryPorts
    [.scoringEnds 0 [], .scoringCallback 0,
      .gatherEnds (dashboardAnswers id decimalBuiltins laptop), .gatherCallback 0] _ rfl⟩

/-! ### The rows -/

section Rows

variable (upper : List Char → List Char) (builtins : Builtins)

/-- The gather found a machine with a clock. -/
def FromMachine : DashboardEvent → Prop
  | .gatherEnds answers =>
      ∃ root, Clocked builtins root ∧ answers = dashboardAnswers upper builtins root
  | .load | .gatherCallback _ | .scoringEnds _ _ | .scoringCallback _ => True

/-- One of the events is a gather that found this machine. -/
structure Found (events : List DashboardEvent) (root : Root) : Prop where
  clocked : Clocked builtins root
  among : .gatherEnds (dashboardAnswers upper builtins root) ∈ events

/-- A machine that was found says this of its firmware, or nothing was said. -/
def BiosOf (events : List DashboardEvent) (text : String) : Prop :=
  text = "—" ∨ ∃ root, Found upper builtins events root ∧ BiosReads root text

/-- The rows tell of a machine that was found. -/
def RowsOf (events : List DashboardEvent) (rows : IdentityRows) : Prop :=
  ∃ root, Found upper builtins events root ∧
    RowsTell upper builtins root (BiosOf upper builtins events) rows

/-- The page is loading while a gather is to report, and then its rows may be untouched; it is
ready else. What is to come is of machines. -/
structure Sound (events : List DashboardEvent) (system : DashboardSystem) : Prop where
  state : system.page.state = .loading ∧ (system.gathers ≠ 0 ∨ system.gathered ≠ []) ∨
    system.page.state = .ready
  rows : system.page.state = .loading ∧ system.page.rows = {} ∨
    RowsOf upper builtins events system.page.rows
  coming : ∀ outcome ∈ system.gathered, ∃ root, Found upper builtins events root ∧
    outcome = .ok (dashboardData upper builtins root)

variable {upper builtins} {ports : DashboardPorts} {events : List DashboardEvent}
  {system later : DashboardSystem}

/-- The firmware text is of some machine, if not of the one that the other rows are of. -/
theorem RowsOf.bios {rows : IdentityRows} (rowsOf : RowsOf upper builtins events rows) :
    BiosOf upper builtins events rows.bios := by
  obtain ⟨root, found, tell⟩ := rowsOf
  exact tell.bios.elim (fun reads => .inr ⟨root, found, reads⟩) (·.2)

theorem sound_opened : (opened ports).Sound upper builtins events where
  state := .inl ⟨rfl, .inl one_ne_zero⟩
  rows := .inl ⟨rfl, rfl⟩
  coming _ member := absurd member List.not_mem_nil

theorem sound_step {event : DashboardEvent}
    (admitted : event ∈ events ∧ FromMachine upper builtins event)
    (sound : system.Sound upper builtins events)
    (taken : system.step ports event = some later) : later.Sound upper builtins events := by
  obtain ⟨among, from_⟩ := admitted
  cases event with
  | load =>
    obtain rfl := Option.some.inj taken
    exact ⟨.inl ⟨rfl, .inl (Nat.succ_ne_zero _)⟩, sound.rows.imp_left fun shown => ⟨rfl, shown.2⟩,
      sound.coming⟩
  | gatherEnds answers =>
    obtain ⟨running, rfl⟩ := step_gatherEnds_iff.mp taken
    obtain ⟨root, clocked, rfl⟩ := from_
    refine ⟨?_, sound.rows, fun outcome member => ?_⟩
    · rcases sound.state with ⟨loading, -⟩ | ready
      · exact .inl ⟨loading, .inr (by simp)⟩
      · exact .inr ready
    · rcases List.mem_append.mp member with before | own
      · exact sound.coming outcome before
      · exact ⟨root, ⟨clocked, among⟩, List.mem_singleton.mp own⟩
  | gatherCallback position =>
    obtain ⟨outcome, ended, rfl⟩ := step_gatherCallback_iff.mp taken
    obtain ⟨root, found, rfl⟩ := sound.coming outcome (List.mem_of_getElem? ended)
    obtain ⟨rows, applied, tell⟩ := apply_of_clocked upper found.clocked system.page
    have bios : BiosOf upper builtins events system.page.rows.bios := by
      rcases sound.rows with ⟨-, untouched⟩ | shown
      · exact .inl (by rw [untouched]; rfl)
      · exact shown.bios
    have completed : system.page.complete (.ok (dashboardData upper builtins root)) =
        { system.page with rows, toPageViewModel := system.page.showReady } := applied
    refine ⟨?_, ?_, fun outcome member => sound.coming outcome (List.mem_of_mem_eraseIdx member)⟩
    · rw [completed]
      exact .inr rfl
    · rw [completed]
      exact .inr ⟨root, found, tell.mono fun text same => same ▸ bios⟩
  | scoringEnds position calls =>
    obtain ⟨run, -, rfl⟩ := step_scoringEnds_iff.mp taken
    exact ⟨sound.state, sound.rows, sound.coming⟩
  | scoringCallback position =>
    obtain ⟨outcome, -, rfl⟩ := step_scoringCallback_iff.mp taken
    obtain ⟨state, rows⟩ := completeHealth_identity system.page outcome
    refine ⟨?_, ?_, sound.coming⟩
    · dsimp only
      rw [state]
      exact sound.state
    · dsimp only
      rw [state, rows]
      exact sound.rows

end Rows

/-- Over machines with clocks, in whatever order gathers and health runs end and report, the page
is loading only while a gather is to report, and else ready. Its rows are untouched while it loads
for the first time, and else tell of a machine that one of the gathers found, the firmware at
least of some such machine. -/
theorem dashboard_rows_of_machine (upper : List Char → List Char) (builtins : Builtins)
    (ports : DashboardPorts) (events : List DashboardEvent)
    (from_ : ∀ event ∈ events, FromMachine upper builtins event) (system : DashboardSystem)
    (ran : runFrom (step ports) (opened ports) events = some system) :
    (system.page.state = .loading ∧ (system.gathers ≠ 0 ∨ system.gathered ≠ []) ∨
      system.page.state = .ready) ∧
    (system.page.state = .loading ∧ system.page.rows = {} ∨
      ∃ root, Found upper builtins events root ∧
        RowsTell upper builtins root (BiosOf upper builtins events) system.page.rows) := by
  have sound : system.Sound upper builtins events :=
    invariant_runFrom_of (fun _ _ _ => sound_step) sound_opened
      (fun event among => ⟨among, from_ event among⟩) ran
  exact ⟨sound.state, sound.rows⟩

theorem clocked_laptop : Clocked decimalBuiltins laptop := by
  have known : (readOs decimalBuiltins laptop).uptimeSeconds =
      some (.finite (9378412 / 100)) := by decide +kernel
  intro uptime member
  rw [known] at member
  exact ⟨_, (Option.some.inj member).symm, by norm_num⟩

/-- A laptop, and a load that is not answered yet. -/
theorem dashboard_rows_of_machine_laptop :
    let events : List DashboardEvent :=
      [.gatherEnds (dashboardAnswers id decimalBuiltins laptop), .gatherCallback 0, .load]
    ∃ system, runFrom (step batteryPorts) (opened batteryPorts) events = some system ∧
      system.page.rows.model = "ThinkPad T14 Gen 4" ∧ system.page.rows.uptime = "1d 2h 3m" ∧
      (system.page.state = .loading ∧ (system.gathers ≠ 0 ∨ system.gathered ≠ []) ∨
        system.page.state = .ready) ∧
      (system.page.state = .loading ∧ system.page.rows = {} ∨
        ∃ root, Found id decimalBuiltins events root ∧
          RowsTell id decimalBuiltins root (BiosOf id decimalBuiltins events)
            system.page.rows) := by
  refine ⟨_, rfl, by decide +kernel, by decide +kernel,
    dashboard_rows_of_machine id decimalBuiltins batteryPorts
      [.gatherEnds (dashboardAnswers id decimalBuiltins laptop), .gatherCallback 0, .load]
      ?_ _ rfl⟩
  intro event member
  simp only [List.mem_cons, List.not_mem_nil, or_false] at member
  rcases member with rfl | rfl | rfl
  · exact ⟨laptop, clocked_laptop, rfl⟩
  · trivial
  · trivial

end DashboardSystem

end Lapcare.Pages
