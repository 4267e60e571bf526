import Lapcare.Pages.FirmwareReload
import Lapcare.Providers.Fwupd

/-!
# The install flow

At most one refresh or install runs at a time, and the busy text is the lock. An install
that fwupd lets fail leaves the page as it was, with a banner or a toast on it, unless
the error comes up before the install itself.

## Main results

* `operations_exclusive` — what the flags say along every run, and when an install starts
* `install_failure_contained_iff` — the errors of fwupd that do not take the page down
-/

namespace Lapcare.Pages

open Lapcare.Core Semantics Providers

namespace FirmwareSystem

/-! ### What effects change -/

/-- Effects leave the view-model alone. -/
theorem after_vm (system : FirmwareSystem) (result : FirmwareViewModel × List Effect) :
    (system.after result).vm = result.1 := by
  have run (effects : List Effect) (start : FirmwareSystem) :
      (effects.foldl perform start).vm = start.vm := by
    induction effects generalizing start with
    | nil => rfl
    | cons effect effects ih =>
      rw [List.foldl_cons, ih]
      cases effect <;> rfl
  exact run result.2 _

/-- Only the effect that submits an install adds one. -/
theorem after_installs (system : FirmwareSystem) {result : FirmwareViewModel × List Effect}
    (idle : ∀ deviceId release, Effect.submitInstall deviceId release ∉ result.2) :
    (system.after result).installs = system.installs := by
  have run (effects : List Effect) (start : FirmwareSystem)
      (idle : ∀ deviceId release, Effect.submitInstall deviceId release ∉ effects) :
      (effects.foldl perform start).installs = start.installs := by
    induction effects generalizing start with
    | nil => rfl
    | cons effect effects ih =>
      rw [List.foldl_cons, ih _ fun deviceId release member =>
        idle deviceId release (List.mem_cons_of_mem _ member)]
      cases effect with
      | submitInstall deviceId release => exact absurd List.mem_cons_self (idle deviceId release)
      | submitGather | submitRefresh | startTimer => rfl
  exact run result.2 _ idle

/-! ### Mutual exclusion -/

/-- The page before anything happened to it. -/
def fresh : FirmwareSystem where
  vm := {}

/-- At most one refresh or install is under way, the busy text shows exactly that, and
the install flag that it is an install. -/
structure Exclusive (system : FirmwareSystem) : Prop where
  single : system.refreshes + system.installs.length ≤ 1
  busy : system.vm.busyText ≠ "" ↔ system.refreshes + system.installs.length = 1
  installing : system.vm.installing = true ↔ system.installs.length = 1

/-- The battery level is unknown, or the threshold is, or the level reaches it. -/
def ChargeAllows (level threshold : Option Int) : Prop :=
  (level = none ∨ ∃ known, level = some known ∧ unknownBatteryLevel ≤ known) ∨
    threshold = none ∨
    ∃ known minimum, level = some known ∧ threshold = some minimum ∧ minimum ≤ known

/-- If the event submits an install, it is a request, and the charge reported at that
moment allows it. -/
def SubmitsCharged (casing : Casing) (system : FirmwareSystem) (event : FirmwareEvent) : Prop :=
  ∀ later, system.step casing event = some later →
    system.installs.length < later.installs.length →
    ∃ deviceId release level threshold,
      event = .requestInstall deviceId release level threshold ∧ ChargeAllows level threshold

theorem chargeAllows_of_ok {level threshold : Option Int}
    (ok : batteryOkForUpdate level threshold = true) : ChargeAllows level threshold := by
  cases level with
  | none => exact .inl (.inl rfl)
  | some known =>
    cases threshold with
    | none => exact .inr (.inl rfl)
    | some minimum =>
      simp only [batteryOkForUpdate, Bool.or_eq_true, decide_eq_true_eq] at ok
      rcases ok with unknown | enough
      · exact .inl (.inr ⟨known, rfl, unknown⟩)
      · exact .inr (.inr ⟨known, minimum, rfl, rfl, enough⟩)

theorem Consistent.exclusive {system : FirmwareSystem} (consistent : system.Consistent) :
    system.Exclusive where
  single := consistent.single
  busy := consistent.busy
  installing := by
    rw [consistent.installs]
    cases system.vm.installing <;> decide

theorem consistent_fresh : fresh.Consistent :=
  ⟨rfl, rfl, by decide, by decide⟩

theorem submitsCharged_step (casing : Casing) (system : FirmwareSystem) (event : FirmwareEvent) :
    system.SubmitsCharged casing event := by
  intro later taken grows
  -- an event other than a request has no effect that submits an install
  have idle {result : FirmwareViewModel × List Effect} {start : FirmwareSystem}
      (few : start.installs.length ≤ system.installs.length)
      (none_submitted : ∀ deviceId release, Effect.submitInstall deviceId release ∉ result.2)
      (same : start.after result = later) : False := by
    rw [← same, after_installs start none_submitted] at grows
    omega
  cases event with
  | load => exact (idle le_rfl (by simp [FirmwareViewModel.load]) (Option.some.inj taken)).elim
  | changed =>
    refine (idle ?_ ?_ (Option.some.inj taken)).elim
    · exact le_rfl
    · unfold FirmwareViewModel.onChanged
      split_ifs <;> simp
  | timerFired =>
    obtain ⟨-, done⟩ := step_timerFired_iff.mp taken
    refine (idle ?_ ?_ done).elim
    · exact le_rfl
    · unfold FirmwareViewModel.reload
      split_ifs <;> simp
  | refreshMetadata =>
    refine (idle le_rfl ?_ (Option.some.inj taken)).elim
    unfold FirmwareViewModel.refreshMetadata
    split_ifs <;> simp
  | requestInstall deviceId release level threshold =>
    refine ⟨deviceId, release, level, threshold, rfl, ?_⟩
    by_cases ok : batteryOkForUpdate level threshold = true
    · exact chargeAllows_of_ok ok
    · refine (idle le_rfl ?_ (Option.some.inj taken)).elim
      simp only [FirmwareViewModel.requestInstall, ok]
      split_ifs <;> simp_all
  | progress percentage status =>
    obtain rfl := Option.some.inj taken
    exact absurd grows (lt_irrefl _)
  | gatherDone data =>
    obtain ⟨-, rfl⟩ := step_gatherDone_iff.mp taken
    exact absurd grows (lt_irrefl _)
  | gatherFailed e =>
    obtain ⟨-, rfl⟩ := step_gatherFailed_iff.mp taken
    exact absurd grows (lt_irrefl _)
  | refreshDone =>
    obtain ⟨-, done⟩ := step_refreshDone_iff.mp taken
    refine (idle ?_ ?_ done).elim
    · exact le_rfl
    · simp [FirmwareViewModel.refreshDone]
  | refreshFailed e =>
    obtain ⟨-, rfl⟩ := step_refreshFailed_iff.mp taken
    exact absurd grows (lt_irrefl _)
  | installDone position =>
    obtain ⟨release, -, done⟩ := step_installDone_iff.mp taken
    refine (idle ?_ ?_ done).elim
    · exact List.length_eraseIdx_le _ _
    · simp [FirmwareViewModel.installDone]
  | installFailed position e =>
    obtain ⟨release, -, done⟩ := step_installFailed_iff.mp taken
    refine (idle ?_ ?_ done).elim
    · exact List.length_eraseIdx_le _ _
    · rcases installFailed_effects system.vm e with ⟨effects, -⟩ | ⟨effects, -⟩ <;>
        simp [effects]

/-- Along every run from a fresh page at most one operation is under way, the flags say
which, and no install starts on a known charge below a known threshold. -/
theorem operations_exclusive (casing : Casing) (events : List FirmwareEvent) :
    AllStates (step casing) Exclusive fresh events ∧
      AllSteps (step casing) (SubmitsCharged casing) fresh events := by
  constructor
  · intro past _ system ran
    have consistent : system.Consistent :=
      invariant_runFrom (fun _ _ _ => consistent_step) consistent_fresh ran
    exact consistent.exclusive
  · intro past event _ system later _ _
    exact submitsCharged_step casing system event

/-! ### An install that fails -/

/-- Events that neither load the page, nor gather, nor end an install. -/
def LeavesPage : FirmwareEvent → Prop
  | .changed | .timerFired | .refreshMetadata | .requestInstall _ _ _ _ | .progress _ _
  | .refreshDone | .refreshFailed _ => True
  | .load | .gatherDone _ | .gatherFailed _ | .installDone _ | .installFailed _ _ => False

/-- Two states of the page show the same page state and the same cards. -/
def SamePage (system later : FirmwareSystem) : Prop :=
  later.vm.state = system.vm.state ∧ later.vm.cards = system.vm.cards

theorem samePage_step {casing : Casing} {system later : FirmwareSystem} {event : FirmwareEvent}
    (leaves : LeavesPage event) (taken : system.step casing event = some later) :
    system.SamePage later := by
  cases event with
  | changed =>
    obtain rfl := Option.some.inj taken
    rw [SamePage, after_vm]
    unfold FirmwareViewModel.onChanged
    split_ifs <;> exact ⟨rfl, rfl⟩
  | timerFired =>
    obtain ⟨-, rfl⟩ := step_timerFired_iff.mp taken
    rw [SamePage, after_vm]
    exact ⟨rfl, rfl⟩
  | refreshMetadata =>
    obtain rfl := Option.some.inj taken
    rw [SamePage, after_vm]
    unfold FirmwareViewModel.refreshMetadata
    split_ifs <;> exact ⟨rfl, rfl⟩
  | requestInstall deviceId release level threshold =>
    obtain rfl := Option.some.inj taken
    rw [SamePage, after_vm]
    unfold FirmwareViewModel.requestInstall
    split_ifs <;> exact ⟨rfl, rfl⟩
  | progress percentage status =>
    obtain rfl := Option.some.inj taken
    unfold FirmwareViewModel.onProgress SamePage
    dsimp only
    split_ifs <;> exact ⟨rfl, rfl⟩
  | refreshDone =>
    obtain ⟨-, rfl⟩ := step_refreshDone_iff.mp taken
    rw [SamePage, after_vm]
    exact ⟨rfl, rfl⟩
  | refreshFailed e =>
    obtain ⟨-, rfl⟩ := step_refreshFailed_iff.mp taken
    exact ⟨rfl, rfl⟩
  | load | gatherDone | gatherFailed | installDone | installFailed => exact leaves.elim

theorem samePage_runFrom {casing : Casing} {system later : FirmwareSystem}
    {events : List FirmwareEvent} (leave : ∀ event ∈ events, LeavesPage event)
    (ran : runFrom (step casing) system events = some later) : system.SamePage later := by
  induction events using List.reverseRecOn generalizing later with
  | nil =>
    obtain rfl := Option.some.inj ran
    exact ⟨rfl, rfl⟩
  | append_singleton events event ih =>
    obtain ⟨between, reached, taken⟩ := runFrom_concat_eq_some ran
    have before := ih (fun other member => leave other (by simp [member])) reached
    have last := samePage_step (leave event (by simp)) taken
    exact ⟨last.1.trans before.1, last.2.trans before.2⟩

/-- The page offers to try again, or says that the update was cancelled. -/
def ShowsFailure (vm : FirmwareViewModel) : Prop :=
  (∃ detail : String, vm.flowBanner = s!"The firmware update failed: {detail} — you can retry.") ∨
    vm.toastText = "Firmware update cancelled."

/-- What `_install_failed` makes of an install failure. -/
theorem installFailed_contained (vm : FirmwareViewModel) {e : PyException}
    (failure : IsInstallFailure e) :
    (vm.installFailed e).1.state = vm.state ∧ (vm.installFailed e).1.cards = vm.cards ∧
      (vm.installFailed e).1.busyText = "" ∧ ShowsFailure (vm.installFailed e).1 := by
  rcases failure with ⟨deviceId, detail, rfl⟩ | ⟨action, rfl⟩
  · exact ⟨rfl, rfl, rfl, .inl ⟨detail, rfl⟩⟩
  · exact ⟨rfl, rfl, rfl, .inr rfl⟩

/-- In every run in which an install is accepted on a ready page and then ends with `e`,
the page stays ready with its cards, is idle again and shows what happened. -/
def PageContains (casing : Casing) (deviceId : String) (release : FirmwareRelease)
    (e : PyException) : Prop :=
  ∀ (start requested before ended : FirmwareSystem) (level threshold : Option Int)
    (events : List FirmwareEvent) (position : ℕ),
    start.vm.state = .ready →
    start.step casing (.requestInstall deviceId release level threshold) = some requested →
    start.installs.length < requested.installs.length →
    (∀ event ∈ events, LeavesPage event) →
    runFrom (step casing) requested events = some before →
    before.step casing (.installFailed position e) = some ended →
    ended.vm.state = .ready ∧ ended.vm.cards = start.vm.cards ∧ ended.vm.busyText = "" ∧
      ShowsFailure ended.vm

theorem pageContains_of_failure {casing : Casing} {deviceId : String} {release : FirmwareRelease}
    {e : PyException} (failure : IsInstallFailure e) :
    PageContains casing deviceId release e := by
  intro start requested before ended level threshold events position ready request _ leave ran ends
  have leaves : LeavesPage (.requestInstall deviceId release level threshold) := trivial
  have asked := samePage_step leaves request
  have waited := samePage_runFrom leave ran
  obtain ⟨state, cards, idle, shown⟩ := installFailed_contained before.vm failure
  have now : ended.vm = (before.vm.installFailed e).1 := by
    obtain ⟨release, -, rfl⟩ := step_installFailed_iff.mp ends
    rw [after_vm]
  rw [now]
  exact ⟨state.trans (waited.1.trans (asked.1.trans ready)),
    cards.trans (waited.2.trans asked.2), idle, shown⟩

/-- `install` raises an install failure or a denial, and the page contains it. -/
def InstallContained (casing : Casing) (client : FwupdClient) (deviceId : String)
    (release : FirmwareRelease) : Prop :=
  ∃ e, client.install deviceId release.version = .error e ∧ IsInstallFailure e ∧
    PageContains casing deviceId release e

/-- An error of fwupd, at whatever step of an install, does not take the page down exactly
when device and release could be looked up before it. -/
theorem install_failure_contained_iff (casing : Casing) {client : FwupdClient}
    {deviceId : String} {release : FirmwareRelease} {error : GLibError}
    (raises : client.raised deviceId release.version = some (.glib error)) :
    InstallContained casing client deviceId release ↔ client.Resolves deviceId := by
  rw [← client.install_failure_iff raises]
  constructor
  · rintro ⟨e, raised, failure, -⟩
    exact ⟨e, raised, failure⟩
  · rintro ⟨e, raised, failure⟩
    exact ⟨e, raised, failure, pageContains_of_failure failure⟩

/-- A device whose last release was withdrawn: fwupd has nothing to do for it. -/
def nothingToDoClient : FwupdClient where
  getDeviceById id := .ok { id := some id }
  getUpgrades _ := .error (.glib ⟨.fwupd .nothingToDo, "no upgrades"⟩)
  installRelease _ _ := .ok ()

/-- The page of one device, with a release on its card. -/
def biosPage : FirmwareSystem :=
  loaded [({ id := "bios", updatable := true }, [biosUpdate], "")]

/-- What the listing takes as data takes the page down in an install. -/
theorem install_of_withdrawn_release_unavailable :
    nothingToDoClient.raised "bios" "1.2" =
        some (.glib ⟨.fwupd .nothingToDo, "no upgrades"⟩) ∧
      nothingToDoClient.listUpgrades "bios" = .ok [] ∧
      nothingToDoClient.install "bios" "1.2" = .error (.lapcare fwupdUnavailable) ∧
      biosPage.vm.state = .ready ∧
      (runFrom (step asciiCasing) biosPage
          [.requestInstall "bios" biosUpdate none none,
            .installFailed 0 (.lapcare fwupdUnavailable)]).map (·.vm.state) =
        some .unavailable ∧
      ¬ InstallContained asciiCasing nothingToDoClient "bios" biosUpdate := by
  refine ⟨rfl, rfl, rfl, rfl, rfl, ?_⟩
  rintro ⟨e, raised, failure, -⟩
  obtain rfl := Except.error.inj raised
  exact not_isInstallFailure_unavailable failure

/-- A release that fwupd refuses to write. -/
def badChecksumClient : FwupdClient where
  getDeviceById id := .ok { id := some id }
  getUpgrades _ := .ok [{ version := some "1.2" }]
  installRelease _ _ := .error (.glib ⟨.fwupd (.other 7), "bad checksum"⟩)

theorem install_of_bad_checksum_contained :
    InstallContained asciiCasing badChecksumClient "bios" biosUpdate := by
  have raises : badChecksumClient.raised "bios" biosUpdate.version =
      some (.glib ⟨.fwupd (.other 7), "bad checksum"⟩) := rfl
  exact (install_failure_contained_iff asciiCasing raises).mpr ⟨⟨_, rfl⟩, _, rfl⟩

end FirmwareSystem

end Lapcare.Pages
