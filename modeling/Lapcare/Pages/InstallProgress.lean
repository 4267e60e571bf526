import Lapcare.Pages.InstallSession

/-!
# The progress of an install

fwupd signals how far a flash is, at any time and in any amount. The page shows it in the busy
text. Nothing else of the page, of the installs or of their order depends on it.

## Main results

* `progress_confined` — progress is seen in the busy text of a running install, nowhere else
-/

namespace Lapcare.Pages

open Lapcare.Core Semantics Providers

def FirmwareViewModel.telling (vm : FirmwareViewModel) (busyText : String) : FirmwareViewModel :=
  { vm with busyText }

/-- The page without the progress of an install. -/
def FirmwareViewModel.quiet (vm : FirmwareViewModel) : FirmwareViewModel :=
  vm.telling (if vm.installing then installingText else vm.busyText)

/-- The page with another view-model. -/
def FirmwareSystem.showing (page : FirmwareSystem) (vm : FirmwareViewModel) : FirmwareSystem :=
  { page with vm }

def FirmwareSystem.quiet (page : FirmwareSystem) : FirmwareSystem :=
  page.showing page.vm.quiet

section Quiet

/-- Effects do not look at the view-model. -/
theorem foldl_perform (effects : List Effect) (page : FirmwareSystem) (vm : FirmwareViewModel) :
    effects.foldl FirmwareSystem.perform (page.showing vm) =
      (effects.foldl FirmwareSystem.perform page).showing vm := by
  induction effects generalizing page with
  | nil => rfl
  | cons effect effects ih =>
    rw [List.foldl_cons, List.foldl_cons, ← ih]
    cases effect <;> rfl

theorem after_eq_showing (page : FirmwareSystem) (result : FirmwareViewModel × List Effect) :
    page.after result = (result.2.foldl FirmwareSystem.perform page).showing result.1 :=
  foldl_perform result.2 page result.1

/-- Methods that agree, progress apart, leave pages that agree. -/
theorem quiet_after (page : FirmwareSystem) (shown : FirmwareViewModel)
    {result result' : FirmwareViewModel × List Effect} (vm : result.1.quiet = result'.1.quiet)
    (effects : result.2 = result'.2) :
    (page.after result).quiet = ((page.showing shown).after result').quiet := by
  rw [after_eq_showing, after_eq_showing, foldl_perform, ← effects]
  change FirmwareSystem.showing _ result.1.quiet = FirmwareSystem.showing _ result'.1.quiet
  rw [vm]
  rfl

/-- Without an install there is no progress to hide. -/
theorem quiet_eq_self {page : FirmwareSystem} (idle : page.vm.installing = false) :
    page.quiet = page := by
  rw [FirmwareSystem.quiet, FirmwareViewModel.quiet, if_neg (Bool.eq_false_iff.mp idle)]
  rfl

theorem quiet_of_installing {page : FirmwareSystem} (installing : page.vm.installing = true) :
    page.quiet = page.showing (page.vm.telling FirmwareViewModel.installingText) := by
  rw [FirmwareSystem.quiet, FirmwareViewModel.quiet, if_pos installing]

/-- While an install runs the page is locked, whatever its progress is. -/
theorem busy_of_installing {page : FirmwareSystem} (consistent : page.Consistent)
    (installing : page.vm.installing = true) : page.vm.busyText ≠ "" := by
  have one := consistent.installs
  have single := consistent.single
  rw [installing, Bool.toNat_true] at one
  exact consistent.busy.mpr (by omega)

/-- Methods of a page that runs an install, with another text on it: they look at nothing but
the lock. -/
theorem quiet_methods {vm : FirmwareViewModel} (installing : vm.installing = true) (text : String) :
    let other := vm.telling text
    vm.load.1.quiet = other.load.1.quiet ∧
    vm.onChanged.1.quiet = other.onChanged.1.quiet ∧ vm.onChanged.2 = other.onChanged.2 ∧
    vm.reload.1.quiet = other.reload.1.quiet ∧ vm.reload.2 = other.reload.2 ∧
    (∀ data, (vm.apply data).quiet = (other.apply data).quiet) ∧
    (∀ e, (vm.loadFailed e).quiet = (other.loadFailed e).quiet) ∧
    vm.refreshDone.1.quiet = other.refreshDone.1.quiet ∧
    vm.refreshFailed.quiet = other.refreshFailed.quiet := by
  refine ⟨?_, ?_, ?_, ?_, ?_, fun data => ?_, fun e => ?_, ?_, ?_⟩
  · simp [FirmwareViewModel.quiet, FirmwareViewModel.telling, FirmwareViewModel.load, installing]
  · simp [FirmwareViewModel.quiet, FirmwareViewModel.telling,
      FirmwareViewModel.onChanged, installing]
  · simp [FirmwareViewModel.telling, FirmwareViewModel.onChanged, installing]
  · simp [FirmwareViewModel.quiet, FirmwareViewModel.telling, FirmwareViewModel.reload, installing]
  · simp [FirmwareViewModel.telling, FirmwareViewModel.reload, installing]
  · unfold FirmwareViewModel.apply
    split_ifs <;> simp [FirmwareViewModel.quiet, FirmwareViewModel.telling, installing]
  · simp [FirmwareViewModel.quiet, FirmwareViewModel.telling,
      FirmwareViewModel.loadFailed, installing]
  · simp [FirmwareViewModel.quiet, FirmwareViewModel.telling,
      FirmwareViewModel.refreshDone, installing]
  · simp [FirmwareViewModel.quiet, FirmwareViewModel.telling,
      FirmwareViewModel.refreshFailed, installing]

/-- A quiet page takes the steps of the page, as far as they do not come from an install. -/
theorem quiet_elsewhere (casing : Casing) {page : FirmwareSystem} (consistent : page.Consistent)
    {event : FirmwareEvent} (outside : event.ofInstall = false) :
    (page.step casing event).map FirmwareSystem.quiet =
      (page.quiet.step casing event).map FirmwareSystem.quiet := by
  cases installing : page.vm.installing with
  | false => rw [quiet_eq_self installing]
  | true =>
    have busy := busy_of_installing consistent installing
    obtain ⟨load, changed, skipped, reload, submits, apply, loadFailed, refreshed, failed⟩ :=
      quiet_methods installing FirmwareViewModel.installingText
    rw [quiet_of_installing installing]
    cases event with
    | requestInstall | progress | installDone | installFailed => cases outside
    | load => exact congrArg some (quiet_after page _ load rfl)
    | changed =>
      exact congrArg some (quiet_after { page with log := page.log ++ [LogEntry.changed] }
        (page.vm.telling FirmwareViewModel.installingText) changed skipped)
    | timerFired =>
      by_cases fires : page.timers = 0
      · simp [FirmwareSystem.step, FirmwareSystem.showing, fires]
      · simp only [FirmwareSystem.step, FirmwareSystem.showing, fires, ↓reduceIte, Option.map_some]
        exact congrArg some (quiet_after { page with timers := page.timers - 1 }
          (page.vm.telling FirmwareViewModel.installingText) reload submits)
    | refreshMetadata =>
      -- both pages are locked
      have locks (vm : FirmwareViewModel) (locked : vm.busyText ≠ "") :
          vm.refreshMetadata = (vm, []) := if_pos locked
      have other := locks (page.vm.telling FirmwareViewModel.installingText)
        FirmwareSystem.installingText_ne_empty
      refine congrArg some (quiet_after page (page.vm.telling FirmwareViewModel.installingText)
        ?_ ?_)
      · change _ = (FirmwareViewModel.refreshMetadata (page.vm.telling _)).1.quiet
        rw [locks page.vm busy, other]
        simp [FirmwareViewModel.quiet, FirmwareViewModel.telling, installing]
      · change _ = (FirmwareViewModel.refreshMetadata (page.vm.telling _)).2
        rw [locks page.vm busy, other]
    | gatherDone data =>
      by_cases ends : page.gathers = 0
      · simp [FirmwareSystem.step, FirmwareSystem.showing, ends]
      · simp only [FirmwareSystem.step, FirmwareSystem.showing, ends, ↓reduceIte, Option.map_some]
        exact congrArg (fun vm => some (FirmwareSystem.showing
          { page with gathers := page.gathers - 1 } vm)) (apply data)
    | gatherFailed e =>
      by_cases ends : page.gathers = 0
      · simp [FirmwareSystem.step, FirmwareSystem.showing, ends]
      · simp only [FirmwareSystem.step, FirmwareSystem.showing, ends, ↓reduceIte, Option.map_some]
        exact congrArg (fun vm => some (FirmwareSystem.showing
          { page with gathers := page.gathers - 1 } vm)) (loadFailed e)
    | refreshDone =>
      by_cases ends : page.refreshes = 0
      · simp [FirmwareSystem.step, FirmwareSystem.showing, ends]
      · simp only [FirmwareSystem.step, FirmwareSystem.showing, ends, ↓reduceIte, Option.map_some]
        exact congrArg some (quiet_after { page with refreshes := page.refreshes - 1 }
          (page.vm.telling FirmwareViewModel.installingText) refreshed rfl)
    | refreshFailed e =>
      by_cases ends : page.refreshes = 0
      · simp [FirmwareSystem.step, FirmwareSystem.showing, ends]
      · simp only [FirmwareSystem.step, FirmwareSystem.showing, ends, ↓reduceIte, Option.map_some]
        exact congrArg (fun vm => some (FirmwareSystem.showing
          { page with refreshes := page.refreshes - 1 } vm)) failed

/-- The end of an install takes the progress from the page. -/
theorem quiet_endEvent (casing : Casing) (page : FirmwareSystem) (position : ℕ)
    (outcome : Except PyException Unit) :
    (page.step casing (endEvent position outcome)).map FirmwareSystem.quiet =
      (page.quiet.step casing (endEvent position outcome)).map FirmwareSystem.quiet := by
  cases outcome with
  | ok =>
    simp only [endEvent, FirmwareSystem.step, FirmwareSystem.quiet, FirmwareSystem.showing]
    cases page.installs[position]? with
    | none => rfl
    | some release =>
      exact congrArg some (quiet_after { page with installs := page.installs.eraseIdx position }
        page.vm.quiet rfl rfl)
  | error e =>
    have same : page.vm.installFailed e = page.vm.quiet.installFailed e := by
      simp [FirmwareViewModel.installFailed, FirmwareViewModel.quiet, FirmwareViewModel.telling]
    simp only [endEvent, FirmwareSystem.step, FirmwareSystem.quiet, FirmwareSystem.showing]
    cases page.installs[position]? with
    | none => rfl
    | some release =>
      exact congrArg some (quiet_after { page with installs := page.installs.eraseIdx position }
        page.vm.quiet (by rw [same]) (by rw [same]))

/-- Progress is hidden from a quiet page. -/
theorem quiet_onProgress (casing : Casing) {vm : FirmwareViewModel}
    (installing : vm.installing = true) (percentage : Option Int) (status : String) :
    (vm.onProgress casing percentage status).quiet = vm.quiet := by
  simp [FirmwareViewModel.onProgress, FirmwareViewModel.quiet, FirmwareViewModel.telling,
    installing]

theorem quiet_quiet (vm : FirmwareViewModel) : vm.quiet.quiet = vm.quiet := by
  unfold FirmwareViewModel.quiet FirmwareViewModel.telling
  split_ifs <;> rfl

end Quiet

namespace InstallSession

/-- What can be seen of a session without the progress of an install. -/
def view (session : InstallSession) : InstallSession :=
  { session with page := session.page.quiet }

/-- A progress signal without what it carries. -/
def look : SessionEvent → SessionEvent
  | .propertiesChanged _ => .propertiesChanged ⟨none, none⟩
  | event => event

section Progress

variable {casing : Casing} {nick : ℕ → String} {session : InstallSession}

theorem view_view (session : InstallSession) : session.view.view = session.view := by
  simp only [view, FirmwareSystem.quiet, FirmwareSystem.showing, quiet_quiet]

/-- A locked page takes no request. -/
theorem request_locked (busy : session.page.vm.busyText ≠ "") {deviceId : String}
    {release : FirmwareRelease} {charge : Option Int × Option Int} :
    session.request deviceId release charge = session := by
  have locks : session.page.vm.requestInstall deviceId release charge.1 charge.2 =
      (session.page.vm, []) := if_pos busy
  simp [request, locks, submissions, FirmwareSystem.after]

theorem view_eq_self (idle : session.page.vm.installing = false) : session.view = session := by
  rw [view, quiet_eq_self idle]

/-- A step that changes only the page. -/
theorem map_view (turned : Option FirmwareSystem) (session : InstallSession) :
    (turned.map fun page => { session with page }).map view =
      (turned.map FirmwareSystem.quiet).map fun page => { session with page } := by
  cases turned <;> rfl

/-- What a signal carries is not seen, whether the provider listens or not. -/
theorem view_propertiesChanged (sound : session.Sound) (changed : ChangedProps) :
    (session.step casing nick (.propertiesChanged changed)).map view = some session.view := by
  cases taken : session.step casing nick (.propertiesChanged changed) with
  | none =>
    rw [step] at taken
    cases listens : session.listening <;> cases told : forwarded nick changed <;>
      simp [listens, told, FirmwareSystem.step] at taken
  | some later =>
    rcases step_propertiesChanged taken with rfl | ⟨listens, percentage, status, -, rfl⟩
    · rfl
    · obtain ⟨task, member, -⟩ := sound.listens.mp listens
      have installing := sound.installing_iff.mpr (List.ne_nil_of_mem member)
      simp only [Option.map_some, view, FirmwareSystem.quiet, FirmwareSystem.showing,
        quiet_onProgress casing installing]

theorem view_step (sound : session.Sound) (event : SessionEvent) :
    (session.step casing nick event).map view =
      (session.view.step casing nick (look event)).map view := by
  cases event with
  | propertiesChanged changed =>
    have still : session.view.step casing nick (.propertiesChanged ⟨none, none⟩) =
        some session.view := by
      rw [step]
      cases session.view.listening <;> rfl
    rw [view_propertiesChanged sound, look, still, Option.map_some, view_view]
  | elsewhere event =>
    simp only [look, step]
    by_cases own : event.ofInstall = true
    · simp only [own, if_true, Option.map_none]
    · have outside := Bool.eq_false_iff.mpr own
      rw [if_neg own, if_neg own, map_view, map_view]
      exact congrArg _ (quiet_elsewhere casing sound.consistent outside)
  | requestInstall deviceId release reply =>
    simp only [look, step, Option.map_some, Option.some.injEq]
    cases installing : session.page.vm.installing with
    | false => rw [view_eq_self installing]
    | true =>
      have locked : session.view.page.vm.busyText ≠ "" := by
        change session.page.quiet.vm.busyText ≠ ""
        rw [quiet_of_installing installing]
        exact FirmwareSystem.installingText_ne_empty
      rw [request_locked (busy_of_installing sound.consistent installing),
        request_locked locked, view_view]
  | begins position client =>
    simp only [look, step, view]
    rcases session.tasks[position]? with _ | ⟨deviceId, release, _ | _ | outcome⟩
    · rfl
    · cases begun : InstallTask.begun ⟨deviceId, release, .submitted⟩ client <;>
        simp [begun, view, FirmwareSystem.quiet, FirmwareSystem.showing, quiet_quiet]
    · rfl
    · rfl
  | flashEnds position result =>
    simp only [look, step, view]
    rcases session.tasks[position]? with _ | ⟨deviceId, release, _ | _ | outcome⟩
    · rfl
    · rfl
    · simp [view, FirmwareSystem.quiet, FirmwareSystem.showing, quiet_quiet]
    · rfl
  | callback position =>
    simp only [look, step]
    have tasks : session.view.tasks = session.tasks := rfl
    rw [tasks]
    rcases session.tasks[position]? with _ | ⟨deviceId, release, _ | _ | outcome⟩
    · rfl
    · rfl
    · rfl
    · let next_ : InstallSession :=
        { session with
          tasks := session.tasks.eraseIdx position
          history := session.history ++ [.reported outcome] }
      have turned := quiet_endEvent casing session.page position outcome
      exact (map_view _ next_).trans ((congrArg _ turned).trans (map_view _ next_).symm)

/-- Two runs that differ in nothing but what progress signals carry end alike, but for the
busy text of an install that runs. -/
theorem progress_confined (casing : Casing) (nick : ℕ → String) (data : List Gathered)
    (events : List SessionEvent) :
    (runFrom (step casing nick) (opened data) events).map view =
      (runFrom (step casing nick) (opened data) (events.map look)).map view := by
  have unwinds (session session' : InstallSession) (event event' : SessionEvent)
      (sound : session.Sound) (sound' : session'.Sound) (same : session.view = session'.view)
      (looks : look event = look event') :
      (session.step casing nick event).map view = (session'.step casing nick event').map view := by
    rw [view_step sound, view_step sound', same, looks]
  apply runFrom_alike (fun _ _ _ => sound_step) unwinds (sound_opened data) (sound_opened data) rfl
  have twice (event : SessionEvent) : look (look event) = look event := by
    cases event <;> rfl
  simp [List.map_map, Function.comp_def, twice]

end Progress

end InstallSession

end Lapcare.Pages
