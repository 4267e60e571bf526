import Lapcare.Pages.Firmware

/-!
# The firmware page after many gathers

Every reload applies one more snapshot of the devices to the same page. A snapshot without
devices changes the state of the page and nothing else, so the cards and the restart banner
are those of the last snapshot that had devices.

## Main results

* `shown_applied` — what a page shows after any list of snapshots
* `showsLast_iff` — when it is what the last snapshot alone would show
-/

namespace Lapcare.Pages

namespace FirmwareViewModel

/-- The part of the page that snapshots make. The banner stands outside the page stack, so it
is shown in every state. -/
structure Shown where
  state : PageState
  cards : List DeviceCard
  rebootBanner : String
  deriving DecidableEq

def shown (vm : FirmwareViewModel) : Shown where
  state := vm.state
  cards := vm.cards
  rebootBanner := vm.rebootBanner

/-- The snapshots, applied in order to a new page. -/
def applied (snapshots : List (List Gathered)) : FirmwareViewModel :=
  snapshots.foldl apply {}

/-- The banner that names the devices waiting for a restart. -/
def restartBanner (data : List Gathered) : String :=
  if rebootPending data = [] then ""
  else "Restart the system to finish updating: " ++ ", ".intercalate (rebootPending data)

/-- The last snapshot that had devices, or none of them. -/
def standing (snapshots : List (List Gathered)) : List Gathered :=
  ((snapshots.filter (· ≠ [])).getLast?).getD []

/-- The state of a page after a snapshot. -/
def stateAfter (data : List Gathered) : PageState :=
  if data = [] then .unavailable else .ready

/-! ### One snapshot -/

theorem shown_apply_nil (vm : FirmwareViewModel) :
    (vm.apply []).shown = { vm.shown with state := .unavailable } := rfl

/-- A snapshot with devices leaves nothing of what was there before. -/
theorem shown_apply (vm : FirmwareViewModel) {data : List Gathered} (some_ : data ≠ []) :
    (vm.apply data).shown =
      { state := .ready
        cards := data.map DeviceCard.ofGathered
        rebootBanner := restartBanner data } := by
  rw [apply, if_neg some_]
  rfl

/-! ### Many snapshots -/

theorem standing_concat_nil (past : List (List Gathered)) :
    standing (past ++ [[]]) = standing past := by
  rw [standing, List.filter_append, List.filter_cons_of_neg (by simp), List.filter_nil,
    List.append_nil, ← standing]

theorem standing_concat (past : List (List Gathered)) {data : List Gathered} (some_ : data ≠ []) :
    standing (past ++ [data]) = data := by
  rw [standing, List.filter_append, List.filter_cons_of_pos (by simpa using some_),
    List.filter_nil, List.getLast?_concat, Option.getD_some]

theorem standing_eq_nil_iff (snapshots : List (List Gathered)) :
    standing snapshots = [] ↔ ∀ data ∈ snapshots, data = [] := by
  induction snapshots using List.reverseRecOn with
  | nil => simp [standing]
  | append_singleton past last ih =>
    by_cases empty : last = []
    · subst empty
      simp [standing_concat_nil, ih, or_imp]
    · rw [standing_concat past empty]
      refine iff_of_false empty fun all => empty ?_
      exact all last (List.mem_append_right past List.mem_cons_self)

theorem applied_concat (past : List (List Gathered)) (last : List Gathered) :
    applied (past ++ [last]) = (applied past).apply last :=
  List.foldl_concat ..

/-- Cards and banner are those of the last snapshot that had devices. By induction from the
last snapshot backwards. -/
theorem shown_applied (snapshots : List (List Gathered)) :
    (applied snapshots).shown =
      { state := (snapshots.getLast?.map stateAfter).getD .loading
        cards := (standing snapshots).map DeviceCard.ofGathered
        rebootBanner := restartBanner (standing snapshots) } := by
  induction snapshots using List.reverseRecOn with
  | nil => rfl
  | append_singleton past last ih =>
    rw [applied_concat, List.getLast?_concat]
    by_cases empty : last = []
    -- an empty snapshot only moves the state
    · subst empty
      rw [shown_apply_nil, ih, standing_concat_nil]
      rfl
    · rw [shown_apply _ empty, standing_concat past empty, Option.map_some, Option.getD_some,
        stateAfter, if_neg empty]

/-- After the last snapshot the page shows what it alone makes of a new page, and the banner
names the devices of that snapshot that wait for a restart. -/
structure ShowsLast (past : List (List Gathered)) (last : List Gathered) : Prop where
  shown : (applied (past ++ [last])).shown = (applied [last]).shown
  banner : (applied (past ++ [last])).rebootBanner = restartBanner last

/-- The page is a function of the last snapshot, unless that is empty and one before it was
not. -/
theorem showsLast_iff (past : List (List Gathered)) (last : List Gathered) :
    ShowsLast past last ↔ (last = [] → ∀ earlier ∈ past, earlier = []) := by
  have alone := shown_applied [last]
  have later := shown_applied (past ++ [last])
  rw [← standing_eq_nil_iff]
  by_cases empty : last = []
  · subst empty
    rw [standing_concat_nil] at later
    constructor
    -- a page that shows no card has had no snapshot with devices
    · intro shows _
      have cards := congrArg Shown.cards shows.shown
      rw [later, alone] at cards
      exact List.map_eq_nil_iff.mp cards
    · intro nothing
      rw [nothing rfl] at later
      exact ⟨later.trans (by simp [alone, standing]), congrArg Shown.rebootBanner later⟩
  -- a snapshot with devices stands alone, whatever came before
  · rw [standing_concat past empty] at later
    refine iff_of_true ⟨?_, congrArg Shown.rebootBanner later⟩ fun none => absurd none empty
    rw [later, alone]
    simp [standing, empty]

/-- After every one of the snapshots the page is a function of it exactly if no snapshot with
devices comes before one without. -/
theorem snapshots_shown_iff (snapshots : List (List Gathered)) :
    (∀ past last later, snapshots = past ++ last :: later → ShowsLast past last) ↔
      ∀ past later, snapshots = past ++ [] :: later → ∀ earlier ∈ past, earlier = [] := by
  simp only [showsLast_iff]
  constructor
  · intro every past later split
    exact every past [] later split rfl
  · rintro every past last later split rfl
    exact every past later split

/-- A dock that waits for a restart, and is unplugged then. -/
def unpluggedDock : List (List Gathered) :=
  [[({ id := "dock", name := some "ThinkPad Dock", updateState := .needsReboot }, [], "")], []]

/-- The banner still names the dock when there is none. -/
theorem unpluggedDock_banner :
    (applied unpluggedDock).rebootBanner =
        "Restart the system to finish updating: ThinkPad Dock" ∧
      (applied unpluggedDock).state = .unavailable ∧
      ¬ ∀ past last later, unpluggedDock = past ++ last :: later → ShowsLast past last := by
  refine ⟨rfl, rfl, fun every => ?_⟩
  have shows := every [_] [] [] rfl
  exact absurd (congrArg Shown.cards shows.shown) (by decide)

end FirmwareViewModel

end Lapcare.Pages
