import Lapcare.Pages.Dashboard
import Lapcare.Pages.Firmware
import Lapcare.Providers.ThinkpadAcpi

/-!
# The identity rows of the dashboard

The other half of `DashboardViewModel` in `ui/pages/dashboard/view_model.py`: identity,
operating system and ThinkPad detection, and `format_uptime`.
-/

namespace Lapcare.Pages

open Lapcare.Core Platform Providers Text

/-- `format_uptime` of a number: days, hours and minutes, without leading units that are zero. -/
def uptimeText (seconds : ℚ) : String :=
  if seconds < 0 then placeholder
  else
    let minutes := ⌊seconds / 60⌋.toNat
    let days := minutes / (24 * 60)
    let rest := minutes % (24 * 60)
    let hours := rest / 60
    let mins := rest % 60
    if days ≠ 0 then s!"{days}d {hours}h {mins}m"
    else if hours ≠ 0 then s!"{hours}h {mins}m"
    else s!"{mins}m"

example : uptimeText 93784 = "1d 2h 3m" := by decide +kernel

/-- `format_uptime`: what has no number of minutes raises. -/
def formatUptime : Option PyFloat → Except PyException String
  | none => .ok placeholder
  | some (.finite seconds) => .ok (uptimeText seconds)
  -- it compares as negative
  | some (.infinite true) => .ok placeholder
  -- infinity has no quotient either: it is NaN
  | some (.infinite false) | some .nan =>
      .error (.foreign "ValueError" "cannot convert float NaN to integer")

/-- The properties of the identity rows. The banner for other machines is hidden until a
machine is known. -/
structure IdentityRows where
  model : String := placeholder
  machineType : String := placeholder
  vendor : String := placeholder
  bios : String := placeholder
  distro : String := placeholder
  kernel : String := placeholder
  uptime : String := placeholder
  isThinkpad : Bool := true
  deriving DecidableEq

/-- The result of `_gather`. -/
structure DashboardData where
  identity : SystemIdentity
  os : OsInfo
  thinkpad : ThinkpadInfo

/-- The date of the firmware, after its version. -/
def biosDateText : Option String → String
  | some "" | none => ""
  | some date => s!" ({date})"

/-- The text on the firmware, when its version is known. -/
def biosText (identity : SystemIdentity) : Option String :=
  match identity.biosVersion with
  | some "" | none => none
  | some version =>
      some (String.ofList (strip version.toList) ++ biosDateText identity.biosDate)

theorem biosDateText_of_blank {date : Option String} (blank : date.getD "" = "") :
    biosDateText date = "" := by
  rcases date with _ | text
  · rfl
  · obtain rfl : text = "" := blank
    rfl

theorem biosDateText_of_said {date : String} (said : date ≠ "") :
    biosDateText (some date) = " (" ++ date ++ ")" := by
  unfold biosDateText
  split
  case h_1 same => exact absurd (Option.some.inj same) said
  case h_2 same => cases same
  case h_3 same =>
    obtain rfl := Option.some.inj same
    rfl

theorem biosText_of_blank {identity : SystemIdentity}
    (blank : identity.biosVersion.getD "" = "") : biosText identity = none := by
  unfold biosText
  rcases version : identity.biosVersion with _ | text
  · rfl
  · rw [version] at blank
    obtain rfl : text = "" := blank
    rfl

theorem biosText_of_said {identity : SystemIdentity} {version : String}
    (is : identity.biosVersion = some version) (said : version ≠ "") : biosText identity =
      some (String.ofList (strip version.toList) ++ biosDateText identity.biosDate) := by
  unfold biosText
  rw [is]
  split
  case h_1 same => exact absurd (Option.some.inj same) said
  case h_2 same => cases same
  case h_3 same =>
    obtain rfl := Option.some.inj same
    rfl

/-- The rows that `_apply` sets before the uptime. A version that is not known leaves the text
before it. -/
def IdentityRows.named (rows : IdentityRows) (data : DashboardData) : IdentityRows :=
  { rows with
    model := orText data.thinkpad.model (orText data.identity.productFamily placeholder)
    machineType := orText data.identity.productName placeholder
    vendor := orText data.identity.vendor placeholder
    bios := (biosText data.identity).getD rows.bios
    distro := orText data.os.distroName placeholder
    kernel := orText data.os.kernel placeholder }

/-- What the three providers answer to a gather. -/
structure DashboardAnswers where
  identity : Except PyException SystemIdentity
  os : Except PyException OsInfo
  thinkpad : Except PyException ThinkpadInfo

/-- The whole view-model. -/
structure DashboardPage extends DashboardViewModel where
  rows : IdentityRows := {}
  deriving DecidableEq

namespace DashboardPage

/-- `_gather`: nothing is asked after the first that fails. -/
def gather (answers : DashboardAnswers) : Except PyException DashboardData := do
  let identity ← answers.identity
  let os ← answers.os
  let thinkpad ← answers.thinkpad
  return { identity, os, thinkpad }

/-- `_apply`. An uptime that raises ends it, before the page becomes ready. -/
def apply (page : DashboardPage) (data : DashboardData) : DashboardPage :=
  let named := page.rows.named data
  match formatUptime data.os.uptimeSeconds with
  | .error _ => { page with rows := named }
  | .ok uptime =>
      { page with
        rows := { named with uptime, isThinkpad := data.thinkpad.isThinkpad }
        toPageViewModel := page.showReady }

/-- The callback of a gather: `_apply`, or `handle_error`. -/
def complete (page : DashboardPage) : Except PyException DashboardData → DashboardPage
  | .ok data => page.apply data
  | .error e => { page with toPageViewModel := page.handleError e }

/-- The callback of a health run: `_apply_health`, or `_health_failed`, which only logs. -/
def completeHealth (page : DashboardPage) : Except PyException DiagnosticsReport → DashboardPage
  | .ok report =>
      { page with toDashboardViewModel := page.toDashboardViewModel.applyHealth report }
  | .error _ => page

end DashboardPage

/-! ### The machine below -/

section Machine

variable (upper : List Char → List Char) (builtins : Builtins)

/-- The composition of `app.py`: all three providers read one tree. -/
def dashboardAnswers (root : Root) : DashboardAnswers where
  identity := .ok (readIdentity root)
  os := .ok (readOs builtins root)
  thinkpad := .ok (detect upper builtins root (some (readIdentity root)))

def dashboardData (root : Root) : DashboardData where
  identity := readIdentity root
  os := readOs builtins root
  thinkpad := detect upper builtins root (some (readIdentity root))

end Machine

/-! ### What the rows say of a machine -/

/-- The uptime of a row: the days, hours and minutes that are over. -/
inductive UptimeTells : Option PyFloat → String → Prop
  | unknown : UptimeTells none "—"
  | negative {seconds : ℚ} (less : seconds < 0) : UptimeTells (some (.finite seconds)) "—"
  | known {seconds : ℚ} {days hours minutes : ℕ} (day : hours < 24) (hour : minutes < 60)
      (over_ : ((days * 24 + hours) * 60 + minutes : ℕ) * 60 ≤ seconds)
      (next : seconds < ((days * 24 + hours) * 60 + minutes + 1 : ℕ) * 60) :
      UptimeTells (some (.finite seconds))
        (if days ≠ 0 then s!"{days}d {hours}h {minutes}m"
          else if hours ≠ 0 then s!"{hours}h {minutes}m"
          else s!"{minutes}m")

theorem uptimeTells_uptimeText (seconds : ℚ) :
    UptimeTells (some (.finite seconds)) (uptimeText seconds) := by
  unfold uptimeText
  split_ifs with less
  · exact .negative less
  · rw [Int.floor_toNat]
    dsimp only
    have whole : ((⌊seconds / 60⌋₊ / (24 * 60) * 24 + ⌊seconds / 60⌋₊ % (24 * 60) / 60) * 60 +
        ⌊seconds / 60⌋₊ % (24 * 60) % 60) = ⌊seconds / 60⌋₊ := by omega
    have least := Nat.floor_le (div_nonneg (not_lt.mp less) (by norm_num : (0 : ℚ) ≤ 60))
    have most := Nat.lt_floor_add_one (seconds / 60)
    rw [le_div_iff₀ (by norm_num)] at least
    rw [div_lt_iff₀ (by norm_num)] at most
    refine .known (Nat.div_lt_of_lt_mul (Nat.mod_lt _ (by norm_num)))
      (Nat.mod_lt _ (by norm_num)) ?_ ?_
    · rw [whole]
      exact least
    · rw [whole, Nat.cast_add_one]
      exact most

section Tells

variable (upper : List Char → List Char) (builtins : Builtins) (root : Root)

/-- The text on the firmware of a machine that says its version. -/
def BiosReads (text : String) : Prop :=
  ∃ version, said root (dmiDir ++ ["bios_version"]) 4096 = some version ∧ version ≠ "" ∧
    (∀ date, said root (dmiDir ++ ["bios_date"]) 4096 = some date → date ≠ "" →
      text = String.ofList (strip version.toList) ++ " (" ++ date ++ ")") ∧
    ((said root (dmiDir ++ ["bios_date"]) 4096).getD "" = "" →
      text = String.ofList (strip version.toList))

/-- What the rows owe to a machine, as its files say it. Where these say nothing of the firmware
version, the row keeps what it showed before. -/
structure RowsTell (before : String → Prop) (rows : IdentityRows) : Prop where
  family : ∀ name, said root (dmiDir ++ ["product_family"]) 4096 = some name →
    namesThinkpad builtins name = true → rows.model = name
  version : (∀ name, said root (dmiDir ++ ["product_family"]) 4096 = some name →
      namesThinkpad builtins name = false) →
    ∀ name, said root (dmiDir ++ ["product_version"]) 4096 = some name →
      namesThinkpad builtins name = true → rows.model = name
  other : (∀ name, said root (dmiDir ++ ["product_family"]) 4096 = some name ∨
      said root (dmiDir ++ ["product_version"]) 4096 = some name →
      namesThinkpad builtins name = false) →
    RowGives (said root (dmiDir ++ ["product_family"]) 4096) rows.model
  machineType : RowGives (said root (dmiDir ++ ["product_name"]) 4096) rows.machineType
  vendor : RowGives (said root (dmiDir ++ ["sys_vendor"]) 4096) rows.vendor
  bios : BiosReads root rows.bios ∨
    (said root (dmiDir ++ ["bios_version"]) 4096).getD "" = "" ∧ before rows.bios
  distro : RowGives (readOs builtins root).distroName rows.distro
  kernel : RowGives (said root kernelFile 256) rows.kernel
  uptime : UptimeTells (readOs builtins root).uptimeSeconds rows.uptime
  isThinkpad : rows.isThinkpad = true ↔ IsThinkpad upper builtins root

/-- The uptime is a number, and one of which binary64 has every second. -/
def Clocked : Prop :=
  ∀ uptime ∈ (readOs builtins root).uptimeSeconds, ∃ seconds, uptime = .finite seconds ∧
    seconds < 2 ^ 53

variable {upper builtins root}

theorem RowsTell.mono {before before' : String → Prop} {rows : IdentityRows}
    (tell : RowsTell upper builtins root before rows) (wider : ∀ text, before text → before' text) :
    RowsTell upper builtins root before' rows :=
  { tell with bios := tell.bios.imp_right (And.imp_right (wider _)) }

/-- The model is the name that calls the machine a ThinkPad, the family first. -/
theorem model_named (upper : List Char → List Char) (builtins : Builtins) (root : Root)
    (rows : IdentityRows) :
    let model := (rows.named (dashboardData upper builtins root)).model
    let family := said root (dmiDir ++ ["product_family"]) 4096
    let version := said root (dmiDir ++ ["product_version"]) 4096
    (∀ name, family = some name → namesThinkpad builtins name = true → model = name) ∧
      ((∀ name, family = some name → namesThinkpad builtins name = false) →
        ∀ name, version = some name → namesThinkpad builtins name = true → model = name) ∧
      ((∀ name, family = some name ∨ version = some name → namesThinkpad builtins name = false) →
        RowGives family model) := by
  intro model family version
  have own : model = orText (thinkpadModel builtins (readIdentity root)) (orText family "—") := rfl
  have candidates : thinkpadModel builtins (readIdentity root) =
      ([family, version].filterMap id).find? (namesThinkpad builtins) := rfl
  have filled {name : String} (names : namesThinkpad builtins name = true) : name ≠ "" := by
    rintro rfl
    simp [namesThinkpad] at names
  have shown {name : String} (names : namesThinkpad builtins name = true) (fallback : String) :
      orText (some name) fallback = name :=
    orText_of_said (show (some name).getD "" ≠ "" from filled names) fallback
  refine ⟨fun name is names => ?_, fun otherwise name is names => ?_, fun nothing => ?_⟩
  · rw [own, candidates, is]
    simp [names, shown names]
  · rw [own, candidates, is]
    cases first : family with
    | none => simp [names, shown names]
    | some other => simp [otherwise other first, names, shown names]
  · have none_ : thinkpadModel builtins (readIdentity root) = none := by
      rw [candidates, List.find?_eq_none]
      intro name member
      have from_ : family = some name ∨ version = some name := by
        simpa [eq_comm] using member
      simp [nothing name from_]
    rw [own, none_]
    exact rowGives_orText family

theorem bios_named (rows : IdentityRows) :
    let bios := (rows.named (dashboardData upper builtins root)).bios
    BiosReads root bios ∨
      (said root (dmiDir ++ ["bios_version"]) 4096).getD "" = "" ∧ bios = rows.bios := by
  intro bios
  have own : bios = (biosText (readIdentity root)).getD rows.bios := rfl
  by_cases blank : (said root (dmiDir ++ ["bios_version"]) 4096).getD "" = ""
  · exact .inr ⟨blank, by rw [own, biosText_of_blank blank]; rfl⟩
  · obtain ⟨version, is⟩ : ∃ version,
        said root (dmiDir ++ ["bios_version"]) 4096 = some version := by
      rw [← Option.ne_none_iff_exists']
      intro none_
      exact blank (by rw [none_]; rfl)
    have filled : version ≠ "" := by rwa [is] at blank
    have told : biosText (readIdentity root) = _ := biosText_of_said is filled
    rw [told] at own
    refine .inl ⟨version, is, filled, fun date dated said => ?_, fun undated => ?_⟩
    · have after_ : biosDateText (readIdentity root).biosDate = " (" ++ date ++ ")" := by
        change biosDateText (Providers.said root (dmiDir ++ ["bios_date"]) 4096) = _
        rw [dated, biosDateText_of_said said]
      rw [own, after_, Option.getD_some]
      simp only [String.append_assoc]
    · have nothing : biosDateText (readIdentity root).biosDate = "" :=
        biosDateText_of_blank undated
      rw [own, nothing]
      exact String.append_empty

variable (upper) in
/-- A machine with a clock is applied as a whole, and its rows tell of it. -/
theorem apply_of_clocked (clocked : Clocked builtins root) (page : DashboardPage) :
    ∃ rows, page.apply (dashboardData upper builtins root) =
        { page with rows, toPageViewModel := page.showReady } ∧
      RowsTell upper builtins root (· = page.rows.bios) rows := by
  obtain ⟨uptime, shown, tells⟩ : ∃ uptime, formatUptime (readOs builtins root).uptimeSeconds =
      .ok uptime ∧ UptimeTells (readOs builtins root).uptimeSeconds uptime := by
    cases known : (readOs builtins root).uptimeSeconds with
    | none => exact ⟨_, rfl, .unknown⟩
    | some uptime =>
      obtain ⟨seconds, rfl, -⟩ := clocked uptime known
      exact ⟨_, rfl, uptimeTells_uptimeText seconds⟩
  refine ⟨{ page.rows.named (dashboardData upper builtins root) with
    uptime, isThinkpad := (dashboardData upper builtins root).thinkpad.isThinkpad }, ?_, ?_⟩
  · unfold DashboardPage.apply
    change (match formatUptime (readOs builtins root).uptimeSeconds with
      | .error _ => _
      | .ok uptime => _) = _
    rw [shown]
  · obtain ⟨family, version, other⟩ := model_named upper builtins root page.rows
    exact {
      family, version, other
      machineType := rowGives_orText _
      vendor := rowGives_orText _
      bios := bios_named page.rows
      distro := rowGives_orText _
      kernel := rowGives_orText _
      uptime := tells
      isThinkpad := isThinkpad_detect_iff }

end Tells

end Lapcare.Pages
