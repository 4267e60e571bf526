import Lapcare.Core.Errors

/-!
# The page view-model

`PageViewModel` of `ui/pages/base_view_model.py`: the four page states and the one
place where an error becomes the text of a page. `gettext` is the identity, as in the
untranslated C locale.
-/

namespace Lapcare.Pages

open Lapcare.Core

/-- `value or fallback` for a string that may be absent or empty. -/
def orText (value : Option String) (fallback : String) : String :=
  match value with
  | some "" | none => fallback
  | some text => text

theorem orText_of_blank {value : Option String} (blank : value.getD "" = "") (fallback : String) :
    orText value fallback = fallback := by
  rcases value with _ | text
  · rfl
  · obtain rfl : text = "" := blank
    rfl

theorem orText_of_said {value : Option String} (said : value.getD "" ≠ "") (fallback : String) :
    orText value fallback = value.getD "" := by
  rcases value with _ | text
  · exact absurd rfl said
  · unfold orText
    split
    case h_1 same => exact absurd (Option.some.inj same) said
    case h_2 same => cases same
    case h_3 same => exact (Option.some.inj same).symm

/-- A row shows the text that a source gave, or a dash where it gave none. -/
def RowGives (text : Option String) (row : String) : Prop :=
  (text.getD "" ≠ "" → row = text.getD "") ∧ (text.getD "" = "" → row = "—")

theorem rowGives_orText (text : Option String) : RowGives text (orText text "—") :=
  ⟨fun said => orText_of_said said _, fun blank => orText_of_blank blank _⟩

/-- `STATES`. -/
inductive PageState
  | loading
  | ready
  | unavailable
  | error
  deriving DecidableEq, Repr

structure PageViewModel where
  state : PageState := .loading
  unavailableReason : String := ""
  unavailableRemedy : String := ""
  errorDetail : String := ""
  deriving DecidableEq

namespace PageViewModel

def showLoading (page : PageViewModel) : PageViewModel :=
  { page with state := .loading }

def showReady (page : PageViewModel) : PageViewModel :=
  { page with state := .ready }

def showUnavailable (page : PageViewModel) (reason remedy : String) : PageViewModel :=
  { page with unavailableReason := reason, unavailableRemedy := remedy, state := .unavailable }

def showError (page : PageViewModel) (detail : String) : PageViewModel :=
  { page with errorDetail := detail, state := .error }

/-- `if exc.tool`: the tool to name, when there is one to name. -/
def namedTool : Option String → Option String
  | some "" => none
  | tool => tool

/-- Reason and remedy of a page whose provider cannot deliver. -/
def unavailableTexts (reason : Availability) (tool : Option String) : String × String :=
  match reason with
  | .toolMissing =>
      ("This panel needs a tool that is not installed.",
        match namedTool tool with
        | some name => s!"Install the '{name}' package to enable it."
        | none => "Install the missing tool to enable it.")
  | .permissionDenied =>
      ("Lapcare does not have permission to read this data.",
        "This data needs administrator access.")
  -- the `else` branch, where `ok` ends up as well
  | .unsupportedHardware | .ok =>
      ("This hardware does not expose this data.",
        "Nothing to do — the panel is not applicable to this machine.")

/-- Map an error to the right page state. -/
def handleError (page : PageViewModel) : PyException → PageViewModel
  | .lapcare (.providerUnavailable _ reason tool) =>
      let (text, remedy) := unavailableTexts reason tool
      page.showUnavailable text remedy
  | .lapcare (.providerTimeout source detail) =>
      page.showError (LapcareError.providerTimeout source detail).message
  | .lapcare (.providerParseError source detail) =>
      page.showError (LapcareError.providerParseError source detail).message
  | e => page.showError ("Unexpected error: " ++ e.message)

/-- An error never leaves a page loading or ready. -/
theorem handleError_state (page : PageViewModel) (e : PyException) :
    (page.handleError e).state = .unavailable ∨ (page.handleError e).state = .error := by
  rcases e with error | ⟨className, detail⟩
  · cases error with
    | providerUnavailable => exact .inl rfl
    | lapcareError | providerTimeout | providerParseError | privilegedActionDenied
    | firmwareInstallFailed => exact .inr rfl
  · exact .inr rfl

end PageViewModel

end Lapcare.Pages
