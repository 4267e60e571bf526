import Lapcare.Pages.ReportRender

/-!
# Runs and exports of the diagnostics page

`DiagnosticsViewModel`: a run keeps its report and its cards, an export renders what the
last run kept. While one of them is under way the page refuses the other, so each is one
step of a session. A session keeps what the providers were asked, what the page shows and
what the writer was given.
-/

namespace Lapcare.Pages

open Lapcare.Core Semantics Semantics.Logged

/-- `__version__`. -/
def appVersion : String := "0.5.0"

/-! ### Machines -/

/-- A `SystemIdentityProvider`. An answer may depend on those before it. -/
structure SystemIdentityProvider where
  identity : List (Except PyException SystemIdentity) → Except PyException SystemIdentity

/-- An `OsInfoProvider`. -/
structure OsInfoProvider where
  os : List (Except PyException OsInfo) → Except PyException OsInfo

/-- A `ReportWriter`, given a path and the content. -/
structure ReportWriter where
  write : String → String → Except PyException Unit

/-- What the view-model is constructed with. -/
structure Machine where
  sources : Sources
  identity : Option SystemIdentityProvider := none
  osInfo : Option OsInfoProvider := none
  writer : Option ReportWriter := none

/-! ### The view-model -/

/-- The state of `DiagnosticsViewModel`. -/
structure DiagnosticsViewModel where
  page : PageViewModel := {}
  lastReport : Option DiagnosticsReport := none
  cards : List CheckCard := []
  scoreText : String := ""
  coverageText : String := ""
  toastText : String := ""

namespace DiagnosticsViewModel

/-- `load`: there is nothing to fetch before a run. -/
def load (model : DiagnosticsViewModel) : DiagnosticsViewModel :=
  { model with page := model.page.showReady }

/-- `_run_done`. -/
def runDone (model : DiagnosticsViewModel) (report : DiagnosticsReport) : DiagnosticsViewModel :=
  { model with
    lastReport := some report
    cards := resultCards report
    scoreText := (scoreTexts report).1
    coverageText := (scoreTexts report).2
    page := model.page.showReady }

/-- `_run_failed`. -/
def runFailed (model : DiagnosticsViewModel) (e : PyException) : DiagnosticsViewModel :=
  { model with page := model.page.handleError e }

/-- The end of a run. -/
def runEnded (model : DiagnosticsViewModel) :
    Except PyException DiagnosticsReport → DiagnosticsViewModel
  | .ok report => model.runDone report
  | .error e => model.runFailed e

/-- `_export_done` and `_export_failed`. -/
def exportEnded (model : DiagnosticsViewModel) : Except PyException Unit → DiagnosticsViewModel
  | .ok () => { model with toastText := "Report exported." }
  | .error _ => { model with toastText := "Could not export the report." }

/-- `path.endswith(suffix)`. -/
def hasSuffix (path suffix : String) : Bool :=
  suffix.toList.isSuffixOf path.toList

/-- What the Markdown and the HTML export render. -/
def rendered (model : DiagnosticsViewModel) (context : ExportContext) : Rendered where
  generated := context.generated
  appVersion := context.appVersion
  systemRows := systemRows context.identity context.osInfo
  scoreText := model.scoreText
  coverageText := model.coverageText
  cards := model.cards

/-- The document of an export. The extension picks the format. -/
def content (model : DiagnosticsViewModel) (report : DiagnosticsReport)
    (context : ExportContext) (path : String) : String :=
  if hasSuffix path ".json" then toJson context report
  else if hasSuffix path ".html" then renderHtml (model.rendered context)
  else renderMarkdown (model.rendered context)

end DiagnosticsViewModel

/-! ### Sessions -/

structure Session where
  model : DiagnosticsViewModel := {}
  calls : List ProviderCall := []
  identities : List (Except PyException SystemIdentity) := []
  osInfos : List (Except PyException OsInfo) := []
  documents : List (String × String) := []

/-- `with contextlib.suppress(LapcareError)`: a missing answer is no obstacle, a foreign
exception is. -/
def suppress {α : Type} : Except PyException α → Except PyException (Option α)
  | .ok a => .ok (some a)
  | .error (.lapcare _) => .ok none
  | .error (.foreign className detail) => .error (.foreign className detail)

namespace Session

def readIdentity (session : Session) :
    Option SystemIdentityProvider → Except PyException (Option SystemIdentity) × Session
  | none => (.ok none, session)
  | some provider =>
      let answer := provider.identity session.identities
      (suppress answer, { session with identities := session.identities ++ [answer] })

def readOs (session : Session) :
    Option OsInfoProvider → Except PyException (Option OsInfo) × Session
  | none => (.ok none, session)
  | some provider =>
      let answer := provider.os session.osInfos
      (suppress answer, { session with osInfos := session.osInfos ++ [answer] })

/-- `writer.write(path, content)`. -/
def write (session : Session) (writer : ReportWriter) (path content : String) :
    Except PyException Unit × Session :=
  (writer.write path content, { session with documents := session.documents ++ [(path, content)] })

/-- `_render_and_write`. -/
def renderAndWrite (session : Session) (machine : Machine) (writer : ReportWriter)
    (report : DiagnosticsReport) (path generated : String) : Except PyException Unit × Session :=
  match session.readIdentity machine.identity with
  | (.error e, session) => (.error e, session)
  | (.ok identity, session) =>
      match session.readOs machine.osInfo with
      | (.error e, session) => (.error e, session)
      | (.ok osInfo, session) =>
          let context : ExportContext := { generated, appVersion, identity, osInfo }
          session.write writer path (session.model.content report context path)

/-- `run`, to its end. -/
def run (session : Session) (machine : Machine) : Session :=
  let ended := Logged.exec (Core.run machine.sources true) session.calls
  { session with calls := ended.2, model := session.model.runEnded ended.1 }

/-- `export`, to its end. Without a writer or a report there is nothing to do. -/
def export_ (session : Session) (machine : Machine) (path generated : String) : Session :=
  match machine.writer, session.model.lastReport with
  | some writer, some report =>
      let ended := session.renderAndWrite machine writer report path generated
      { ended.2 with model := ended.2.model.exportEnded ended.1 }
  | _, _ => session

end Session

/-- What the user does, an export at a given time. -/
inductive PageAction
  | load
  | run
  | export_ (path generated : String)

def Session.step (machine : Machine) (session : Session) : PageAction → Session
  | .load => { session with model := session.model.load }
  | .run => session.run machine
  | .export_ path generated => session.export_ machine path generated

/-- A session on a machine, from its beginning. -/
def session (machine : Machine) (actions : List PageAction) : Session :=
  actions.foldl (Session.step machine) {}

/-- The document that an export after a run writes to a path. -/
def exportedDocument (inputs : Inputs) (context : ExportContext) (path : String) : List Char :=
  ((({} : DiagnosticsViewModel).runDone inputs.report).content inputs.report context path).toList

end Lapcare.Pages
