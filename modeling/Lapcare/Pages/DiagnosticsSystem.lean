import Lapcare.Pages.Export
import Lapcare.Semantics.Transition

/-!
# The diagnostics page in its environment

The view-model together with the submissions that did not complete yet. A submission is a
coroutine, which goes on whenever the scheduler resumes it and reads the view-model as it
stands then, and a callback once the coroutine has ended. Any of it may happen next, in any
order, between any actions of the user. In `Lapcare.Pages.Session` a run and an export are
one step each; here they are not.

## Main results

* `consistent_runFrom` — wherever a run of the page ends, at most one operation is under
  way, the busy text says so, and what was handed to the writer is the document of the last
  run that succeeded, which is the one the page shows
-/

namespace Lapcare.Pages

open Lapcare.Core Semantics

/-- Which of its optional collaborators the view-model was constructed with. -/
structure Collaborators where
  identity : Bool
  osInfo : Bool
  writer : Bool

/-- Where the coroutine `_render_and_write` stands, with what it has read so far. -/
inductive ExportPoint
  | submitted
  | identity
  | osInfo (identity : Option SystemIdentity)
  | clock (identity : Option SystemIdentity) (osInfo : Option OsInfo)
  | report (context : ExportContext)
  | score (context : ExportContext)
  | coverage (context : ExportContext) (scoreText : String)
  | cards (context : ExportContext) (scoreText coverageText : String)
  | write (content : String)
  | ended (outcome : Except PyException Unit)

/-- A submission: the coroutine of a run, which has ended or not, or that of an export. -/
inductive Operation
  | run (outcome : Option (Except PyException DiagnosticsReport))
  | export_ (path : String) (point : ExportPoint)

/-- What a coroutine meets when it is resumed. -/
inductive Resumption
  | ran (report : DiagnosticsReport)
  | identityAnswered (answer : Except PyException SystemIdentity)
  | osAnswered (answer : Except PyException OsInfo)
  | time (generated : String)
  | goesOn
  | wrote (result : Except PyException Unit)
  | raised (e : PyException)

/-- What the log of the page records. -/
inductive DiagnosticsEntry
  | exportSubmitted (path : String)
  | handedOver (path content : String)
  | runSucceeded (report : DiagnosticsReport)

structure DiagnosticsSystem where
  model : DiagnosticsViewModel := {}
  busyText : String := ""
  inFlight : List Operation := []
  log : List DiagnosticsEntry := []

/-- What can happen next. A submission is named by its position among those in flight. -/
inductive DiagnosticsEvent
  | load
  | run
  | export_ (path : String)
  | resume (position : ℕ) (resumption : Resumption)
  | complete (position : ℕ)

namespace ExportPoint

/-- `_render_and_write`, up to the next point at which something else can happen. Every
read of the view-model is such a point, since the coroutine may run on a thread of its own. -/
def resume (collaborators : Collaborators) (model : DiagnosticsViewModel) (path : String) :
    ExportPoint → Resumption → Option ExportPoint
  | .ended _, _ => none
  | _, .raised e => some (.ended (.error e))
  | .submitted, .goesOn =>
      if model.lastReport.isSome && collaborators.writer then some .identity
      else some (.ended (.error (.foreign "AssertionError" "")))
  | .identity, .goesOn => if collaborators.identity then none else some (.osInfo none)
  | .identity, .identityAnswered answer =>
      if collaborators.identity then
        match suppress answer with
        | .ok known => some (.osInfo known)
        | .error e => some (.ended (.error e))
      else none
  -- a `LapcareError` of a provider is suppressed, anything else ends the coroutine
  | .osInfo known, .goesOn =>
      if collaborators.osInfo then none else some (.clock known none)
  | .osInfo known, .osAnswered answer =>
      if collaborators.osInfo then
        match suppress answer with
        | .ok found => some (.clock known found)
        | .error e => some (.ended (.error e))
      else none
  | .clock known found, .time generated =>
      let context : ExportContext :=
        { generated := generated, appVersion := appVersion, identity := known, osInfo := found }
      if DiagnosticsViewModel.hasSuffix path ".json" then some (.report context)
      else some (.score context)
  | .report context, .goesOn =>
      match model.lastReport with
      | some last => some (.write (toJson context last))
      | none => some (.ended (.error (.foreign "AttributeError"
          "'NoneType' object has no attribute 'score'")))
  -- only Markdown and HTML read the texts and the cards of the page
  | .score context, .goesOn => some (.coverage context model.scoreText)
  | .coverage context scoreText, .goesOn =>
      some (.cards context scoreText model.coverageText)
  | .cards context scoreText coverageText, .goesOn =>
      let rendered : Rendered := {
        generated := context.generated
        appVersion := context.appVersion
        systemRows := systemRows context.identity context.osInfo
        scoreText := scoreText
        coverageText := coverageText
        cards := model.cards }
      some (.write (if DiagnosticsViewModel.hasSuffix path ".html" then renderHtml rendered
        else renderMarkdown rendered))
  | .write _, .wrote result => some (.ended result)
  | _, _ => none

/-- What the writer is given when the coroutine goes on. -/
def handedOver (path : String) : ExportPoint → Resumption → List DiagnosticsEntry
  | .write content, .wrote _ => [.handedOver path content]
  | _, _ => []

end ExportPoint

namespace DiagnosticsSystem

/-- `can_export`. -/
def canExport (collaborators : Collaborators) (system : DiagnosticsSystem) : Bool :=
  collaborators.writer && system.model.lastReport.isSome

/-- `run`. -/
def run (system : DiagnosticsSystem) : DiagnosticsSystem :=
  if system.busyText ≠ "" then system
  else { system with
    busyText := "Running diagnostics…"
    inFlight := system.inFlight ++ [.run none] }

/-- `export`. -/
def export_ (collaborators : Collaborators) (system : DiagnosticsSystem) (path : String) :
    DiagnosticsSystem :=
  if !system.canExport collaborators || system.busyText ≠ "" then system
  else { system with
    busyText := "Exporting report…"
    inFlight := system.inFlight ++ [.export_ path .submitted]
    log := system.log ++ [.exportSubmitted path] }

/-- A coroutine goes on. -/
def resume (collaborators : Collaborators) (system : DiagnosticsSystem) (position : ℕ)
    (resumption : Resumption) : Option DiagnosticsSystem :=
  match system.inFlight[position]?, resumption with
  | some (.run none), .ran report =>
      some { system with inFlight := system.inFlight.set position (.run (some (.ok report))) }
  | some (.run none), .raised e =>
      some { system with inFlight := system.inFlight.set position (.run (some (.error e))) }
  | some (.export_ path point), resumption =>
      (point.resume collaborators system.model path resumption).map fun next =>
        { system with
          inFlight := system.inFlight.set position (.export_ path next)
          log := system.log ++ point.handedOver path resumption }
  | _, _ => none

/-- The callback of a submission whose coroutine has ended: `_run_done`, `_run_failed`,
`_export_done`, `_export_failed`. There is exactly one, so the submission is over. -/
def complete (system : DiagnosticsSystem) (position : ℕ) : Option DiagnosticsSystem :=
  let released := { system with busyText := "", inFlight := system.inFlight.eraseIdx position }
  match system.inFlight[position]? with
  | some (.run (some (.ok report))) =>
      some { released with
        model := system.model.runDone report
        log := system.log ++ [.runSucceeded report] }
  | some (.run (some (.error e))) => some { released with model := system.model.runFailed e }
  | some (.export_ _ (.ended outcome)) =>
      some { released with model := system.model.exportEnded outcome }
  | _ => none

/-- One event, when it can happen. -/
def step (collaborators : Collaborators) (system : DiagnosticsSystem) :
    DiagnosticsEvent → Option DiagnosticsSystem
  | .load => some { system with model := system.model.load }
  | .run => some system.run
  | .export_ path => some (system.export_ collaborators path)
  | .resume position resumption => system.resume collaborators position resumption
  | .complete position => system.complete position

end DiagnosticsSystem

/-! ### What a document has to say -/

/-- What the last run that succeeded came to. -/
def lastSucceeded (log : List DiagnosticsEntry) : Option DiagnosticsReport :=
  log.foldl (fun last entry =>
    match entry with
    | .runSucceeded report => some report
    | _ => last) none

/-- The document of a report, in the format that the path selects. -/
def documentOf (report : DiagnosticsReport) (context : ExportContext) (path : String) : String :=
  let rendered : Rendered := {
    generated := context.generated
    appVersion := context.appVersion
    systemRows := systemRows context.identity context.osInfo
    scoreText := (scoreTexts report).1
    coverageText := (scoreTexts report).2
    cards := resultCards report }
  if DiagnosticsViewModel.hasSuffix path ".json" then toJson context report
  else if DiagnosticsViewModel.hasSuffix path ".html" then renderHtml rendered
  else renderMarkdown rendered

/-- It is the content that an export has on a page that shows the report. -/
theorem documentOf_eq_content (report : DiagnosticsReport) (context : ExportContext)
    (path : String) : documentOf report context path =
      (({} : DiagnosticsViewModel).runDone report).content report context path :=
  rfl

/-- The page shows what a run came to, or nothing. -/
structure Presents (model : DiagnosticsViewModel) (last : Option DiagnosticsReport) : Prop where
  report : model.lastReport = last
  cards : model.cards = (last.map resultCards).getD []
  scoreText : model.scoreText = (last.map fun report => (scoreTexts report).1).getD ""
  coverageText : model.coverageText = (last.map fun report => (scoreTexts report).2).getD ""

/-- Whatever changes nothing that the page shows of a run. -/
theorem Presents.of_same {model model' : DiagnosticsViewModel} {last : Option DiagnosticsReport}
    (presents : Presents model last)
    (same : model'.lastReport = model.lastReport ∧ model'.cards = model.cards ∧
      model'.scoreText = model.scoreText ∧ model'.coverageText = model.coverageText) :
    Presents model' last where
  report := same.1.trans presents.report
  cards := same.2.1.trans presents.cards
  scoreText := same.2.2.1.trans presents.scoreText
  coverageText := same.2.2.2.trans presents.coverageText

/-- What may follow what is on the log: an export once a run has succeeded, and in the
writer's hands the document of the last one that did. -/
def Warranted (past : List DiagnosticsEntry) : DiagnosticsEntry → Prop
  | .exportSubmitted _ => (lastSucceeded past).isSome
  | .handedOver path content => ∃ report context,
      lastSucceeded past = some report ∧ content = documentOf report context path
  | .runSucceeded _ => True

namespace DiagnosticsSystem

/-- A run of the page and an export of it agree. -/
structure Consistent (system : DiagnosticsSystem) : Prop where
  single : system.inFlight.length ≤ 1
  busy : system.busyText ≠ "" ↔ system.inFlight ≠ []
  presents : Presents system.model (lastSucceeded system.log)
  exports : ∀ past path, past ++ [.exportSubmitted path] <+: system.log →
    (lastSucceeded past).isSome
  documents : ∀ past path content, past ++ [.handedOver path content] <+: system.log →
    ∃ report context, lastSucceeded past = some report ∧
      content = documentOf report context path

end DiagnosticsSystem

/-! ### The coroutine of an export -/

namespace ExportPoint

/-- What the coroutine has read belongs to the report. -/
def Faithful (report : DiagnosticsReport) (path : String) : ExportPoint → Prop
  | .report _ => DiagnosticsViewModel.hasSuffix path ".json" = true
  | .score _ => DiagnosticsViewModel.hasSuffix path ".json" = false
  | .coverage _ scoreText =>
      DiagnosticsViewModel.hasSuffix path ".json" = false ∧ scoreText = (scoreTexts report).1
  | .cards _ scoreText coverageText =>
      DiagnosticsViewModel.hasSuffix path ".json" = false ∧ scoreText = (scoreTexts report).1 ∧
        coverageText = (scoreTexts report).2
  | .write content => ∃ context, content = documentOf report context path
  | _ => True

variable {collaborators : Collaborators} {model : DiagnosticsViewModel}
  {report : DiagnosticsReport} {path : String} {point next : ExportPoint}
  {resumption : Resumption}

/-- It stays so while the page shows the report, one case per point. -/
theorem faithful_resume (shown : Presents model (some report))
    (faithful : point.Faithful report path)
    (went : point.resume collaborators model path resumption = some next) :
    next.Faithful report path := by
  cases resumption with
  | raised e => cases point <;> cases went <;> trivial
  | ran later => cases point <;> cases went
  | identityAnswered answer =>
    cases point with
    | identity =>
      simp only [resume] at went
      split_ifs at went
      -- an answer or none, nothing of the page is read yet
      cases said : suppress answer <;> rw [said] at went <;> cases went <;> trivial
    | _ => cases went
  | osAnswered answer =>
    cases point with
    | osInfo known =>
      simp only [resume] at went
      split_ifs at went
      cases said : suppress answer <;> rw [said] at went <;> cases went <;> trivial
    | _ => cases went
  | time generated =>
    cases point with
    | clock known found =>
      simp only [resume] at went
      split_ifs at went with json <;> cases went
      · exact json
      · exact Bool.eq_false_iff.2 json
    | _ => cases went
  | wrote result =>
    cases point with
    | write content =>
      cases went
      trivial
    | _ => cases went
  | goesOn =>
    cases point with
    | submitted | identity | osInfo known =>
      simp only [resume] at went
      split_ifs at went <;> cases went <;> trivial
    | report context =>
      -- JSON is rendered from the report itself
      simp only [resume, shown.report] at went
      cases went
      exact ⟨context, (if_pos faithful).symm⟩
    | score context =>
      cases went
      exact ⟨faithful, shown.scoreText⟩
    | coverage context scoreText =>
      cases went
      exact ⟨faithful.1, faithful.2, shown.coverageText⟩
    | cards context scoreText coverageText =>
      -- the rest from what the page shows of it
      obtain ⟨markup, rfl, rfl⟩ := faithful
      cases went
      refine ⟨context, ?_⟩
      rw [shown.cards, documentOf, if_neg (Bool.eq_false_iff.1 markup)]
      rfl
    | _ => cases went

/-- The writer is given nothing else. -/
theorem handedOver_warranted {log : List DiagnosticsEntry} (faithful : point.Faithful report path)
    (last : lastSucceeded log = some report) (before : AllWarranted Warranted log) :
    AllWarranted Warranted (log ++ point.handedOver path resumption) ∧
      lastSucceeded (log ++ point.handedOver path resumption) = some report := by
  unfold handedOver
  split
  · obtain ⟨context, same⟩ := faithful
    refine ⟨allWarranted_concat.2 ⟨before, report, context, last, same⟩, ?_⟩
    rw [lastSucceeded, List.foldl_append]
    exact last
  · rw [List.append_nil]
    exact ⟨before, last⟩

end ExportPoint

/-! ### Steps of the page -/

namespace DiagnosticsSystem

/-- What every step keeps: the export in flight has read what the page shows. -/
structure Coherent (system : DiagnosticsSystem) : Prop where
  single : system.inFlight.length ≤ 1
  busy : system.busyText ≠ "" ↔ system.inFlight ≠ []
  presents : Presents system.model (lastSucceeded system.log)
  warranted : AllWarranted Warranted system.log
  faithful : ∀ path point, .export_ path point ∈ system.inFlight →
    ∃ report, lastSucceeded system.log = some report ∧ point.Faithful report path

theorem Coherent.consistent {system : DiagnosticsSystem} (coherent : system.Coherent) :
    system.Consistent where
  single := coherent.single
  busy := coherent.busy
  presents := coherent.presents
  exports past path along := coherent.warranted past (.exportSubmitted path) along
  documents past path content along := coherent.warranted past (.handedOver path content) along

theorem coherent_initial : ({} : DiagnosticsSystem).Coherent where
  single := Nat.zero_le 1
  busy := ⟨fun busy => absurd rfl busy, fun flying => absurd rfl flying⟩
  presents := ⟨rfl, rfl, rfl, rfl⟩
  warranted := allWarranted_nil
  faithful _ _ member := (nomatch member)

variable {collaborators : Collaborators} {system next : DiagnosticsSystem}

/-- A submission in flight is the only one. -/
theorem Coherent.alone (coherent : system.Coherent) {position : ℕ} {operation : Operation}
    (found : system.inFlight[position]? = some operation) :
    system.inFlight = [operation] ∧ position = 0 := by
  have single := coherent.single
  obtain ⟨bound, same⟩ := List.getElem?_eq_some_iff.1 found
  obtain ⟨only, alone⟩ := List.length_eq_one_iff.1 (by omega : system.inFlight.length = 1)
  have first : position = 0 := by omega
  subst first
  simp only [alone, List.getElem?_cons_zero, Option.some.injEq] at found
  exact ⟨by rw [alone, found], rfl⟩

theorem Coherent.idle (coherent : system.Coherent) (quiet : system.busyText = "") :
    system.inFlight = [] := by
  by_contra flying
  exact coherent.busy.2 flying quiet

theorem coherent_load (coherent : system.Coherent) :
    ({ system with model := system.model.load } : DiagnosticsSystem).Coherent where
  single := coherent.single
  busy := coherent.busy
  presents := coherent.presents.of_same ⟨rfl, rfl, rfl, rfl⟩
  warranted := coherent.warranted
  faithful := coherent.faithful

theorem coherent_run (coherent : system.Coherent) : system.run.Coherent := by
  unfold run
  split_ifs with busy
  · exact coherent
  have idle : system.inFlight = [] := coherent.idle (not_not.1 busy)
  refine ⟨?_, ?_, coherent.presents, coherent.warranted, ?_⟩
  · simp [idle]
  · simp [idle]
  · intro path point member
    simp [idle] at member

theorem coherent_export (coherent : system.Coherent) (path : String) :
    (system.export_ collaborators path).Coherent := by
  unfold export_
  split_ifs with refused
  · exact coherent
  simp only [canExport, Bool.or_eq_true, not_or, Bool.not_eq_true', decide_eq_true_eq,
    Bool.not_eq_false, Bool.and_eq_true, not_not] at refused
  obtain ⟨⟨-, reported⟩, quiet⟩ := refused
  -- not refused: nothing is under way, and the page has a report
  have idle : system.inFlight = [] := coherent.idle quiet
  have succeeded : (lastSucceeded system.log).isSome := by
    rw [← coherent.presents.report]
    exact reported
  have same : lastSucceeded (system.log ++ [.exportSubmitted path]) =
      lastSucceeded system.log := by
    rw [lastSucceeded, List.foldl_append]
    rfl
  refine ⟨?_, ?_, ?_, allWarranted_concat.2 ⟨coherent.warranted, succeeded⟩, ?_⟩
  · simp [idle]
  · simp [idle]
  · dsimp only
    rw [same]
    exact coherent.presents
  · intro other point member
    obtain ⟨report, last⟩ := Option.isSome_iff_exists.1 succeeded
    simp only [idle, List.nil_append, List.mem_singleton, Operation.export_.injEq] at member
    obtain ⟨-, rfl⟩ := member
    exact ⟨report, same.trans last, trivial⟩

/-- A coroutine that goes on stays in flight, and keeps to what the page shows. -/
theorem coherent_resume (coherent : system.Coherent) {position : ℕ} {resumption : Resumption}
    (went : system.resume collaborators position resumption = some next) : next.Coherent := by
  -- the submission with its new state is the only one again
  have replaced {operation : Operation} (later : Operation)
      (found : system.inFlight[position]? = some operation) :
      system.inFlight.set position later = [later] := by
    obtain ⟨alone, rfl⟩ := coherent.alone found
    rw [alone, List.set_cons_zero]
  have busy {operation : Operation} (found : system.inFlight[position]? = some operation) :
      system.busyText ≠ "" := by
    apply coherent.busy.2
    rw [(coherent.alone found).1]
    exact List.cons_ne_nil _ _
  have running {outcome : Except PyException DiagnosticsReport}
      (found : system.inFlight[position]? = some (.run none)) :
      ({ system with inFlight := system.inFlight.set position (.run (some outcome)) } :
        DiagnosticsSystem).Coherent := by
    rw [replaced _ found]
    refine ⟨le_rfl, ?_, coherent.presents, coherent.warranted, ?_⟩
    · exact iff_of_true (busy found) (List.cons_ne_nil _ _)
    · intro path point member
      cases List.mem_singleton.1 member
  unfold resume at went
  split at went
  · next found => cases went; exact running found
  · next found => cases went; exact running found
  · next _ path point found =>
    obtain ⟨later, advanced, rfl⟩ := Option.map_eq_some_iff.1 went
    have member : .export_ path point ∈ system.inFlight := List.mem_of_getElem? found
    obtain ⟨report, last, faithful⟩ := coherent.faithful path point member
    have presents := coherent.presents
    rw [last] at presents
    obtain ⟨warranted, last'⟩ :=
      ExportPoint.handedOver_warranted faithful last coherent.warranted
    rw [replaced _ found]
    refine ⟨le_rfl, ?_, ?_, warranted, ?_⟩
    · exact iff_of_true (busy found) (List.cons_ne_nil _ _)
    · rw [last']
      exact presents
    · intro other point' member
      cases List.mem_singleton.1 member
      exact ⟨report, last', ExportPoint.faithful_resume presents faithful advanced⟩
  · cases went

/-- Each of the four callbacks releases the page. -/
theorem coherent_complete (coherent : system.Coherent) {position : ℕ}
    (ended : system.complete position = some next) : next.Coherent := by
  have nothing {operation : Operation} (found : system.inFlight[position]? = some operation) :
      system.inFlight.eraseIdx position = [] := by
    obtain ⟨alone, rfl⟩ := coherent.alone found
    rw [alone]
    rfl
  -- with the model of the callback, and what is on the log then
  have released {operation : Operation} (found : system.inFlight[position]? = some operation)
      {model : DiagnosticsViewModel} {log : List DiagnosticsEntry}
      (presents : Presents model (lastSucceeded log)) (warranted : AllWarranted Warranted log) :
      ({ model := model, busyText := "", inFlight := system.inFlight.eraseIdx position,
         log := log } : DiagnosticsSystem).Coherent := by
    rw [nothing found]
    refine ⟨Nat.zero_le 1, ?_, presents, warranted, fun _ _ member => (nomatch member)⟩
    exact ⟨fun busy => absurd rfl busy, fun flying => absurd rfl flying⟩
  unfold complete at ended
  dsimp only at ended
  split at ended
  · next report found =>
    cases ended
    have last : lastSucceeded (system.log ++ [.runSucceeded report]) = some report := by
      rw [lastSucceeded, List.foldl_append]
      rfl
    refine released found ?_ (allWarranted_concat.2 ⟨coherent.warranted, trivial⟩)
    rw [last]
    exact ⟨rfl, rfl, rfl, rfl⟩
  · next e found =>
    cases ended
    exact released found (coherent.presents.of_same ⟨rfl, rfl, rfl, rfl⟩) coherent.warranted
  · next outcome found =>
    cases ended
    refine released found (coherent.presents.of_same ?_) coherent.warranted
    cases outcome <;> exact ⟨rfl, rfl, rfl, rfl⟩
  · cases ended

theorem coherent_step (coherent : system.Coherent) (event : DiagnosticsEvent)
    (taken : system.step collaborators event = some next) : next.Coherent := by
  cases event with
  | load =>
    cases taken
    exact coherent_load coherent
  | run =>
    cases taken
    exact coherent_run coherent
  | export_ path =>
    cases taken
    exact coherent_export coherent path
  | resume position resumption => exact coherent_resume coherent taken
  | complete position => exact coherent_complete coherent taken

/-- Wherever a run of the page ends, it is consistent. -/
theorem consistent_runFrom (collaborators : Collaborators) (events : List DiagnosticsEvent)
    (ran : runFrom (step collaborators) {} events = some system) : system.Consistent :=
  (invariant_runFrom (fun _ event _ coherent => coherent_step coherent event)
    coherent_initial ran).consistent

/-- A run and its export, with no provider to ask for the system. -/
def runAndExport : List DiagnosticsEvent :=
  [.run, .resume 0 (.ran ⟨[], none, 0, 0⟩), .complete 0, .export_ "report",
    .resume 0 .goesOn, .resume 0 .goesOn, .resume 0 .goesOn,
    .resume 0 (.time "2026-07-07 12:00 UTC"), .resume 0 .goesOn, .resume 0 .goesOn,
    .resume 0 .goesOn, .resume 0 (.wrote (.ok ())), .complete 0]

theorem consistent_runAndExport : ∃ system,
    runFrom (step ⟨false, false, true⟩) {} runAndExport = some system ∧ system.Consistent ∧
      system.log.length = 3 := by
  have ends : (runFrom (step ⟨false, false, true⟩) {} runAndExport).map (·.log.length) =
      some 3 := rfl
  obtain ⟨system, ran, entries⟩ := Option.map_eq_some_iff.1 ends
  exact ⟨system, ran, consistent_runFrom _ _ ran, entries⟩

end DiagnosticsSystem

end Lapcare.Pages
