import Lapcare.Core.Diagnostics
import Lapcare.Pages.PageViewModel

/-!
# The diagnostics page

The tables and cards of `ui/pages/diagnostics/view_model.py`: all prose of a
diagnostics result lives here, the core carries data.
-/

namespace Lapcare.Pages

open Lapcare.Core

/-- `table.get(key, fallback)`. -/
def lookupOr (table : List (String × String)) (key fallback : String) : String :=
  (table.lookup key).getD fallback

def checkTitles : List (String × String) :=
  [("battery-wear", "Battery wear"),
    ("storage-health", "Storage health"),
    ("firmware-currency", "Firmware currency"),
    ("thermal", "Thermal sanity"),
    ("disk-space", "Disk space")]

def statusText : CheckStatus → String
  | .ok => "OK"
  | .warning => "Warning"
  | .critical => "Critical"
  | .skipped => "Not measured"

def statusCss : CheckStatus → String
  | .ok => "success"
  | .warning => "warning"
  | .critical => "error"
  | .skipped => "dim-label"

def skipText : List (String × String) :=
  [("declined", "Authorization was declined — run again to include it."),
    ("unavailable", "The data source is not available on this system."),
    ("no-data", "Nothing to measure on this machine."),
    ("not-requested", "Not included in this run.")]

def confidenceText : Confidence → String
  | .high => "high confidence"
  | .medium => "medium confidence"
  | .low => "low confidence"

def metricLabels : List (String × String) :=
  [("wear_pct", "Worst battery wear"),
    ("batteries", "Batteries"),
    ("failing_device", "Failing device"),
    ("pending_sectors", "Sectors pending reallocation"),
    ("endurance_used_pct", "Rated endurance used"),
    ("devices", "Devices checked"),
    ("pending_updates", "Pending firmware updates"),
    ("max_temp_c", "Hottest sensor"),
    ("max_temp_source", "Hottest sensor source"),
    ("sensors", "Sensors read"),
    ("min_free_pct", "Least free space"),
    ("min_free_mount", "Fullest filesystem"),
    ("critical_mount", "Critically full filesystem"),
    ("low_mount", "Low-space filesystem")]

/-- `_metric_value`. -/
def metricValue (key value : String) : String :=
  if "_pct".toList.isSuffixOf key.toList then value ++ "%"
  else if "_c".toList.isSuffixOf key.toList then value ++ " °C"
  else value

/-- One evidence row of a card. -/
def evidenceRow (metric : String × String) : String × String :=
  (lookupOr metricLabels metric.1 metric.1, metricValue metric.1 metric.2)

/-- Display data for one check. -/
structure CheckCard where
  checkId : String
  title : String
  statusText : String
  statusCss : String
  subtitle : String
  evidence : List (String × String) := []
  deriving DecidableEq

def resultCard (result : DiagnosticResult) : CheckCard where
  checkId := result.checkId
  title := lookupOr checkTitles result.checkId result.checkId
  statusText := statusText result.status
  statusCss := statusCss result.status
  subtitle :=
    if result.status = .skipped then
      lookupOr skipText result.skipCode (lookupOr skipText "unavailable" "")
    else confidenceText result.confidence
  evidence := result.metrics.map evidenceRow

/-- The cards of a report, on the page and in the Markdown and HTML exports. -/
def resultCards (report : DiagnosticsReport) : List CheckCard :=
  report.results.map resultCard

/-- `(headline, coverage)` of a score display. -/
def scoreTexts (report : DiagnosticsReport) : String × String :=
  (match report.score with
    | some value => s!"{value} / 100"
    | none => "No score",
    s!"Experimental — based on {report.measured} of {report.total} signals")

/-- Every skip code of a run has a text of its own. -/
theorem skipText_complete :
    ∀ skipCode ∈ ["no-data", "unavailable", "declined", "not-requested"],
      (skipText.lookup skipCode).isSome := by decide

end Lapcare.Pages
