import Lapcare.Core.Report
import Lapcare.Pages.Diagnostics
import Lapcare.Text.Lines

/-!
# The human-readable reports

`report_render.py` and the system rows of the diagnostics page. Both renderings are made
of the cards that the page shows.
-/

namespace Lapcare.Pages

open Lapcare.Core Text

/-! ### System rows -/

/-- `if value: rows.append((label, shown(value)))`. -/
def systemRow (shown : String → String) (row : String × Option String) :
    Option (String × String) :=
  match row.2 with
  | none => none
  | some value => if value = "" then none else some (row.1, shown value)

/-- `value.strip()`. -/
def stripped (value : String) : String :=
  String.ofList (strip value.toList)

def identityRows (identity : SystemIdentity) : List (String × String) :=
  [("Model", identity.productFamily),
    ("Machine type", identity.productName),
    ("Vendor", identity.vendor),
    ("BIOS / UEFI", identity.biosVersion)].filterMap (systemRow stripped)

def osRows (osInfo : OsInfo) : List (String × String) :=
  [("Operating system", osInfo.distroName),
    ("Kernel", osInfo.kernel)].filterMap (systemRow id)

/-- `_system_rows`. -/
def systemRows (identity : Option SystemIdentity) (osInfo : Option OsInfo) :
    List (String × String) :=
  (identity.map identityRows).getD [] ++ (osInfo.map osRows).getD []

/-! ### Renderings -/

/-- What a rendering is given. -/
structure Rendered where
  generated : String
  appVersion : String
  systemRows : List (String × String)
  scoreText : String
  coverageText : String
  cards : List CheckCard

def markdownRow (row : String × String) : String :=
  "- " ++ row.1 ++ ": " ++ row.2

def markdownCard (card : CheckCard) : List String :=
  ["### " ++ card.title ++ " — " ++ card.statusText, "", card.subtitle] ++
    (if card.evidence = [] then [] else "" :: card.evidence.map markdownRow) ++ [""]

def renderMarkdown (input : Rendered) : String :=
  let system :=
    if input.systemRows = [] then []
    else ["## System", ""] ++ input.systemRows.map markdownRow ++ [""]
  "\n".intercalate
    (["# Lapcare Diagnostic Report", "", "- Generated: " ++ input.generated,
      "- Lapcare version: " ++ input.appVersion,
      "- Identifiers (serial numbers etc.) are excluded from this report.", ""] ++ system ++
      ["## Health Score", "", "**" ++ input.scoreText ++ "** — " ++ input.coverageText, "",
        "## Checks", ""] ++
      input.cards.flatMap markdownCard)

/-- `html.escape` of a character. -/
def escapeHtmlChar (c : Char) : List Char :=
  if c = '&' then "&amp;".toList
  else if c = '<' then "&lt;".toList
  else if c = '>' then "&gt;".toList
  else if c = '"' then "&quot;".toList
  else if c = '\'' then "&#x27;".toList
  else [c]

/-- `html.escape`. -/
def escapeHtml (text : String) : String :=
  String.ofList (text.toList.flatMap escapeHtmlChar)

def htmlRow (row : String × String) : String :=
  "<tr><th>" ++ escapeHtml row.1 ++ "</th><td>" ++ escapeHtml row.2 ++ "</td></tr>"

/-- `rows_table`. -/
def htmlTable (rows : List (String × String)) : String :=
  "<table>" ++ String.join (rows.map htmlRow) ++ "</table>"

/-- `css_status`. -/
def cssStatus : List (String × String) :=
  [("success", "#1a7f37"), ("warning", "#9a6700"), ("error", "#cf222e")]

def htmlCard (card : CheckCard) : List String :=
  ["<h3>" ++ escapeHtml card.title ++ " — <span style=\"color:" ++
      lookupOr cssStatus card.statusCss "#57606a" ++ "\">" ++ escapeHtml card.statusText ++
      "</span></h3>",
    "<p>" ++ escapeHtml card.subtitle ++ "</p>"] ++
    if card.evidence = [] then [] else [htmlTable card.evidence]

def htmlStyle : String :=
  "<style>body\x7bfont-family:sans-serif;max-width:48rem;margin:2rem auto;" ++
    "padding:0 1rem\x7dtable\x7bborder-collapse:collapse\x7dth,td\x7btext-align:left;" ++
    "padding:.2rem .8rem .2rem 0\x7dth\x7bfont-weight:600\x7d</style>"

def renderHtml (input : Rendered) : String :=
  let system :=
    if input.systemRows = [] then []
    else ["<h2>" ++ escapeHtml "System" ++ "</h2>", htmlTable input.systemRows]
  "\n".intercalate
    (["<!DOCTYPE html>", "<html><head><meta charset=\"utf-8\">",
      "<title>" ++ escapeHtml "Lapcare Diagnostic Report" ++ "</title>", htmlStyle,
      "</head><body>", "<h1>" ++ escapeHtml "Lapcare Diagnostic Report" ++ "</h1>",
      "<p>" ++ escapeHtml ("Generated: " ++ input.generated) ++ "<br>" ++
        escapeHtml ("Lapcare version: " ++ input.appVersion) ++ "<br>" ++
        escapeHtml "Identifiers (serial numbers etc.) are excluded from this report." ++
        "</p>"] ++ system ++
      ["<h2>" ++ escapeHtml "Health Score" ++ "</h2>",
        "<p><strong>" ++ escapeHtml input.scoreText ++ "</strong> — " ++
          escapeHtml input.coverageText ++ "</p>",
        "<h2>" ++ escapeHtml "Checks" ++ "</h2>"] ++
      input.cards.flatMap htmlCard ++ ["</body></html>"]) ++ "\n"

end Lapcare.Pages
