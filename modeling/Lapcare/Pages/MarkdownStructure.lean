import Lapcare.Pages.ReportRender
import Lapcare.Text.Lines

/-!
# The outline of the Markdown report

The lines of the Markdown report that make its structure: the headings, the checks and the
items of its lists. The rendering joins its lines without looking into the texts that they
quote, so a text with a line break can bring such a line of its own. Nothing can take one away.

## Main results

* `outline_sublist` — the outline that the report should have is always there, in order
* `outline_eq_iff` — and it is the whole outline exactly if no text adds to it
-/

namespace Lapcare.Pages

open Lapcare.Core Text

/-! ### Outlines -/

/-- What a line of a Markdown document begins. -/
inductive Mark
  | heading (text : List Char)
  | check
  | item
  deriving DecidableEq

def mark (line : List Char) : Option Mark :=
  -- from the longest mark to the shortest
  if "### ".toList <+: line then some .check
  else if "## ".toList <+: line then some (.heading (line.drop 3))
  else if "- ".toList <+: line then some .item
  else none

/-- The marked lines of a text, in order. -/
def marks (text : List Char) : List Mark :=
  (splitLines text).filterMap mark

def outline (document : String) : List Mark :=
  marks document.toList

/-- The marked lines that begin inside a text. -/
def addedMarks (text : String) : List Mark :=
  (splitLines text.toList).tail.filterMap mark

/-- No line that begins inside the text is marked. -/
def Quiet (text : String) : Prop :=
  ∀ line ∈ (splitLines text.toList).tail, mark line = none

/-- No line of the text is marked. -/
def Unmarked (text : String) : Prop :=
  ∀ line ∈ splitLines text.toList, mark line = none

def heading (text : String) : Mark :=
  .heading text.toList

namespace Rendered

variable (input : Rendered)

/-- A check, and an item for each pair of its evidence. -/
def cardOutline (card : CheckCard) : List Mark :=
  .check :: card.evidence.map fun _ => .item

/-- The outline that the report should have: three items about the report, the headings, an
item for each row, and the checks. -/
def outline : List Mark :=
  [.item, .item, .item] ++
    (if input.systemRows = [] then []
      else heading "System" :: input.systemRows.map fun _ => .item) ++
    [heading "Health Score", heading "Checks"] ++ input.cards.flatMap cardOutline

/-- What a row quotes on its line. -/
def rowText (row : String × String) : String :=
  row.1 ++ ": " ++ row.2

structure QuietCard (card : CheckCard) : Prop where
  title : Quiet (card.title ++ " — " ++ card.statusText)
  subtitle : Unmarked card.subtitle
  evidence : ∀ row ∈ card.evidence, Quiet (rowText row)

/-- No text that is quoted goes on with a marked line, and no subtitle has one. -/
structure QuietTexts : Prop where
  generated : Quiet input.generated
  appVersion : Quiet input.appVersion
  systemRows : ∀ row ∈ input.systemRows, Quiet (rowText row)
  score : Quiet (input.scoreText ++ "** — " ++ input.coverageText)
  cards : ∀ card ∈ input.cards, QuietCard card

end Rendered

/-! ### Lists with something added -/

section Added

variable {α β : Type}

/-- Two lists with something added are as before exactly if nothing was added to either. -/
theorem append_eq_append_iff_of_sublist {before before' after after' : List α}
    (added : before.Sublist after) (added' : before'.Sublist after') :
    after ++ after' = before ++ before' ↔ after = before ∧ after' = before' := by
  constructor
  -- neither part can be shorter than before, so both are as long
  · intro same
    have lengths := congrArg List.length same
    rw [List.length_append, List.length_append] at lengths
    have least := added.length_le
    have least' := added'.length_le
    exact ⟨(added.eq_of_length (by omega)).symm, (added'.eq_of_length (by omega)).symm⟩
  · rintro ⟨rfl, rfl⟩
    rfl

theorem flatMap_sublist_flatMap {before after : β → List α}
    (added : ∀ x, (before x).Sublist (after x)) (items : List β) :
    (items.flatMap before).Sublist (items.flatMap after) := by
  induction items with
  | nil => exact List.Sublist.refl []
  | cons x items ih => exact (added x).append ih

theorem flatMap_eq_flatMap_iff_of_sublist {before after : β → List α}
    (added : ∀ x, (before x).Sublist (after x)) (items : List β) :
    items.flatMap after = items.flatMap before ↔ ∀ x ∈ items, after x = before x := by
  induction items with
  | nil => simp
  | cons x items ih =>
    rw [List.flatMap_cons, List.flatMap_cons,
      append_eq_append_iff_of_sublist (added x) (flatMap_sublist_flatMap added items), ih,
      List.forall_mem_cons]

end Added

/-! ### One line -/

/-- A line that begins with fixed text, and the lines that begin inside what follows it. -/
theorem marks_append {front : List Char} (filled : front ≠ [])
    (checked : front.all (! isLineBreak ·) = true) (text : String) :
    marks (front ++ text.toList) =
      (mark (front ++ (splitLines text.toList).headD [])).toList ++ addedMarks text := by
  have unbroken := forall_eq_false_of_all checked
  clear checked
  have lines : splitLines (front ++ text.toList) =
      (front ++ (splitLines text.toList).headD []) :: (splitLines text.toList).tail := by
    -- along the fixed text, which holds no boundary
    induction front with
    | nil => exact absurd rfl filled
    | cons c front ih =>
      obtain ⟨here, rest⟩ := List.forall_mem_cons.mp unbroken
      rw [List.cons_append, splitLines_char here]
      cases front with
      | nil => rfl
      | cons d front => rw [ih (List.cons_ne_nil d front) rest]; rfl
  rw [marks, lines, addedMarks]
  cases first : mark (front ++ (splitLines text.toList).headD []) with
  | none => rw [List.filterMap_cons_none first]; rfl
  | some found => rw [List.filterMap_cons_some first]; rfl

theorem addedMarks_eq_nil_iff (text : String) : addedMarks text = [] ↔ Quiet text :=
  List.filterMap_eq_nil_iff

theorem marks_eq_nil_iff (text : String) : marks text.toList = [] ↔ Unmarked text :=
  List.filterMap_eq_nil_iff

/-- The line of a check. -/
theorem marks_check (text : String) :
    marks ("### " ++ text).toList = .check :: addedMarks text := by
  rw [String.toList_append, marks_append (by decide) (by decide), mark,
    if_pos (List.prefix_append ..)]
  rfl

/-- The line of an item, whatever else is fixed in it. -/
theorem marks_item {front : String} (dash : "- ".toList <+: front.toList)
    (checked : front.toList.all (! isLineBreak ·) = true) (text : String) :
    marks (front ++ text).toList = .item :: addedMarks text := by
  obtain ⟨rest, split⟩ := dash
  have filled : front.toList ≠ [] := by
    rw [← split]
    exact List.cons_ne_nil _ _
  rw [String.toList_append, marks_append filled checked, ← split]
  rfl

theorem marks_markdownRow (row : String × String) :
    marks (markdownRow row).toList = .item :: addedMarks (Rendered.rowText row) := by
  have line : markdownRow row = "- " ++ Rendered.rowText row := by
    simp [markdownRow, Rendered.rowText, String.append_assoc]
  rw [line, marks_item List.prefix_rfl (by decide)]

/-- The line of the score is not marked itself. -/
theorem marks_score (text : String) : marks ("**" ++ text).toList = addedMarks text := by
  rw [String.toList_append, marks_append (by decide) (by decide)]
  rfl

/-! ### The whole report -/

/-- What joined lines are marked with. -/
theorem marks_intercalate (lines : List String) :
    marks ("\n".intercalate lines).toList = lines.flatMap fun line => marks line.toList := by
  rw [marks, String.toList_intercalate]
  change (splitLines (['\n'].intercalate _)).filterMap mark = _
  rw [filterMap_splitLines_intercalate rfl, List.flatMap_map]
  rfl

namespace Rendered

variable (input : Rendered)

/-- The marks of a row, with those that its text adds. -/
def rowMarks (row : String × String) : List Mark :=
  .item :: addedMarks (rowText row)

def cardMarks (card : CheckCard) : List Mark :=
  .check :: addedMarks (card.title ++ " — " ++ card.statusText) ++
    (marks card.subtitle.toList ++ card.evidence.flatMap rowMarks)

def headMarks : List Mark :=
  .item :: addedMarks input.generated ++ (.item :: addedMarks input.appVersion ++ [.item])

def systemMarks : List Mark :=
  if input.systemRows = [] then [] else heading "System" :: input.systemRows.flatMap rowMarks

def scoreMarks : List Mark :=
  heading "Health Score" :: addedMarks (input.scoreText ++ "** — " ++ input.coverageText) ++
    [heading "Checks"]

theorem marks_markdownCard (card : CheckCard) :
    ((markdownCard card).flatMap fun line => marks line.toList) = cardMarks card := by
  have title : "### " ++ card.title ++ " — " ++ card.statusText =
      "### " ++ (card.title ++ " — " ++ card.statusText) := by
    simp [String.append_assoc]
  have rows : ((if card.evidence = [] then [] else "" :: card.evidence.map markdownRow).flatMap
      fun line => marks line.toList) = card.evidence.flatMap rowMarks := by
    -- the blank line above the rows is not marked
    split_ifs with none
    · simp [none]
    · rw [List.flatMap_cons, List.flatMap_map]
      simp only [marks_markdownRow]
      rfl
  rw [markdownCard, title, List.flatMap_append, List.flatMap_append, rows]
  have blank : marks "".toList = [] := rfl
  simp only [List.flatMap_cons, List.flatMap_nil, marks_check, blank, List.append_nil,
    List.nil_append, cardMarks, List.append_assoc, List.cons_append]

/-- The marks of the report, part by part. -/
theorem outline_renderMarkdown : Pages.outline (renderMarkdown input) =
    input.headMarks ++ (input.systemMarks ++ (input.scoreMarks ++
      input.cards.flatMap cardMarks)) := by
  have blank : marks "".toList = [] := rfl
  have title : marks "# Lapcare Diagnostic Report".toList = [] := by decide
  have note : marks "- Identifiers (serial numbers etc.) are excluded from this report.".toList =
      [.item] := by decide
  have health : marks "## Health Score".toList = [heading "Health Score"] := by decide
  have checks : marks "## Checks".toList = [heading "Checks"] := by decide
  have generated : marks ("- Generated: " ++ input.generated).toList =
      .item :: addedMarks input.generated := marks_item (by decide) (by decide) _
  have version : marks ("- Lapcare version: " ++ input.appVersion).toList =
      .item :: addedMarks input.appVersion := marks_item (by decide) (by decide) _
  have score : "**" ++ input.scoreText ++ "** — " ++ input.coverageText =
      "**" ++ (input.scoreText ++ "** — " ++ input.coverageText) := by
    simp [String.append_assoc]
  have system : ((if input.systemRows = [] then []
      else ["## System", ""] ++ input.systemRows.map markdownRow ++ [""]).flatMap
        fun line => marks line.toList) = input.systemMarks := by
    have systemHeading : marks "## System".toList = [heading "System"] := by decide
    rw [systemMarks]
    split_ifs with none
    · rfl
    · simp only [List.flatMap_append, List.flatMap_cons, List.flatMap_nil, List.flatMap_map,
        systemHeading, blank, marks_markdownRow, List.append_nil, List.singleton_append]
      rfl
  -- the fixed lines compute, and the others have a lemma each
  rw [Pages.outline, renderMarkdown, marks_intercalate, score]
  simp only [List.flatMap_append, system, List.flatMap_cons, List.flatMap_nil, title, blank,
    generated, version, note, health, checks, marks_score, List.flatMap_assoc,
    marks_markdownCard]
  simp only [headMarks, scoreMarks, List.append_assoc, List.nil_append, List.append_nil,
    List.cons_append]

/-! ### What the texts add -/

theorem cons_sublist_marks (first : Mark) (text : String) :
    [first].Sublist (first :: addedMarks text) :=
  (List.nil_sublist _).cons_cons first

theorem cons_eq_singleton_iff (first : Mark) (text : String) :
    first :: addedMarks text = [first] ↔ Quiet text := by
  rw [List.cons.injEq, and_iff_right rfl, addedMarks_eq_nil_iff]

theorem rows_sublist (rows : List (String × String)) :
    (rows.map fun _ => Mark.item).Sublist (rows.flatMap rowMarks) := by
  rw [List.map_eq_flatMap]
  exact flatMap_sublist_flatMap (fun row => cons_sublist_marks .item (rowText row)) rows

theorem rows_eq_iff (rows : List (String × String)) :
    (rows.flatMap rowMarks = rows.map fun _ => Mark.item) ↔ ∀ row ∈ rows, Quiet (rowText row) := by
  rw [List.map_eq_flatMap]
  refine (flatMap_eq_flatMap_iff_of_sublist
    (fun row => cons_sublist_marks .item (rowText row)) rows).trans ?_
  exact forall₂_congr fun row _ => cons_eq_singleton_iff .item (rowText row)

theorem cardOutline_sublist (card : CheckCard) :
    (cardOutline card).Sublist (cardMarks card) :=
  (cons_sublist_marks .check _).append
    ((List.nil_sublist _).append (rows_sublist card.evidence))

theorem cardMarks_eq_iff (card : CheckCard) :
    cardMarks card = cardOutline card ↔ QuietCard card := by
  have parts : cardOutline card = [.check] ++ ([] ++ card.evidence.map fun _ => .item) := rfl
  -- a part that is longer cannot be made up for by another, as every mark is kept
  rw [cardMarks, parts, append_eq_append_iff_of_sublist (cons_sublist_marks .check _)
      ((List.nil_sublist _).append (rows_sublist card.evidence)),
    append_eq_append_iff_of_sublist (List.nil_sublist _) (rows_sublist card.evidence),
    cons_eq_singleton_iff, marks_eq_nil_iff, rows_eq_iff]
  exact ⟨fun ⟨title, subtitle, evidence⟩ => ⟨title, subtitle, evidence⟩,
    fun quiet => ⟨quiet.title, quiet.subtitle, quiet.evidence⟩⟩

theorem headMarks_sublist : [Mark.item, .item, .item].Sublist input.headMarks :=
  (cons_sublist_marks .item _).append ((cons_sublist_marks .item _).append (List.Sublist.refl _))

theorem headMarks_eq_iff :
    input.headMarks = [.item, .item, .item] ↔
      Quiet input.generated ∧ Quiet input.appVersion := by
  have parts : [Mark.item, .item, .item] = [.item] ++ ([.item] ++ [.item]) := rfl
  rw [headMarks, parts, append_eq_append_iff_of_sublist (cons_sublist_marks .item _)
      ((cons_sublist_marks .item _).append (List.Sublist.refl _)),
    append_eq_append_iff_of_sublist (cons_sublist_marks .item _) (List.Sublist.refl _),
    cons_eq_singleton_iff, cons_eq_singleton_iff, and_iff_left rfl]

def systemOutline : List Mark :=
  if input.systemRows = [] then [] else heading "System" :: input.systemRows.map fun _ => .item

theorem systemOutline_sublist : input.systemOutline.Sublist input.systemMarks := by
  rw [systemOutline, systemMarks]
  split_ifs with none
  · exact List.Sublist.refl []
  · exact (rows_sublist input.systemRows).cons_cons _

theorem systemMarks_eq_iff :
    input.systemMarks = input.systemOutline ↔ ∀ row ∈ input.systemRows, Quiet (rowText row) := by
  rw [systemOutline, systemMarks]
  split_ifs with none
  · simp [none]
  · rw [List.cons.injEq, and_iff_right rfl, rows_eq_iff]

theorem scoreMarks_sublist :
    [heading "Health Score", heading "Checks"].Sublist input.scoreMarks :=
  (cons_sublist_marks _ _).append (List.Sublist.refl _)

theorem scoreMarks_eq_iff :
    input.scoreMarks = [heading "Health Score", heading "Checks"] ↔
      Quiet (input.scoreText ++ "** — " ++ input.coverageText) := by
  have parts : [heading "Health Score", heading "Checks"] =
      [heading "Health Score"] ++ [heading "Checks"] := rfl
  rw [scoreMarks, parts, append_eq_append_iff_of_sublist (cons_sublist_marks _ _)
    (List.Sublist.refl _), cons_eq_singleton_iff, and_iff_left rfl]

theorem outline_eq : input.outline = [.item, .item, .item] ++ (input.systemOutline ++
    ([heading "Health Score", heading "Checks"] ++ input.cards.flatMap cardOutline)) := by
  rw [outline, systemOutline, List.append_assoc, List.append_assoc]

/-- No text takes a heading, a check or an item away, or moves one. -/
theorem outline_sublist : input.outline.Sublist (Pages.outline (renderMarkdown input)) := by
  rw [outline_eq, outline_renderMarkdown]
  exact input.headMarks_sublist.append (input.systemOutline_sublist.append
    (input.scoreMarks_sublist.append (flatMap_sublist_flatMap cardOutline_sublist _)))

/-- The report has its own outline exactly if no text adds to it. -/
theorem outline_eq_iff :
    Pages.outline (renderMarkdown input) = input.outline ↔ input.QuietTexts := by
  have cards := flatMap_sublist_flatMap cardOutline_sublist input.cards
  have score := input.scoreMarks_sublist.append cards
  rw [outline_renderMarkdown, outline_eq,
    append_eq_append_iff_of_sublist input.headMarks_sublist
      (input.systemOutline_sublist.append score),
    append_eq_append_iff_of_sublist input.systemOutline_sublist score,
    append_eq_append_iff_of_sublist input.scoreMarks_sublist cards,
    flatMap_eq_flatMap_iff_of_sublist cardOutline_sublist, headMarks_eq_iff, systemMarks_eq_iff,
    scoreMarks_eq_iff]
  simp only [cardMarks_eq_iff]
  exact ⟨fun ⟨⟨generated, appVersion⟩, systemRows, score, cards⟩ =>
      ⟨generated, appVersion, systemRows, score, cards⟩,
    fun quiet => ⟨⟨quiet.generated, quiet.appVersion⟩, quiet.systemRows, quiet.score, quiet.cards⟩⟩

end Rendered

/-! ### A mountpoint with a line break -/

/-- The check of the disks on a machine where something is mounted on `/mnt/x`, a line break
and `### Battery wear — OK`. -/
def forgedCheck : CheckCard where
  checkId := "disk_space"
  title := "Disk space"
  statusText := "Warning"
  statusCss := "warning"
  subtitle := "A filesystem is nearly full."
  evidence := [("Fullest filesystem", "/mnt/x\n### Battery wear — OK")]

def forgedReport : Rendered where
  generated := "2026-07-10 00:00 UTC"
  appVersion := "0.5.0"
  systemRows := []
  scoreText := "80 / 100"
  coverageText := "based on 1 of 5 signals"
  cards := [forgedCheck]

/-- The report of one check shows two. -/
theorem forgedReport_shows :
    (Pages.outline (renderMarkdown forgedReport)).count .check = 2 ∧
      forgedReport.cards.length = 1 ∧
        Pages.outline (renderMarkdown forgedReport) ≠ forgedReport.outline := by
  have shown : Pages.outline (renderMarkdown forgedReport) = forgedReport.outline ++ [.check] := by
    -- the forged check is the last mark, since the evidence comes last
    rw [Rendered.outline_renderMarkdown]
    decide
  rw [shown]
  exact ⟨by decide, rfl, by decide⟩

end Lapcare.Pages
