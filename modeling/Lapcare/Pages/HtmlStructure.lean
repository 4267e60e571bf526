import Lapcare.Pages.RenderedTexts
import Lapcare.Text.Markup

/-!
# The structure of the HTML report

The tags of the HTML report and the texts between them. Every text that the report quotes is
escaped, so the tags are those of the template, for each number of rows, checks and pairs of
evidence.

## Main results

* `unescapeHtml_escapeHtml` — escaping is undone by unescaping
* `renderHtml_eq_write` — the report is the template with the escaped texts
* `html_structure` — its tags depend on no text, and all texts come back
-/

namespace Lapcare.Pages

open Lapcare.Core Text
open Markup (Node IsTag)

/-! ### Escapes -/

/-- `html.unescape`, for the entities that `html.escape` makes. -/
def unescapeHtml : List Char → List Char
  | '&' :: 'a' :: 'm' :: 'p' :: ';' :: rest => '&' :: unescapeHtml rest
  | '&' :: 'l' :: 't' :: ';' :: rest => '<' :: unescapeHtml rest
  | '&' :: 'g' :: 't' :: ';' :: rest => '>' :: unescapeHtml rest
  | '&' :: 'q' :: 'u' :: 'o' :: 't' :: ';' :: rest => '"' :: unescapeHtml rest
  | '&' :: '#' :: 'x' :: '2' :: '7' :: ';' :: rest => '\'' :: unescapeHtml rest
  | c :: rest => c :: unescapeHtml rest
  | [] => []

theorem unescapeHtml_cons {c : Char} (plain : c ≠ '&') (rest : List Char) :
    unescapeHtml (c :: rest) = c :: unescapeHtml rest := by
  rw [unescapeHtml]
  all_goals
    rintro _ rfl
    exact absurd rfl plain

/-- Escaping is undone by unescaping, whatever the text looked like. -/
theorem unescapeHtml_escapeHtml (text : List Char) :
    unescapeHtml (text.flatMap escapeHtmlChar) = text := by
  induction text with
  | nil => rfl
  | cons c text ih =>
    rw [List.flatMap_cons]
    -- an entity begins with the only `&` in it, so it is read back as one
    by_cases ampersand : c = '&'
    · subst ampersand
      exact congrArg ('&' :: ·) ih
    by_cases less : c = '<'
    · subst less
      exact congrArg ('<' :: ·) ih
    by_cases greater : c = '>'
    · subst greater
      exact congrArg ('>' :: ·) ih
    by_cases quotation : c = '"'
    · subst quotation
      exact congrArg ('"' :: ·) ih
    by_cases apostrophe : c = '\''
    · subst apostrophe
      exact congrArg ('\'' :: ·) ih
    -- any other character stands for itself
    have itself : escapeHtmlChar c = [c] := by
      simp only [escapeHtmlChar, if_neg ampersand, if_neg less, if_neg greater, if_neg quotation,
        if_neg apostrophe]
    rw [itself, List.singleton_append, unescapeHtml_cons ampersand, ih]

theorem bracket_notMem_escapeHtmlChar (c : Char) : '<' ∉ escapeHtmlChar c := by
  unfold escapeHtmlChar
  split_ifs with ampersand less greater quotation apostrophe
  · decide
  · decide
  · decide
  · decide
  · decide
  · simpa [eq_comm] using less

/-! ### The template -/

/-- A tag with the text behind it. -/
def node (tag text : String) : Node :=
  ⟨tag.toList, text.toList⟩

def rowNodes (row : String × String) : List Node :=
  [node "tr" "", node "th" row.1, node "/th" "", node "td" row.2, node "/td" "", node "/tr" ""]

def tableNodes (rows : List (String × String)) : List Node :=
  node "table" "" :: rows.flatMap rowNodes ++ [node "/table" "\n"]

/-- A heading of level one or two. -/
def headingNodes (level text : String) : List Node :=
  [node level text, node ("/" ++ level) "\n"]

/-- A check. Its title stands before a dash, and the status in its colour behind it. -/
def cardNodes (card : CheckCard) : List Node :=
  [node "h3" (card.title ++ " — "),
    node ("span style=\"color:" ++ lookupOr cssStatus card.statusCss "#57606a" ++ "\"")
      card.statusText,
    node "/span" "", node "/h3" "\n", node "p" card.subtitle, node "/p" "\n"] ++
    if card.evidence = [] then [] else tableNodes card.evidence

/-- The rules between the style tags. -/
def styleRules : String :=
  "body\x7bfont-family:sans-serif;max-width:48rem;margin:2rem auto;" ++
    "padding:0 1rem\x7dtable\x7bborder-collapse:collapse\x7dth,td\x7btext-align:left;" ++
    "padding:.2rem .8rem .2rem 0\x7dth\x7bfont-weight:600\x7d"

namespace Rendered

variable (input : Rendered)

def headNodes : List Node :=
  [node "!DOCTYPE html" "\n", node "html" "", node "head" "", node "meta charset=\"utf-8\"" "\n",
    node "title" "Lapcare Diagnostic Report", node "/title" "\n", node "style" styleRules,
    node "/style" "\n", node "/head" "", node "body" "\n"] ++
  headingNodes "h1" "Lapcare Diagnostic Report" ++
  [node "p" ("Generated: " ++ input.generated), node "br" ("Lapcare version: " ++ input.appVersion),
    node "br" "Identifiers (serial numbers etc.) are excluded from this report.", node "/p" "\n"]

def systemNodes : List Node :=
  if input.systemRows = [] then [] else headingNodes "h2" "System" ++ tableNodes input.systemRows

def scoreNodes : List Node :=
  headingNodes "h2" "Health Score" ++
  [node "p" "", node "strong" input.scoreText, node "/strong" (" — " ++ input.coverageText),
    node "/p" "\n"] ++
  headingNodes "h2" "Checks"

/-- The tags of the report in order, each with the text behind it. -/
def nodes : List Node :=
  input.headNodes ++ (input.systemNodes ++ (input.scoreNodes ++
    (input.cards.flatMap cardNodes ++ [node "/body" "", node "/html" "\n"])))

/-- As many rows and cards, and card by card the same status class and as many pairs of
evidence. -/
structure SameShape (first second : Rendered) : Prop where
  systemRows : first.systemRows.length = second.systemRows.length
  cards : List.Forall₂ (fun card card' : CheckCard =>
    card.statusCss = card'.statusCss ∧ card.evidence.length = card'.evidence.length)
    first.cards second.cards

end Rendered

/-- What a reader of tags makes of a document. -/
def readTags (document : String) : Node × List Node :=
  Markup.lex .text document.toList

/-- The tags of a document, with their attributes. -/
def tags (document : String) : List (List Char) :=
  (readTags document).2.map (·.tag)

/-- The tags of a document, with the unescaped texts behind them. -/
def unescapedNodes (document : String) : List Node :=
  (readTags document).2.map (Node.unescaped unescapeHtml)

/-! ### The report is the template -/

/-- The nodes, with their texts escaped, as they are written. -/
def writeEscaped (nodes : List Node) : List Char :=
  Markup.write (nodes.map (Node.escaped escapeHtmlChar))

theorem writeEscaped_append (front rest : List Node) :
    writeEscaped (front ++ rest) = writeEscaped front ++ writeEscaped rest := by
  rw [writeEscaped, List.map_append, Markup.write, List.flatMap_append]
  rfl

theorem writeEscaped_cons (tag text : String) (rest : List Node) :
    writeEscaped (node tag text :: rest) =
      ("<" ++ tag ++ ">" ++ escapeHtml text).toList ++ writeEscaped rest := by
  simp [writeEscaped, Markup.write, node, Node.escaped, escapeHtml]

theorem writeEscaped_nil : writeEscaped [] = [] := rfl

theorem writeEscaped_flatMap {α : Type} (nodes : α → List Node) (items : List α) :
    writeEscaped (items.flatMap nodes) = items.flatMap fun item => writeEscaped (nodes item) := by
  induction items with
  | nil => rfl
  | cons item items ih => rw [List.flatMap_cons, writeEscaped_append, ih, List.flatMap_cons]

theorem escapeHtml_append (first second : String) :
    escapeHtml (first ++ second) = escapeHtml first ++ escapeHtml second := by
  simp [escapeHtml, String.toList_append, List.flatMap_append, String.ofList_append]

theorem escapeHtml_empty : escapeHtml "" = "" := rfl

theorem escapeHtml_newline : escapeHtml "\n" = "\n" := rfl

theorem escapeHtml_dash : escapeHtml " — " = " — " := rfl

theorem escapeHtml_eq_self {text : String}
    (plain : text.toList.all (fun c => escapeHtmlChar c = [c]) = true) :
    escapeHtml text = text := by
  have itself : ∀ c ∈ text.toList, escapeHtmlChar c = [c] := by simpa using plain
  have same : text.toList.flatMap escapeHtmlChar = text.toList := by
    rw [List.flatMap_congr itself, List.flatMap_singleton']
  rw [escapeHtml, same, String.ofList_toList]

/-- The style has nothing to escape. -/
theorem escapeHtml_styleRules : escapeHtml styleRules = styleRules := by
  have first : escapeHtml "body\x7bfont-family:sans-serif;max-width:48rem;margin:2rem auto;" =
      "body\x7bfont-family:sans-serif;max-width:48rem;margin:2rem auto;" :=
    escapeHtml_eq_self (by decide)
  have second :
      escapeHtml
          "padding:0 1rem\x7dtable\x7bborder-collapse:collapse\x7dth,td\x7btext-align:left;" =
        "padding:0 1rem\x7dtable\x7bborder-collapse:collapse\x7dth,td\x7btext-align:left;" :=
    escapeHtml_eq_self (by decide)
  have third : escapeHtml "padding:.2rem .8rem .2rem 0\x7dth\x7bfont-weight:600\x7d" =
      "padding:.2rem .8rem .2rem 0\x7dth\x7bfont-weight:600\x7d" :=
    escapeHtml_eq_self (by decide)
  refine (escapeHtml_append _ _).trans (congrArg₂ (· ++ ·) ?_ third)
  exact (escapeHtml_append _ _).trans (congrArg₂ (· ++ ·) first second)

theorem toList_htmlStyle :
    htmlStyle.toList = "<style>".toList ++ (styleRules.toList ++ "</style>".toList) := by
  have front : "<style>body\x7bfont-family:sans-serif;max-width:48rem;margin:2rem auto;".toList =
      "<style>".toList ++
        "body\x7bfont-family:sans-serif;max-width:48rem;margin:2rem auto;".toList := by
    simp only [String.reduceToList, List.cons_append, List.nil_append]
  have back : "padding:.2rem .8rem .2rem 0\x7dth\x7bfont-weight:600\x7d</style>".toList =
      "padding:.2rem .8rem .2rem 0\x7dth\x7bfont-weight:600\x7d".toList ++ "</style>".toList := by
    simp only [String.reduceToList, List.cons_append, List.nil_append]
  unfold htmlStyle styleRules
  simp only [String.toList_append, front, back, List.append_assoc]

/-- The lines, each with the newline that ends it. -/
theorem intercalate_newline {lines : List String} (filled : lines ≠ []) :
    ("\n".intercalate lines ++ "\n").toList = lines.flatMap fun line => (line ++ "\n").toList := by
  -- the last line takes the newline that is added, the others the ones that join them
  induction lines with
  | nil => exact absurd rfl filled
  | cons line lines ih =>
    cases lines with
    | nil => simp
    | cons next lines =>
      have rest := ih (List.cons_ne_nil next lines)
      rw [String.toList_append, String.toList_intercalate] at rest ⊢
      rw [List.flatMap_cons, ← rest, List.map_cons, List.map_cons, List.intercalate_cons_cons]
      simp

theorem writeEscaped_row (row : String × String) :
    writeEscaped (rowNodes row) = (htmlRow row).toList := by
  simp [rowNodes, writeEscaped_cons, writeEscaped_nil, escapeHtml_empty, htmlRow]

theorem writeEscaped_table (rows : List (String × String)) :
    writeEscaped (tableNodes rows) = (htmlTable rows ++ "\n").toList := by
  have cells : writeEscaped (rows.flatMap rowNodes) = (String.join (rows.map htmlRow)).toList := by
    rw [writeEscaped_flatMap, String.toList_join, List.flatMap_map]
    simp only [writeEscaped_row]
  rw [tableNodes, List.cons_append, writeEscaped_cons, writeEscaped_append, cells]
  simp [writeEscaped_cons, writeEscaped_nil, escapeHtml_empty, escapeHtml_newline, htmlTable]

theorem writeEscaped_card (card : CheckCard) :
    writeEscaped (cardNodes card) = (htmlCard card).flatMap fun line => (line ++ "\n").toList := by
  have table : writeEscaped (if card.evidence = [] then [] else tableNodes card.evidence) =
      (if card.evidence = [] then [] else [htmlTable card.evidence]).flatMap
        fun line => (line ++ "\n").toList := by
    split_ifs
    · rfl
    · rw [writeEscaped_table, List.flatMap_singleton]
  rw [cardNodes, writeEscaped_append, table, htmlCard, List.flatMap_append]
  simp [writeEscaped_cons, writeEscaped_nil, escapeHtml_empty, escapeHtml_newline,
    escapeHtml_append, escapeHtml_dash]

theorem writeEscaped_heading (level text : String) :
    writeEscaped (headingNodes level text) =
      ("<" ++ level ++ ">" ++ escapeHtml text ++ "</" ++ level ++ ">" ++ "\n").toList := by
  simp [headingNodes, writeEscaped_cons, writeEscaped_nil, escapeHtml_newline]

namespace Rendered

variable (input : Rendered)

/-- The lines in front of the rows on the system. -/
def headLines : List String :=
  ["<!DOCTYPE html>", "<html><head><meta charset=\"utf-8\">",
    "<title>" ++ escapeHtml "Lapcare Diagnostic Report" ++ "</title>", htmlStyle,
    "</head><body>", "<h1>" ++ escapeHtml "Lapcare Diagnostic Report" ++ "</h1>",
    "<p>" ++ escapeHtml ("Generated: " ++ input.generated) ++ "<br>" ++
      escapeHtml ("Lapcare version: " ++ input.appVersion) ++ "<br>" ++
      escapeHtml "Identifiers (serial numbers etc.) are excluded from this report." ++ "</p>"]

def systemLines : List String :=
  if input.systemRows = [] then []
  else ["<h2>" ++ escapeHtml "System" ++ "</h2>", htmlTable input.systemRows]

/-- The lines between the rows on the system and the checks. -/
def scoreLines : List String :=
  ["<h2>" ++ escapeHtml "Health Score" ++ "</h2>",
    "<p><strong>" ++ escapeHtml input.scoreText ++ "</strong> — " ++
      escapeHtml input.coverageText ++ "</p>",
    "<h2>" ++ escapeHtml "Checks" ++ "</h2>"]

theorem writeEscaped_head :
    writeEscaped input.headNodes = input.headLines.flatMap fun line => (line ++ "\n").toList := by
  simp [headNodes, headLines, writeEscaped_append, writeEscaped_cons, writeEscaped_nil,
    writeEscaped_heading, toList_htmlStyle, escapeHtml_styleRules, escapeHtml_empty,
    escapeHtml_newline]

theorem writeEscaped_system :
    writeEscaped input.systemNodes =
      input.systemLines.flatMap fun line => (line ++ "\n").toList := by
  rw [systemNodes, systemLines]
  split_ifs
  · rfl
  · rw [writeEscaped_append, writeEscaped_heading, writeEscaped_table]
    simp

theorem writeEscaped_score :
    writeEscaped input.scoreNodes =
      input.scoreLines.flatMap fun line => (line ++ "\n").toList := by
  simp [scoreNodes, scoreLines, writeEscaped_append, writeEscaped_cons, writeEscaped_heading,
    escapeHtml_append, escapeHtml_dash, escapeHtml_empty, escapeHtml_newline]

end Rendered

theorem renderHtml_eq_write (input : Rendered) :
    (renderHtml input).toList = writeEscaped input.nodes := by
  have cards : writeEscaped (input.cards.flatMap cardNodes) =
      (input.cards.flatMap htmlCard).flatMap fun line => (line ++ "\n").toList := by
    rw [writeEscaped_flatMap, List.flatMap_assoc]
    simp only [writeEscaped_card]
  have last : writeEscaped [node "/body" "", node "/html" "\n"] =
      ["</body></html>"].flatMap fun line => (line ++ "\n").toList := by
    simp [writeEscaped_cons, writeEscaped_nil, escapeHtml_empty, escapeHtml_newline]
  have lines : renderHtml input = "\n".intercalate (input.headLines ++ input.systemLines ++
      input.scoreLines ++ input.cards.flatMap htmlCard ++ ["</body></html>"]) ++ "\n" :=
    rfl
  rw [lines, intercalate_newline (by simp), List.flatMap_append, List.flatMap_append,
    List.flatMap_append, List.flatMap_append, ← input.writeEscaped_head,
    ← input.writeEscaped_system, ← input.writeEscaped_score, ← cards, ← last]
  rw [Rendered.nodes, writeEscaped_append, writeEscaped_append, writeEscaped_append,
    writeEscaped_append, List.append_assoc, List.append_assoc, List.append_assoc]

/-! ### The tags end where they are meant to -/

def AllTags (nodes : List Node) : Prop :=
  ∀ node ∈ nodes, IsTag node.tag

theorem AllTags.append {front rest : List Node} (tags : AllTags front) (tags' : AllTags rest) :
    AllTags (front ++ rest) := fun node member =>
  (List.mem_append.mp member).elim (tags node) (tags' node)

theorem allTags_flatMap {α : Type} {nodes : α → List Node} {items : List α}
    (each : ∀ item, AllTags (nodes item)) : AllTags (items.flatMap nodes) := by
  intro node member
  obtain ⟨item, -, within⟩ := List.mem_flatMap.mp member
  exact each item node within

theorem allTags_cons {tag text : String} {rest : List Node} (ends : IsTag tag.toList)
    (tags : AllTags rest) : AllTags (node tag text :: rest) :=
  List.forall_mem_cons.mpr ⟨ends, tags⟩

theorem allTags_nil : AllTags [] := nofun

theorem allTags_table (rows : List (String × String)) : AllTags (tableNodes rows) := by
  have row (row : String × String) : AllTags (rowNodes row) := by
    simp only [AllTags, rowNodes, node, List.forall_mem_cons]
    exact ⟨by decide, by decide, by decide, by decide, by decide, by decide, nofun⟩
  rw [tableNodes, List.cons_append]
  exact allTags_cons (by decide)
    ((allTags_flatMap row).append (allTags_cons (by decide) allTags_nil))

/-- Whatever the status class is, the colour ends the attribute that it stands in. -/
theorem isTag_span (card : CheckCard) :
    IsTag ("span style=\"color:" ++ lookupOr cssStatus card.statusCss "#57606a" ++
      "\"").toList := by
  have known := lookupOr_mem cssStatus card.statusCss "#57606a"
  simp only [cssStatus, List.map_cons, List.map_nil, List.mem_cons, List.not_mem_nil,
    or_false] at known
  -- the colours of the table, or the fallback
  rcases known with colour | colour | colour | colour
  · rw [cssStatus, colour]
    decide
  · rw [cssStatus, colour]
    decide
  · rw [cssStatus, colour]
    decide
  · rw [cssStatus, colour]
    decide

theorem allTags_card (card : CheckCard) : AllTags (cardNodes card) := by
  have evidence : AllTags (if card.evidence = [] then [] else tableNodes card.evidence) := by
    split_ifs
    · exact allTags_nil
    · exact allTags_table card.evidence
  exact allTags_cons (by decide) (allTags_cons (isTag_span card) (allTags_cons (by decide)
    (allTags_cons (by decide) (allTags_cons (by decide) (allTags_cons (by decide) evidence)))))

namespace Rendered

variable (input : Rendered)

theorem allTags_head : AllTags input.headNodes := by
  simp only [AllTags, headNodes, headingNodes, node, List.cons_append, List.nil_append,
    List.forall_mem_cons]
  refine ⟨?_, ?_, ?_, ?_, ?_, ?_, ?_, ?_, ?_, ?_, ?_, ?_, ?_, ?_, ?_, ?_, nofun⟩
  all_goals decide

theorem allTags_system : AllTags input.systemNodes := by
  rw [systemNodes]
  split_ifs
  · exact allTags_nil
  · exact allTags_cons (by decide) (allTags_cons (by decide) (allTags_table input.systemRows))

theorem allTags_score : AllTags input.scoreNodes := by
  simp only [AllTags, scoreNodes, headingNodes, node, List.cons_append, List.nil_append,
    List.forall_mem_cons]
  refine ⟨?_, ?_, ?_, ?_, ?_, ?_, ?_, ?_, nofun⟩
  all_goals decide

theorem allTags_nodes : AllTags input.nodes :=
  input.allTags_head.append (input.allTags_system.append (input.allTags_score.append
    ((allTags_flatMap allTags_card).append
      (allTags_cons (by decide) (allTags_cons (by decide) allTags_nil)))))

end Rendered

/-! ### Tags and shapes -/

def tagsOf (nodes : List Node) : List (List Char) :=
  nodes.map (·.tag)

theorem tagsOf_append (front rest : List Node) :
    tagsOf (front ++ rest) = tagsOf front ++ tagsOf rest :=
  List.map_append

/-- The tags of a table depend on the number of its rows. -/
theorem tagsOf_table {rows rows' : List (String × String)} (same : rows.length = rows'.length) :
    tagsOf (tableNodes rows) = tagsOf (tableNodes rows') := by
  have cells : tagsOf (rows.flatMap rowNodes) = tagsOf (rows'.flatMap rowNodes) := by
    induction rows generalizing rows' with
    | nil => rw [List.length_eq_zero_iff.mp same.symm]
    | cons row rows ih =>
      obtain ⟨row', rows', rfl⟩ := List.exists_cons_of_length_eq_add_one same.symm
      rw [List.flatMap_cons, List.flatMap_cons, tagsOf_append, tagsOf_append,
        ih (Nat.succ.inj same)]
      rfl
  rw [tableNodes, tableNodes, tagsOf_append, tagsOf_append]
  exact congrArg (· ++ _) (congrArg ("table".toList :: ·) cells)

theorem tagsOf_card {card card' : CheckCard} (status : card.statusCss = card'.statusCss)
    (evidence : card.evidence.length = card'.evidence.length) :
    tagsOf (cardNodes card) = tagsOf (cardNodes card') := by
  -- as many rows means that both tables are there or neither is
  have table : tagsOf (if card.evidence = [] then [] else tableNodes card.evidence) =
      tagsOf (if card'.evidence = [] then [] else tableNodes card'.evidence) := by
    have none : card.evidence = [] ↔ card'.evidence = [] := by
      rw [← List.length_eq_zero_iff, evidence, List.length_eq_zero_iff]
    by_cases empty : card.evidence = []
    · rw [if_pos empty, if_pos (none.mp empty)]
    · rw [if_neg empty, if_neg (none.not.mp empty), tagsOf_table evidence]
  rw [cardNodes, cardNodes, tagsOf_append, tagsOf_append, table, status]
  rfl

namespace Rendered

/-- Reports of one shape have the same tags. -/
theorem SameShape.tagsOf_nodes {first second : Rendered} (same : SameShape first second) :
    tagsOf first.nodes = tagsOf second.nodes := by
  have system : tagsOf first.systemNodes = tagsOf second.systemNodes := by
    have none : first.systemRows = [] ↔ second.systemRows = [] := by
      rw [← List.length_eq_zero_iff, same.systemRows, List.length_eq_zero_iff]
    rw [systemNodes, systemNodes]
    by_cases empty : first.systemRows = []
    · rw [if_pos empty, if_pos (none.mp empty)]
    · rw [if_neg empty, if_neg (none.not.mp empty), tagsOf_append, tagsOf_append,
        tagsOf_table same.systemRows]
  have cards :
      tagsOf (first.cards.flatMap cardNodes) = tagsOf (second.cards.flatMap cardNodes) := by
    have pairwise := same.cards
    -- the induction is on the cards in pairs, so they must stand alone
    generalize first.cards = cards, second.cards = cards' at pairwise
    induction pairwise with
    | nil => rfl
    | cons alike _ ih =>
      rw [List.flatMap_cons, List.flatMap_cons, tagsOf_append, tagsOf_append, ih,
        tagsOf_card alike.1 alike.2]
  rw [nodes, nodes, tagsOf_append, tagsOf_append, tagsOf_append, tagsOf_append, tagsOf_append,
    tagsOf_append, tagsOf_append, tagsOf_append, system, cards]
  rfl

end Rendered

theorem unescapedNodes_renderHtml (input : Rendered) :
    unescapedNodes (renderHtml input) = input.nodes := by
  rw [unescapedNodes, readTags, renderHtml_eq_write]
  exact Markup.map_lex_write unescapeHtml_escapeHtml bracket_notMem_escapeHtmlChar
    input.allTags_nodes

/-- Unescaping a text leaves its tag. -/
theorem tags_renderHtml (input : Rendered) : tags (renderHtml input) = tagsOf input.nodes := by
  rw [← unescapedNodes_renderHtml, unescapedNodes, tagsOf, List.map_map]
  rfl

/-- Reports of one shape have the same tags with the same attributes, whatever their texts
hold, and the texts of every report come back in order. -/
theorem html_structure :
    (∀ first second : Rendered, first.SameShape second →
      tags (renderHtml first) = tags (renderHtml second)) ∧
    ∀ input : Rendered, (readTags (renderHtml input)).1.text = [] ∧
      unescapedNodes (renderHtml input) = input.nodes := by
  refine ⟨fun first second same => ?_, fun input => ⟨?_, unescapedNodes_renderHtml input⟩⟩
  · rw [tags_renderHtml, tags_renderHtml, same.tagsOf_nodes]
  · rw [readTags, renderHtml_eq_write, writeEscaped, Markup.fst_lex_write]

/-- A report on a machine with the model, and on the fullest of its filesystems. -/
def mountReport (model mount : String) : Rendered where
  generated := "2026-07-10 00:00 UTC"
  appVersion := "0.5.0"
  systemRows := [("Model", model), ("BIOS", "1.40")]
  scoreText := "80 / 100"
  coverageText := "based on 1 of 5 signals"
  cards :=
    [{ checkId := "battery-wear", title := "Battery wear", statusText := "Not measured"
       statusCss := "dim-label", subtitle := "The data source is not available on this system." },
      { checkId := "disk-space", title := "Disk space", statusText := "Warning"
        statusCss := "warning", subtitle := "high confidence"
        evidence := [("Least free space", "7.5%"), ("Fullest filesystem", mount)] }]

/-- Scripts in the places of a model and of a mountpoint add no tag. -/
theorem mountReport_tags :
    tags (renderHtml (mountReport "<script>alert(1)</script>" "/media/</td><script>")) =
      tags (renderHtml (mountReport "ThinkPad E16 Gen 2" "/home")) :=
  html_structure.1 _ _ ⟨rfl, .cons ⟨rfl, rfl⟩ (.cons ⟨rfl, rfl⟩ .nil)⟩

end Lapcare.Pages
