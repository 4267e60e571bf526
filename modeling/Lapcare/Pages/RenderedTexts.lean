import Lapcare.Pages.ReportRender
import Lapcare.Text.Occurs

/-!
# Where an identifier can stand in a rendering

Occurrences of a long word of hexadecimal digits and dashes, such as a serial number or a
UUID, in the Markdown and the HTML report. Everything that a rendering adds of its own keeps
such words apart and has none, and escaping leaves them as they are.

## Main results

* `infix_renderMarkdown_iff`, `infix_renderHtml_iff` — both show the texts they are given
-/

namespace Lapcare.Pages

open Lapcare.Core Text

/-- A hexadecimal digit or a dash. -/
def isIdLetter (c : Char) : Bool :=
  c.isDigit || ('a' ≤ c && c ≤ 'f') || ('A' ≤ c && c ≤ 'F') || c == '-'

/-- A word of such characters, longer than any in the fixed texts of an export. -/
abbrev IdWord (word : List Char) : Prop := LongWord isIdLetter 9 word

/-- The text has no long word of such characters. -/
abbrev plainText (text : List Char) : Bool := brief isIdLetter 9 0 text

/-- A text is checked character by character: its bytes would have to be decoded. -/
theorem spelled {check : List Char → Bool} {text : String} {chars : List Char}
    (same : String.ofList chars = text) (checked : check chars = true) :
    check text.toList = true := by
  rw [← same, String.toList_ofList]
  exact checked

section Lines

variable {word : List Char}

/-- Some line has the word. -/
def Anywhere (word : List Char) (lines : List String) : Prop :=
  ∃ line ∈ lines, word <:+: line.toList

@[simp] theorem anywhere_nil : ¬ Anywhere word [] := by
  simp [Anywhere]

@[simp] theorem anywhere_cons (line : String) (lines : List String) :
    Anywhere word (line :: lines) ↔ word <:+: line.toList ∨ Anywhere word lines :=
  List.exists_mem_cons_iff ..

@[simp] theorem anywhere_append (front rest : List String) :
    Anywhere word (front ++ rest) ↔ Anywhere word front ∨ Anywhere word rest := by
  simp only [Anywhere, List.mem_append, or_and_right, exists_or]

@[simp] theorem anywhere_map {α : Type} (line : α → String) (items : List α) :
    Anywhere word (items.map line) ↔ ∃ item ∈ items, word <:+: (line item).toList := by
  simp [Anywhere]

@[simp] theorem anywhere_flatMap {α : Type} (lines : α → List String) (items : List α) :
    Anywhere word (items.flatMap lines) ↔ ∃ item ∈ items, Anywhere word (lines item) := by
  simp only [Anywhere, List.mem_flatMap]
  grind

variable (id : IdWord word)

include id

theorem infix_lines_iff (lines : List String) :
    word <:+: ("\n".intercalate lines).toList ↔ Anywhere word lines := by
  have newline : isIdLetter '\n' = false := by decide
  rw [String.toList_intercalate]
  change word <:+: ['\n'].intercalate _ ↔ _
  rw [id.intercalate_iff newline]
  simp [Anywhere]

theorem infix_plain_iff (text : String) (plain : plainText text.toList = true) :
    word <:+: text.toList ↔ False :=
  iff_false_intro (id.not_infix_of_brief plain)

end Lines

/-! ### Renderings -/

/-- A row has the word. -/
def RowShows (word : List Char) (row : String × String) : Prop :=
  word <:+: row.1.toList ∨ word <:+: row.2.toList

def CardShows (word : List Char) (card : CheckCard) : Prop :=
  word <:+: card.title.toList ∨ word <:+: card.statusText.toList ∨
    word <:+: card.subtitle.toList ∨ ∃ row ∈ card.evidence, RowShows word row

/-- What a rendering is given has the word somewhere. -/
def Rendered.Shows (input : Rendered) (word : List Char) : Prop :=
  word <:+: input.generated.toList ∨ word <:+: input.appVersion.toList ∨
    (∃ row ∈ input.systemRows, RowShows word row) ∨ word <:+: input.scoreText.toList ∨
    word <:+: input.coverageText.toList ∨ ∃ card ∈ input.cards, CardShows word card

section Markdown

variable {word : List Char} (id : IdWord word)

include id

theorem infix_markdownRow_iff (row : String × String) :
    word <:+: (markdownRow row).toList ↔ RowShows word row := by
  simp only [markdownRow, String.toList_append, String.reduceToList, List.append_assoc]
  rw [id.opening_iff (by rfl), id.fence_iff (by rfl)]
  rfl

theorem anywhere_markdownCard_iff (card : CheckCard) :
    Anywhere word (markdownCard card) ↔ CardShows word card := by
  have title : word <:+: ("### " ++ card.title ++ " — " ++ card.statusText).toList ↔
      word <:+: card.title.toList ∨ word <:+: card.statusText.toList := by
    simp only [String.toList_append, String.reduceToList, List.append_assoc]
    rw [id.opening_iff (by rfl), id.fence_iff (by rfl)]
  have rows :
      Anywhere word (if card.evidence = [] then [] else "" :: card.evidence.map markdownRow) ↔
        ∃ row ∈ card.evidence, RowShows word row := by
    split_ifs with none
    · simp [none]
    · simp [infix_markdownRow_iff id, id.ne_nil]
  simp only [markdownCard, anywhere_append, anywhere_cons, title, rows, CardShows,
    String.toList_empty, List.infix_nil, id.ne_nil, anywhere_nil, or_false, false_or, or_assoc]

theorem infix_renderMarkdown_iff (input : Rendered) :
    word <:+: (renderMarkdown input).toList ↔ input.Shows word := by
  have blank := infix_plain_iff id "" (spelled rfl rfl)
  have generated : word <:+: ("- Generated: " ++ input.generated).toList ↔
      word <:+: input.generated.toList := by
    rw [String.toList_append, id.opening_iff (by rfl)]
  have version : word <:+: ("- Lapcare version: " ++ input.appVersion).toList ↔
      word <:+: input.appVersion.toList := by
    rw [String.toList_append, id.opening_iff (by rfl)]
  have score : word <:+: ("**" ++ input.scoreText ++ "** — " ++ input.coverageText).toList ↔
      word <:+: input.scoreText.toList ∨ word <:+: input.coverageText.toList := by
    simp only [String.toList_append, String.reduceToList, List.append_assoc]
    rw [id.opening_iff (by rfl), id.fence_iff (by rfl)]
  have system : Anywhere word
        (if input.systemRows = [] then []
          else ["## System", ""] ++ input.systemRows.map markdownRow ++ [""]) ↔
      ∃ row ∈ input.systemRows, RowShows word row := by
    have heading := infix_plain_iff id "## System" (spelled rfl rfl)
    split_ifs with none
    · simp [none]
    · simp only [anywhere_append, anywhere_cons, anywhere_nil, anywhere_map, heading, blank,
        infix_markdownRow_iff id, false_or, or_false]
  -- the texts of the template are too plain for an identifier
  have title := infix_plain_iff id "# Lapcare Diagnostic Report"
    (spelled rfl rfl)
  have note := infix_plain_iff id
    "- Identifiers (serial numbers etc.) are excluded from this report."
    (spelled rfl rfl)
  have health := infix_plain_iff id "## Health Score" (spelled rfl rfl)
  have checks := infix_plain_iff id "## Checks" (spelled rfl rfl)
  rw [renderMarkdown, infix_lines_iff id]
  simp only [anywhere_append, anywhere_cons, anywhere_nil, anywhere_flatMap, generated, version,
    score, system, anywhere_markdownCard_iff id, Rendered.Shows, title, note, health, checks, blank,
    false_or, or_false, or_assoc]

end Markdown

section Html

variable {word : List Char} (id : IdWord word)

theorem lookupOr_mem (table : List (String × String)) (key fallback : String) :
    lookupOr table key fallback ∈ fallback :: table.map (·.2) := by
  unfold lookupOr
  cases found : table.lookup key with
  | none => exact List.mem_cons_self
  | some value =>
    obtain ⟨front, rest, split, -⟩ := List.lookup_eq_some_iff.1 found
    exact List.mem_cons_of_mem _ (List.mem_map.2 ⟨(key, value), by simp [split], rfl⟩)

include id

/-- Escaping neither makes nor breaks an occurrence: what an entity adds is short. -/
theorem infix_escapeHtml_iff (text : String) :
    word <:+: (escapeHtml text).toList ↔ word <:+: text.toList := by
  have special (c : Char) (letter : isIdLetter c = true) :
      c ≠ '&' ∧ c ≠ '<' ∧ c ≠ '>' ∧ c ≠ '"' ∧ c ≠ '\'' := by
    refine ⟨?_, ?_, ?_, ?_, ?_⟩ <;> rintro rfl <;> exact absurd letter (by decide)
  rw [escapeHtml, String.toList_ofList]
  apply id.flatMap_iff
  · intro c letter
    obtain ⟨ampersand, less, greater, quotation, apostrophe⟩ := special c letter
    simp only [escapeHtmlChar, if_neg ampersand, if_neg less, if_neg greater, if_neg quotation,
      if_neg apostrophe]
  · intro c other
    unfold escapeHtmlChar
    split_ifs
    · rfl
    · rfl
    · rfl
    · rfl
    · rfl
    · exact fence_of_others (List.cons_ne_nil c []) (by simpa using other)

/-- Escaped text between two tags. -/
theorem infix_tagged_iff (front back : String) (opens : opening isIdLetter 9 front.toList = true)
    (fenced : fence isIdLetter 9 back.toList = true) (text : String) :
    word <:+: (front ++ escapeHtml text ++ back).toList ↔ word <:+: text.toList := by
  rw [String.toList_append, String.toList_append, id.append_fence_iff fenced, id.opening_iff opens,
    infix_escapeHtml_iff id]

theorem infix_htmlRow_iff (row : String × String) :
    word <:+: (htmlRow row).toList ↔ RowShows word row := by
  simp only [htmlRow, String.toList_append, String.reduceToList, List.append_assoc]
  rw [id.opening_iff (by rfl), id.fence_iff (by rfl),
    id.append_fence_iff (by rfl), infix_escapeHtml_iff id, infix_escapeHtml_iff id]
  rfl

theorem infix_htmlTable_iff (rows : List (String × String)) :
    word <:+: (htmlTable rows).toList ↔ ∃ row ∈ rows, RowShows word row := by
  have ends (row : String × String) : ∃ front last,
      (htmlRow row).toList = front ++ last ∧ fence isIdLetter 9 last = true :=
    ⟨_, "</td></tr>".toList, String.toList_append .., by rfl⟩
  simp only [htmlTable, String.toList_append, String.toList_join, String.reduceToList,
    List.append_assoc, List.flatMap_map]
  rw [id.opening_iff (by rfl), id.append_fence_iff (by rfl),
    id.flatMap_fence_iff ends]
  simp only [infix_htmlRow_iff id]

theorem anywhere_htmlCard_iff (card : CheckCard) :
    Anywhere word (htmlCard card) ↔ CardShows word card := by
  have colour : word <:+: (lookupOr cssStatus card.statusCss "#57606a").toList ↔ False := by
    have plain :
        ("#57606a" :: cssStatus.map (·.2)).all (fun text => plainText text.toList) = true := by
      rfl
    exact infix_plain_iff id _ (List.all_eq_true.1 plain _ (lookupOr_mem ..))
  have title : word <:+: ("<h3>" ++ escapeHtml card.title ++ " — <span style=\"color:" ++
      lookupOr cssStatus card.statusCss "#57606a" ++ "\">" ++ escapeHtml card.statusText ++
      "</span></h3>").toList ↔
      word <:+: card.title.toList ∨ word <:+: card.statusText.toList := by
    simp only [String.toList_append, String.reduceToList, List.append_assoc]
    rw [id.opening_iff (by rfl), id.fence_iff (by rfl),
      id.fence_iff (by rfl), id.append_fence_iff (by rfl), colour, false_or,
      infix_escapeHtml_iff id, infix_escapeHtml_iff id]
  have subtitle : word <:+: ("<p>" ++ escapeHtml card.subtitle ++ "</p>").toList ↔
      word <:+: card.subtitle.toList :=
    infix_tagged_iff id "<p>" "</p>" (by rfl) (by rfl) card.subtitle
  have rows : Anywhere word (if card.evidence = [] then [] else [htmlTable card.evidence]) ↔
      ∃ row ∈ card.evidence, RowShows word row := by
    split_ifs with none
    · simp [none]
    · simp only [anywhere_cons, anywhere_nil, or_false, infix_htmlTable_iff id]
  simp only [htmlCard, anywhere_append, anywhere_cons, anywhere_nil, title, subtitle, rows,
    CardShows, or_false, or_assoc]

theorem infix_htmlHead_iff (generated version : String) :
    word <:+: ("<p>" ++ escapeHtml ("Generated: " ++ generated) ++ "<br>" ++
        escapeHtml ("Lapcare version: " ++ version) ++ "<br>" ++
        escapeHtml "Identifiers (serial numbers etc.) are excluded from this report." ++
        "</p>").toList ↔
      word <:+: generated.toList ∨ word <:+: version.toList := by
  have note := infix_plain_iff id "Identifiers (serial numbers etc.) are excluded from this report."
    (spelled rfl rfl)
  simp only [String.toList_append, String.reduceToList, List.append_assoc]
  rw [id.opening_iff (by rfl), id.fence_iff (by rfl),
    id.fence_iff (by rfl), id.append_fence_iff (by rfl),
    infix_escapeHtml_iff id, infix_escapeHtml_iff id, infix_escapeHtml_iff id, note, or_false,
    String.toList_append, String.toList_append, id.opening_iff (by rfl),
    id.opening_iff (by rfl)]

theorem infix_renderHtml_iff (input : Rendered) :
    word <:+: (renderHtml input).toList ↔ input.Shows word := by
  have doctype := infix_plain_iff id "<!DOCTYPE html>" (spelled rfl rfl)
  have charset := infix_plain_iff id "<html><head><meta charset=\"utf-8\">"
    (spelled rfl rfl)
  have style : word <:+: htmlStyle.toList ↔ False := by
    unfold htmlStyle
    rw [String.toList_append, String.toList_append, List.append_assoc,
      id.opening_iff (spelled rfl rfl),
      id.opening_iff (spelled rfl rfl)]
    exact infix_plain_iff id _ (spelled rfl rfl)
  have body := infix_plain_iff id "</head><body>" (spelled rfl rfl)
  have report := infix_plain_iff id "Lapcare Diagnostic Report"
    (spelled rfl rfl)
  have title := (infix_tagged_iff id "<title>" "</title>" (by rfl) (by rfl)
    "Lapcare Diagnostic Report").trans report
  have heading := (infix_tagged_iff id "<h1>" "</h1>" (by rfl) (by rfl)
    "Lapcare Diagnostic Report").trans report
  -- headings are escaped like any other text, and hold nothing to escape
  have section_ := infix_tagged_iff id "<h2>" "</h2>" (by rfl) (by rfl)
  have systemHeading := (section_ "System").trans
    (infix_plain_iff id "System" (spelled rfl rfl))
  have health := (section_ "Health Score").trans
    (infix_plain_iff id "Health Score" (spelled rfl rfl))
  have checks := (section_ "Checks").trans
    (infix_plain_iff id "Checks" (spelled rfl rfl))
  have closing := infix_plain_iff id "</body></html>" (spelled rfl rfl)
  have score : word <:+: ("<p><strong>" ++ escapeHtml input.scoreText ++ "</strong> — " ++
      escapeHtml input.coverageText ++ "</p>").toList ↔
      word <:+: input.scoreText.toList ∨ word <:+: input.coverageText.toList := by
    simp only [String.toList_append, String.reduceToList, List.append_assoc]
    rw [id.opening_iff (by rfl), id.fence_iff (by rfl),
      id.append_fence_iff (by rfl), infix_escapeHtml_iff id, infix_escapeHtml_iff id]
  have system : Anywhere word
        (if input.systemRows = [] then []
          else ["<h2>" ++ escapeHtml "System" ++ "</h2>", htmlTable input.systemRows]) ↔
      ∃ row ∈ input.systemRows, RowShows word row := by
    split_ifs with none
    · simp [none]
    · simp only [anywhere_cons, anywhere_nil, systemHeading, infix_htmlTable_iff id, false_or,
        or_false]
  rw [renderHtml, String.toList_append, id.append_fence_iff (by rfl),
    infix_lines_iff id]
  simp only [anywhere_append, anywhere_cons, anywhere_nil, anywhere_flatMap, doctype, charset,
    title, style, body, heading, infix_htmlHead_iff id, system, health, score, checks,
    anywhere_htmlCard_iff id, closing, Rendered.Shows, false_or, or_false, or_assoc]

end Html

end Lapcare.Pages
