import Mathlib.Data.List.Basic
import Mathlib.Data.List.DropRight
import Mathlib.Data.List.Induction
import Mathlib.Data.List.TakeWhile

/-!
# White space and lines

`str.strip`, `str.split` and `str.splitlines` on the characters of a string. The two
notions differ: every line boundary is white space, and a unit separator or a blank is
white space without ending a line.

## Main results

* `splitFields_eq_cons` — the first field goes up to the first white space
* `splitLines_eq_cons` — the first line goes up to the first boundary
* `splitLines_append_newline` — a newline separates what stands before and after it
* `filterMap_splitLines_intercalate` — texts that stand one per line are read one by one
* `readEach_strip` — a reader of fields does not see what stripping takes away
-/

namespace Text

/-- `str.isspace`. -/
def isSpace (c : Char) : Bool :=
  let n := c.toNat
  (0x09 ≤ n && n ≤ 0x0d) || (0x1c ≤ n && n ≤ 0x20) || n == 0x85 || n == 0xa0 || n == 0x1680 ||
    (0x2000 ≤ n && n ≤ 0x200a) || n == 0x2028 || n == 0x2029 || n == 0x202f || n == 0x205f ||
    n == 0x3000

/-- The boundaries of `str.splitlines`. -/
def isLineBreak (c : Char) : Bool :=
  let n := c.toNat
  (0x0a ≤ n && n ≤ 0x0d) || (0x1c ≤ n && n ≤ 0x1e) || n == 0x85 || n == 0x2028 || n == 0x2029

/-- That a property of characters fails throughout a text is computed along the text. -/
theorem forall_eq_false_of_all {p : Char → Bool} {text : List Char}
    (checked : text.all (! p ·) = true) : ∀ c ∈ text, p c = false := by
  simpa using checked

/-- Every line boundary is white space. -/
theorem isSpace_of_isLineBreak {c : Char} (boundary : isLineBreak c = true) :
    isSpace c = true := by
  simp only [isLineBreak, isSpace, Bool.or_eq_true, Bool.and_eq_true, decide_eq_true_eq,
    beq_iff_eq] at boundary ⊢
  omega

theorem isLineBreak_of_notSpace {c : Char} (solid : isSpace c = false) :
    isLineBreak c = false := by
  by_contra broken
  rw [isSpace_of_isLineBreak (Bool.not_eq_false _ ▸ broken)] at solid
  exact Bool.noConfusion solid

/-- `str.lstrip`. -/
def lstrip (text : List Char) : List Char :=
  text.dropWhile isSpace

/-- `str.rstrip`. -/
def rstrip (text : List Char) : List Char :=
  (text.reverse.dropWhile isSpace).reverse

/-- `str.strip`. -/
def strip (text : List Char) : List Char :=
  rstrip (lstrip text)

/-- `str.split` without an argument: the non-empty runs between white space. -/
def splitFields (text : List Char) : List (List Char) :=
  (text.splitOnP isSpace).filter (· ≠ [])

/-- `str.splitlines`. A carriage return and a newline are one boundary, and a boundary
at the end starts no further line. -/
def splitLines : List Char → List (List Char)
  | [] => []
  | '\r' :: '\n' :: rest => [] :: splitLines rest
  | c :: rest =>
      if isLineBreak c then [] :: splitLines rest
      else
        match splitLines rest with
        | [] => [[c]]
        | line :: lines => (c :: line) :: lines

example : splitLines "a\r\n\nb\x1fc\x0b".toList = ["a".toList, [], "b\x1fc".toList] := by decide

/-! ### Fields -/

/-- White space ends a field, and the fields after it do not depend on the one before. -/
theorem splitFields_append_cons {field : List Char} (solid : ∀ c ∈ field, isSpace c = false)
    (filled : field ≠ []) {w : Char} (space : isSpace w = true) (rest : List Char) :
    splitFields (field ++ w :: rest) = field :: splitFields rest := by
  rw [splitFields, List.splitOnP_append_cons_of_forall_mem solid w space,
    List.filter_cons_of_pos (by simpa using filled)]
  rfl

/-- White space before a text, or after it, does not change its fields. -/
theorem splitFields_cons_space {w : Char} (space : isSpace w = true) (rest : List Char) :
    splitFields (w :: rest) = splitFields rest := by
  rw [splitFields, List.splitOnP_cons_eq_if_modifyHead, if_pos space]
  rfl

theorem splitFields_append_space {w : Char} (space : isSpace w = true) (text : List Char) :
    splitFields (text ++ [w]) = splitFields text := by
  rw [splitFields, List.splitOnP_append_cons text [] space, List.filter_append]
  exact List.append_nil _

theorem splitFields_field {field : List Char} (solid : ∀ c ∈ field, isSpace c = false)
    (filled : field ≠ []) : splitFields field = [field] := by
  rw [splitFields, List.splitOnP_eq_singleton solid,
    List.filter_cons_of_pos (by simpa using filled), List.filter_nil]

/-- The first field of a text that does not begin with white space goes up to the first
white space. -/
theorem splitFields_eq_cons {text : List Char} (filled : text.takeWhile (!isSpace ·) ≠ []) :
    ∃ more, splitFields text = text.takeWhile (!isSpace ·) :: more := by
  have solid : ∀ c ∈ text.takeWhile (!isSpace ·), isSpace c = false := by
    intro c member
    simpa using List.mem_takeWhile_imp member
  have parts := List.takeWhile_append_dropWhile (p := (!isSpace ·)) (l := text)
  cases rest : text.dropWhile (!isSpace ·) with
  | nil =>
    rw [rest, List.append_nil] at parts
    refine ⟨[], ?_⟩
    conv_lhs => rw [← parts]
    exact splitFields_field solid filled
  | cons w rest' =>
    have space : isSpace w = true := by
      have stopped := List.head?_dropWhile_not (!isSpace ·) text
      rw [rest] at stopped
      simpa using stopped
    rw [rest] at parts
    refine ⟨splitFields rest', ?_⟩
    conv_lhs => rw [← parts]
    exact splitFields_append_cons solid filled space rest'

/-- There is nothing to strip from a text without white space. -/
theorem strip_of_solid {text : List Char} (solid : ∀ c ∈ text, isSpace c = false) :
    strip text = text := by
  have kept (text : List Char) (solid : ∀ c ∈ text, isSpace c = false) :
      text.dropWhile isSpace = text := by
    cases text with
    | nil => rfl
    | cons c text =>
      have first := solid c List.mem_cons_self
      exact List.dropWhile_cons_of_neg (by simp [first])
  have backwards := kept text.reverse fun c member => solid c (List.mem_reverse.mp member)
  rw [strip, lstrip, kept text solid, rstrip, backwards, List.reverse_reverse]

theorem rstrip_append_space {w : Char} (space : isSpace w = true) (text : List Char) :
    rstrip (text ++ [w]) = rstrip text :=
  List.rdropWhile_concat_pos isSpace text w space

/-- What ends in a solid character is not stripped from the right, whatever follows. -/
theorem rstrip_append_of_solid {c : Char} (solid : isSpace c = false) (front rest : List Char) :
    rstrip (front ++ [c] ++ rest) = front ++ [c] ++ rstrip rest := by
  induction rest using List.reverseRecOn with
  | nil => exact (List.append_nil _).symm ▸ List.rdropWhile_concat_neg isSpace _ c (by simp [solid])
  | append_singleton rest w ih =>
    by_cases space : isSpace w = true
    · rw [← List.append_assoc, rstrip_append_space space, ih, rstrip_append_space space]
    · have kept (text : List Char) : rstrip (text ++ [w]) = text ++ [w] :=
        List.rdropWhile_concat_neg isSpace text w space
      rw [← List.append_assoc, kept, kept, List.append_assoc (front ++ [c])]

theorem strip_append_space {w : Char} (space : isSpace w = true) (text : List Char) :
    strip (text ++ [w]) = strip text := by
  have behind : lstrip (text ++ [w]) = if lstrip text = [] then [] else lstrip text ++ [w] := by
    rw [lstrip, List.dropWhile_append, List.dropWhile_cons_of_pos space]
    simp only [List.isEmpty_iff, List.dropWhile_nil]
    rfl
  rw [strip, behind, strip]
  by_cases blank : lstrip text = []
  · rw [if_pos blank, blank]
  · rw [if_neg blank, rstrip_append_space space]

/-- Stripping from the right keeps the first character, if it keeps any. -/
theorem lstrip_rstrip (text : List Char) :
    lstrip (rstrip (lstrip text)) = rstrip (lstrip text) := by
  obtain ⟨rest, whole⟩ : rstrip (lstrip text) <+: lstrip text := List.rdropWhile_prefix isSpace _
  cases kept : rstrip (lstrip text) with
  | nil => rfl
  | cons c more =>
    have first : (lstrip text).head? = some c := by rw [← whole, kept]; rfl
    have solid := List.head?_dropWhile_not isSpace text
    rw [lstrip] at first
    rw [first] at solid
    exact List.dropWhile_cons_of_neg (by simpa using solid)

@[simp] theorem strip_strip (text : List Char) : strip (strip text) = strip text := by
  change rstrip (lstrip (rstrip (lstrip text))) = rstrip (lstrip text)
  rw [lstrip_rstrip]
  exact List.rdropWhile_idempotent isSpace (lstrip text)

/-! ### Lines -/

/-- Only white space is stripped to nothing. -/
theorem strip_eq_nil_iff {text : List Char} :
    strip text = [] ↔ ∀ c ∈ text, isSpace c = true := by
  rw [strip, rstrip, List.reverse_eq_nil_iff, List.dropWhile_eq_nil_iff]
  simp only [List.mem_reverse]
  constructor
  · intro later c member
    rw [← @List.takeWhile_append_dropWhile _ isSpace text] at member
    rcases List.mem_append.1 member with front | rest
    · exact List.mem_takeWhile_imp front
    · exact later c rest
  · intro all c member
    exact all c ((List.dropWhile_sublist _).subset member)

theorem splitLines_char {c : Char} (within : isLineBreak c = false) (rest : List Char) :
    splitLines (c :: rest) = (c :: (splitLines rest).headD []) :: (splitLines rest).tail := by
  have notReturn : c ≠ '\r' := by
    rintro rfl
    exact absurd within (by decide)
  rw [splitLines]
  · rw [within]
    cases splitLines rest <;> rfl
  · rintro - rfl
    exact absurd rfl notReturn

theorem splitLines_boundary {c : Char} (boundary : isLineBreak c = true) {rest : List Char}
    (notPair : c = '\r' → rest.head? ≠ some '\n') :
    splitLines (c :: rest) = [] :: splitLines rest := by
  rw [splitLines, if_pos boundary]
  rintro more pairing rfl
  exact notPair pairing rfl

/-- The first line goes up to the first boundary. -/
theorem splitLines_eq_cons {text : List Char} (filled : text ≠ []) :
    splitLines text = text.takeWhile (!isLineBreak ·) :: (splitLines text).tail := by
  induction text using splitLines.induct with
  | case1 => exact absurd rfl filled
  | case2 rest => rfl
  | case3 c rest notPair boundary =>
    rw [splitLines, if_pos boundary, List.takeWhile_cons_of_neg (by simp [boundary])]
    · rfl
    · exact notPair
  | case4 c rest notPair within none ih =>
    have single : rest = [] := by
      by_contra more
      rw [ih more] at none
      exact List.cons_ne_nil _ _ none
    have within : isLineBreak c = false := by simpa using within
    rw [single, splitLines_char within, List.takeWhile_cons_of_pos (by simp [within])]
    rfl
  | case5 c rest notPair within line lines some ih =>
    have within : isLineBreak c = false := by simpa using within
    have more : rest ≠ [] := by
      rintro rfl
      exact List.cons_ne_nil _ _ some.symm
    rw [splitLines_char within, List.takeWhile_cons_of_pos (by simp [within]), ih more]
    rfl

/-- A newline separates the lines before it from those after it. -/
theorem splitLines_append_newline (front rest : List Char) :
    splitLines (front ++ '\n' :: rest) = splitLines (front ++ ['\n']) ++ splitLines rest := by
  induction front using splitLines.induct with
  | case1 => rfl
  | case2 front ih => exact congrArg ([] :: ·) ih
  | case3 c front notPair boundary ih =>
    by_cases pair : c = '\r' ∧ front = []
    · -- the newline completes the pair that ends the front
      obtain ⟨rfl, rfl⟩ := pair
      rfl
    -- otherwise the boundary ends a line on its own
    have headless (more : List Char) :
        c = '\r' → (front ++ '\n' :: more).head? ≠ some '\n' := by
      rintro rfl newline
      cases front with
      | nil => exact pair ⟨rfl, rfl⟩
      | cons d front =>
        obtain rfl : d = '\n' := by simpa using newline
        exact notPair front rfl rfl
    rw [List.cons_append, List.cons_append, splitLines_boundary boundary (headless rest),
      splitLines_boundary boundary (headless []), ih, List.cons_append]
  | case4 c front notPair within none ih | case5 c front notPair within line lines some ih =>
    have within : isLineBreak c = false := by simpa using within
    rw [List.cons_append, List.cons_append, splitLines_char within, splitLines_char within, ih]
    -- the newline is part of a line, so there is a first one to lengthen
    have opened : splitLines (front ++ ['\n']) ≠ [] := by
      rw [splitLines_eq_cons (by simp)]
      exact List.cons_ne_nil _ _
    cases lines' : splitLines (front ++ ['\n']) with
    | nil => exact absurd lines' opened
    | cons first others => rfl

/-! ### Reading a text line by line

A reader that looks at the fields of a line, and makes nothing of a line without any, does
not see the white space around a text. -/

section Reading

variable {β : Type} (read : List (List Char) → Option β)

def readEach (lines : List (List Char)) : List β :=
  lines.filterMap fun line => read (splitFields line)

variable {read} (blank : read [] = none)

include blank

theorem readEach_eq (lines : List (List Char)) :
    readEach read lines =
      (read (splitFields (lines.headD []))).toList ++ readEach read lines.tail := by
  cases lines with
  | nil =>
    change [] = (read []).toList ++ []
    rw [blank]
    rfl
  | cons line lines =>
    rw [readEach, List.filterMap_cons]
    change _ = (read (splitFields line)).toList ++ readEach read lines
    cases read (splitFields line) <;> rfl

theorem readEach_cons_space {w : Char} (space : isSpace w = true) (rest : List Char) :
    readEach read (splitLines (w :: rest)) = readEach read (splitLines rest) := by
  have skip (lines : List (List Char)) : readEach read ([] :: lines) = readEach read lines :=
    List.filterMap_cons_none blank
  by_cases boundary : isLineBreak w = true
  · by_cases pair : w = '\r' ∧ rest.head? = some '\n'
    · obtain ⟨rfl, newline⟩ := pair
      obtain ⟨rest, rfl⟩ := List.head?_eq_some_iff.mp newline
      rfl
    · rw [splitLines_boundary boundary fun second newline => pair ⟨second, newline⟩, skip]
  · rw [splitLines_char (by simpa using boundary), readEach_eq blank,
      readEach_eq blank (splitLines rest)]
    exact congrArg (fun fields => (read fields).toList ++ readEach read (splitLines rest).tail)
      (splitFields_cons_space space _)

theorem readEach_lstrip (text : List Char) :
    readEach read (splitLines (lstrip text)) = readEach read (splitLines text) := by
  induction text with
  | nil => rfl
  | cons c text ih =>
    by_cases space : isSpace c = true
    · rw [lstrip, List.dropWhile_cons_of_pos space, readEach_cons_space blank space]
      exact ih
    · rw [lstrip, List.dropWhile_cons_of_neg space]

theorem readEach_of_ends {longer lines : List (List Char)} {w : Char} (space : isSpace w = true)
    (ends : longer.headD [] = lines.headD [] ∨ longer.headD [] = lines.headD [] ++ [w])
    (rest : readEach read longer.tail = readEach read lines.tail) :
    readEach read longer = readEach read lines := by
  have fields : splitFields (longer.headD []) = splitFields (lines.headD []) := by
    rcases ends with same | blanked
    · rw [same]
    · rw [blanked, splitFields_append_space space]
  rw [readEach_eq blank, fields, rest, ← readEach_eq blank]

/-- White space at the end lengthens the last line by a blank, or starts a line without
fields. By induction on the lines. -/
theorem splitLines_append_space {w : Char} (space : isSpace w = true) (text : List Char) :
    ((splitLines (text ++ [w])).headD [] = (splitLines text).headD [] ∨
      (splitLines (text ++ [w])).headD [] = (splitLines text).headD [] ++ [w]) ∧
    readEach read (splitLines (text ++ [w])).tail = readEach read (splitLines text).tail := by
  induction text using splitLines.induct with
  | case1 =>
    by_cases boundary : isLineBreak w = true
    · have alone : w = '\r' → ([] : List Char).head? ≠ some '\n' := by simp
      rw [List.nil_append, splitLines_boundary boundary alone]
      exact ⟨.inl rfl, rfl⟩
    · rw [List.nil_append, splitLines_char (by simpa using boundary)]
      exact ⟨.inr rfl, rfl⟩
  | case2 text ih => exact ⟨.inl rfl, readEach_of_ends blank space ih.1 ih.2⟩
  | case3 c text notPair boundary ih =>
    by_cases pair : c = '\r' ∧ text = [] ∧ w = '\n'
    · -- the white space completes the pair that ends the text
      obtain ⟨rfl, rfl, rfl⟩ := pair
      exact ⟨.inl rfl, rfl⟩
    -- otherwise a carriage return here has no newline after it
    have headless : c = '\r' → text.head? ≠ some '\n' := by
      rintro rfl newline
      obtain ⟨rest, rfl⟩ := List.head?_eq_some_iff.mp newline
      exact notPair rest rfl rfl
    have headlessLonger : c = '\r' → (text ++ [w]).head? ≠ some '\n' := by
      rintro rfl newline
      cases text with
      | nil => exact pair ⟨rfl, rfl, by simpa using newline⟩
      | cons d text => exact headless rfl newline
    rw [List.cons_append, splitLines_boundary boundary headlessLonger,
      splitLines_boundary boundary headless]
    exact ⟨.inl rfl, readEach_of_ends blank space ih.1 ih.2⟩
  | case4 c text notPair within none ih | case5 c text notPair within line lines some ih =>
    have within : isLineBreak c = false := by simpa using within
    rw [List.cons_append, splitLines_char within, splitLines_char within]
    refine ⟨?_, ih.2⟩
    rcases ih.1 with same | blanked
    · exact .inl (congrArg (c :: ·) same)
    · exact .inr (congrArg (c :: ·) blanked)

theorem readEach_append_space {w : Char} (space : isSpace w = true) (text : List Char) :
    readEach read (splitLines (text ++ [w])) = readEach read (splitLines text) := by
  have parts := splitLines_append_space blank space text
  exact readEach_of_ends blank space parts.1 parts.2

/-- A reader of fields does not see what stripping takes away. -/
theorem readEach_strip (text : List Char) :
    readEach read (splitLines (strip text)) = readEach read (splitLines text) := by
  rw [← readEach_lstrip blank text, strip]
  generalize lstrip text = text
  induction text using List.reverseRecOn with
  | nil => rfl
  | append_singleton text w ih =>
    by_cases space : isSpace w = true
    · have shorter : rstrip (text ++ [w]) = rstrip text := by
        rw [rstrip, List.reverse_concat, List.dropWhile_cons_of_pos space]
        rfl
      rw [shorter, ih, readEach_append_space blank space]
    · rw [rstrip, List.reverse_concat, List.dropWhile_cons_of_neg space, List.reverse_cons,
        List.reverse_reverse]

end Reading

/-! ### Lines one after the other -/

/-- What follows a boundary that is not the first half of a pair. -/
theorem head?_ne_newline {c : Char} {rest : List Char}
    (notPair : ∀ more, c = '\r' → rest = '\n' :: more → False) :
    c = '\r' → rest.head? ≠ some '\n' := by
  rintro same newline
  obtain ⟨more, split⟩ := List.head?_eq_some_iff.mp newline
  exact notPair more same split

/-- A line is made of characters of the text, none of them a boundary. -/
theorem mem_of_mem_splitLines {text line : List Char} (listed : line ∈ splitLines text) :
    ∀ c ∈ line, c ∈ text ∧ isLineBreak c = false := by
  intro d within
  induction text using splitLines.induct generalizing line with
  | case1 => exact nomatch listed
  | case2 rest ih =>
    rcases List.mem_cons.mp listed with rfl | later
    · exact nomatch within
    · obtain ⟨member, unbroken⟩ := ih later within
      exact ⟨List.mem_cons_of_mem _ (List.mem_cons_of_mem _ member), unbroken⟩
  | case3 c rest notPair boundary ih =>
    rw [splitLines_boundary boundary (head?_ne_newline notPair)] at listed
    rcases List.mem_cons.mp listed with rfl | later
    · exact nomatch within
    · obtain ⟨member, unbroken⟩ := ih later within
      exact ⟨List.mem_cons_of_mem _ member, unbroken⟩
  | case4 c rest notPair inside none ih | case5 c rest notPair inside first lines some ih =>
    have inside : isLineBreak c = false := by simpa using inside
    -- the first line goes on with `c`, the others are those of the rest
    rw [splitLines_char inside] at listed
    rcases List.mem_cons.mp listed with rfl | later
    · rcases List.mem_cons.mp within with rfl | further
      · exact ⟨List.mem_cons_self, inside⟩
      · have listed : (splitLines rest).headD [] ∈ splitLines rest := by
          cases front : splitLines rest with
          | nil =>
            rw [front] at further
            exact nomatch further
          | cons head tail => exact List.mem_cons_self
        obtain ⟨member, unbroken⟩ := ih listed further
        exact ⟨List.mem_cons_of_mem _ member, unbroken⟩
    · obtain ⟨member, unbroken⟩ := ih (List.mem_of_mem_tail later) within
      exact ⟨List.mem_cons_of_mem _ member, unbroken⟩

/-- A text without boundaries is one line, if it is not empty. -/
theorem splitLines_unbroken {text : List Char} (unbroken : ∀ c ∈ text, isLineBreak c = false)
    (filled : text ≠ []) : splitLines text = [text] := by
  induction text with
  | nil => exact absurd rfl filled
  | cons c rest ih =>
    rw [splitLines_char (unbroken c List.mem_cons_self)]
    by_cases ends : rest = []
    · subst ends
      rfl
    · rw [ih (fun d member => unbroken d (List.mem_cons_of_mem c member)) ends]
      rfl

/-- A newline at the end ends the last line, or an empty one. -/
theorem splitLines_newline (text : List Char) :
    splitLines (text ++ ['\n']) = splitLines text ∨
      splitLines (text ++ ['\n']) = splitLines text ++ [[]] := by
  induction text using splitLines.induct with
  | case1 => exact .inr rfl
  | case2 rest ih => exact ih.imp (congrArg ([] :: ·)) (congrArg ([] :: ·))
  | case3 c rest notPair boundary ih =>
    by_cases pair : c = '\r' ∧ rest = []
    · -- the newline completes the pair that ends the text
      obtain ⟨rfl, rfl⟩ := pair
      exact .inl rfl
    have headless := head?_ne_newline notPair
    have headlessLonger : c = '\r' → (rest ++ ['\n']).head? ≠ some '\n' := by
      rintro rfl newline
      cases rest with
      | nil => exact pair ⟨rfl, rfl⟩
      | cons d rest => exact headless rfl newline
    rw [List.cons_append, splitLines_boundary boundary headlessLonger,
      splitLines_boundary boundary headless]
    exact ih.imp (congrArg ([] :: ·)) (congrArg ([] :: ·))
  | case4 c rest notPair inside none ih | case5 c rest notPair inside first lines some ih =>
    have inside : isLineBreak c = false := by simpa using inside
    rw [List.cons_append, splitLines_char inside, splitLines_char inside]
    by_cases ends : rest = []
    · subst ends
      exact .inl rfl
    · rw [splitLines_eq_cons ends]
      rcases ih with same | longer
      · exact .inl (by rw [same, ← splitLines_eq_cons ends])
      · exact .inr (by rw [longer, splitLines_eq_cons ends]; rfl)

/-- What is joined holds nothing but the separator and the characters of the parts. -/
theorem mem_intercalate {sep c : Char} {texts : List (List Char)}
    (member : c ∈ [sep].intercalate texts) : c = sep ∨ ∃ text ∈ texts, c ∈ text := by
  induction texts with
  | nil => exact nomatch member
  | cons text texts ih =>
    cases texts with
    | nil => exact .inr ⟨text, List.mem_cons_self, by simpa using member⟩
    | cons next texts =>
      rw [List.intercalate_cons_cons, List.mem_append, List.mem_append,
        List.mem_singleton] at member
      rcases member with (here | separator) | later
      · exact .inr ⟨text, List.mem_cons_self, here⟩
      · exact .inl separator
      · exact (ih later).imp_right fun ⟨text', listed, within⟩ =>
          ⟨text', List.mem_cons_of_mem text listed, within⟩

section Read

variable {β : Type} {read : List Char → Option β}

/-- A reader that passes over empty lines does not see a newline at the end. -/
theorem filterMap_splitLines_newline (blank : read [] = none) (text : List Char) :
    (splitLines (text ++ ['\n'])).filterMap read = (splitLines text).filterMap read := by
  rcases splitLines_newline text with same | longer
  · rw [same]
  · rw [longer, List.filterMap_append, List.filterMap_cons_none blank, List.filterMap_nil,
      List.append_nil]

/-- Texts that are written one per line are read one by one. -/
theorem filterMap_splitLines_intercalate (blank : read [] = none) (texts : List (List Char)) :
    (splitLines (['\n'].intercalate texts)).filterMap read =
      texts.flatMap fun text => (splitLines text).filterMap read := by
  induction texts with
  | nil => rfl
  | cons text texts ih =>
    cases texts with
    | nil => simp
    | cons next texts =>
      have joined : ['\n'].intercalate (text :: next :: texts) =
          text ++ '\n' :: ['\n'].intercalate (next :: texts) := by
        rw [List.intercalate_cons_cons, List.append_assoc]
        rfl
      rw [joined, splitLines_append_newline, List.filterMap_append, ih,
        filterMap_splitLines_newline blank]
      rfl

end Read

/-- Stripping adds no characters. -/
theorem mem_of_mem_strip {text : List Char} {c : Char} (kept : c ∈ strip text) : c ∈ text := by
  have inner : c ∈ lstrip text := (List.rdropWhile_prefix isSpace (lstrip text)).subset kept
  exact (List.dropWhile_suffix isSpace).subset inner

/-- What is solid at both ends is not stripped. -/
theorem strip_eq_self {text : List Char} (front : ∀ c ∈ text.head?, isSpace c = false)
    (back : ∀ c ∈ text.getLast?, isSpace c = false) : strip text = text := by
  have kept {text : List Char} (front : ∀ c ∈ text.head?, isSpace c = false) :
      text.dropWhile isSpace = text := by
    cases text with
    | nil => rfl
    | cons c text => exact List.dropWhile_cons_of_neg (by simp [front c rfl])
  have backwards : text.reverse.dropWhile isSpace = text.reverse :=
    kept (by rwa [List.head?_reverse])
  rw [strip, lstrip, kept front, rstrip, backwards, List.reverse_reverse]

end Text
