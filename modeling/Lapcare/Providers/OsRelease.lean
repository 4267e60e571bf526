import Lapcare.Providers.SystemFiles
import Lapcare.Semantics.FirstOccurrence

/-!
# The assignments of os-release

A document in the format of os-release assigns values to variables, one assignment a line,
with comments and other lines between them. A value stands bare, in single quotes, or in
double quotes with a backslash before the characters that a shell would read there.
`_parse_os_release` takes the double quotes away, and nothing else. What it takes for a line
ends at every boundary of `str.splitlines`, so a comment with one of them may assign as well.

## Main results

* `releaseLine_written` — what is read of an assignment
* `parseOsRelease_iff` — the documents whose assignments come back
-/

namespace Lapcare.Providers

open Semantics Text

/-! ### Documents -/

/-- The ways to write a value. -/
inductive Form
  | unquoted
  | singleQuoted
  | doubleQuoted
  deriving DecidableEq

/-- A character of a variable's name. -/
def isKeyChar (c : Char) : Bool :=
  c.isAlphanum || c == '_'

/-- A value needs no quotes that has no white space and nothing that a shell would read. -/
def isPlainChar (c : Char) : Bool :=
  !isSpace c && !"\"'\\$\x60;&|<>()*?[]\x7b\x7d#~!".toList.contains c

/-- What takes a backslash in double quotes: a double quote, a backslash, a dollar sign and a
backtick. -/
def isSpecial (c : Char) : Bool :=
  c == '"' || c == '\\' || c == '$' || c == '\x60'

def escapeValue (value : List Char) : List Char :=
  value.flatMap fun c => if isSpecial c then ['\\', c] else [c]

/-- The forms that the format admits for a value. -/
def Form.Admits (value : List Char) : Form → Prop
  | .unquoted => ∀ c ∈ value, isPlainChar c = true
  | .singleQuoted => '\'' ∉ value
  | .doubleQuoted => True

/-- The value, as it is written. -/
def Form.write (value : List Char) : Form → List Char
  | .unquoted => value
  | .singleQuoted => '\'' :: (value ++ ['\''])
  | .doubleQuoted => '"' :: (escapeValue value ++ ['"'])

/-- An assignment of a valid variable. The value may hold any character but a newline. -/
structure Assignment where
  key : List Char
  value : List Char
  form : Form
  named : key ≠ []
  valid : ∀ c ∈ key, isKeyChar c = true
  singleLine : '\n' ∉ value
  admitted : form.Admits value

/-- The line of an assignment. -/
def Assignment.line (assignment : Assignment) : List Char :=
  assignment.key ++ '=' :: assignment.form.write assignment.value

/-- Lines that assign nothing. -/
inductive IsNoise : List Char → Prop
  | blank {text : List Char} (space : ∀ c ∈ text, isSpace c = true) : IsNoise text
  | comment {text : List Char} (line : '\n' ∉ text) : IsNoise ('#' :: text)
  | junk {text : List Char} (unassigned : '=' ∉ text) : IsNoise text

inductive Item
  | assign (assignment : Assignment)
  | noise (text : List Char) (noise : IsNoise text)

def Item.line : Item → List Char
  | assign assignment => assignment.line
  | noise text _ => text

def Item.assignment? : Item → Option Assignment
  | assign assignment => some assignment
  | noise _ _ => none

/-- What the parser reads in the pieces of a line that assigns nothing. -/
def Item.strays : Item → List (List Char × List Char)
  | assign _ => []
  | noise text _ => (splitLines text).filterMap releaseLine

/-- A document that assigns to every variable once. -/
structure OsRelease where
  items : List Item
  distinct : ((items.filterMap Item.assignment?).map (·.key)).Nodup

namespace OsRelease

variable (document : OsRelease)

def assignments : List Assignment :=
  document.items.filterMap Item.assignment?

/-- The document, one item a line. -/
def text : List Char :=
  ['\n'].intercalate (document.items.map Item.line)

/-- The values, by their variables. -/
def mapping : List (List Char × List Char) :=
  document.assignments.map fun assignment => (assignment.key, assignment.value)

/-- Parsing gives back what the document assigns. -/
def ReadsBack : Prop :=
  ∀ key, (parseOsRelease document.text).lookup key = document.mapping.lookup key

end OsRelease

/-- The assignments that are read as they are meant: in no single quotes, and without a
backslash inside double ones. -/
structure Assignment.Decodes (assignment : Assignment) : Prop where
  single : assignment.form ≠ .singleQuoted
  double : assignment.form = .doubleQuoted → ∀ c ∈ assignment.value, isSpecial c = false

/-- The value that the last piece of a comment among these items gives to a variable. -/
def lastStray (items : List Item) (key : List Char) : Option (List Char) :=
  (items.flatMap Item.strays).reverse.lookup key

/-- An assignment tells its value if no comment behind it assigns to its variable, and else the
last piece that does tells it. -/
def Assignment.Stands (assignment : Assignment) (behind : List Item) : Prop :=
  match lastStray behind assignment.key with
  | none => assignment.Decodes
  | some text => text = assignment.value

/-- Every value is on what `splitlines` takes for one line, and stands, and no comment assigns
to another variable. -/
structure OsRelease.Unspoiled (document : OsRelease) : Prop where
  line : ∀ a ∈ document.assignments, ∀ c ∈ a.value, isLineBreak c = false
  stands : ∀ before a behind, document.items = before ++ .assign a :: behind → a.Stands behind
  known : ∀ stray ∈ document.items.flatMap Item.strays,
    ∃ a ∈ document.assignments, a.key = stray.1

/-! ### Quotes -/

/-- Nothing is written but the value, quotes and backslashes. -/
theorem mem_write {value : List Char} {form : Form} {c : Char} (member : c ∈ form.write value) :
    c ∈ value ∨ c = '\'' ∨ c = '"' ∨ c = '\\' := by
  cases form with
  | unquoted => exact .inl member
  | singleQuoted =>
    rw [Form.write, List.mem_cons, List.mem_append, List.mem_singleton] at member
    rcases member with quote | inside | quote
    · exact .inr (.inl quote)
    · exact .inl inside
    · exact .inr (.inl quote)
  | doubleQuoted =>
    rw [Form.write, List.mem_cons, List.mem_append, List.mem_singleton, escapeValue,
      List.mem_flatMap] at member
    rcases member with quote | ⟨d, inside, escaped⟩ | quote
    · exact .inr (.inr (.inl quote))
    · split_ifs at escaped with special
      · rcases List.mem_cons.mp escaped with backslash | itself
        · exact .inr (.inr (.inr backslash))
        · exact .inl (List.mem_singleton.mp itself ▸ inside)
      · exact .inl (List.mem_singleton.mp escaped ▸ inside)
    · exact .inr (.inr (.inl quote))

/-- Taking double quotes away takes no other character. -/
theorem count_stripQuotes {c : Char} (other : c ≠ '"') (text : List Char) :
    (stripQuotes text).count c = text.count c := by
  have front (text : List Char) : (text.dropWhile (· == '"')).count c = text.count c := by
    have parts := List.takeWhile_append_dropWhile (p := (· == '"')) (l := text)
    have none : (text.takeWhile (· == '"')).count c = 0 := by
      rw [List.count_eq_zero]
      intro member
      exact other (by simpa using List.mem_takeWhile_imp member)
    conv_rhs => rw [← parts, List.count_append, none, Nat.zero_add]
  rw [stripQuotes, List.count_reverse, front, List.count_reverse, front]

theorem mem_of_mem_stripQuotes {text : List Char} {c : Char} (kept : c ∈ stripQuotes text) :
    c ∈ text := by
  rw [stripQuotes, List.mem_reverse] at kept
  have backwards := (List.dropWhile_suffix (· == '"')).subset kept
  exact (List.dropWhile_suffix (· == '"')).subset (List.mem_reverse.mp backwards)

theorem stripQuotes_of_notMem {text : List Char} (unquoted : '"' ∉ text) :
    stripQuotes text = text := by
  have kept {text : List Char} (unquoted : '"' ∉ text) : text.dropWhile (· == '"') = text := by
    cases text with
    | nil => rfl
    | cons c text =>
      have other : c ≠ '"' := fun same => unquoted (same ▸ List.mem_cons_self)
      exact List.dropWhile_cons_of_neg (by simpa using other)
  rw [stripQuotes, kept unquoted, kept (by simpa using unquoted), List.reverse_reverse]

theorem stripQuotes_quoted (text : List Char) :
    stripQuotes ('"' :: (text ++ ['"'])) = stripQuotes text := by
  rw [stripQuotes, List.dropWhile_cons_of_pos rfl]
  -- of a text of quotes only nothing is left, the last mark included
  by_cases quotes : ∀ c ∈ text, c = '"'
  · have nothing : text.dropWhile (· == '"') = [] := by simpa using quotes
    simp [stripQuotes, List.dropWhile_append, nothing]
  · have some_ : text.dropWhile (· == '"') ≠ [] := by simpa using quotes
    simp [stripQuotes, List.dropWhile_append, some_]

theorem escapeValue_cons (c : Char) (value : List Char) :
    escapeValue (c :: value) = (if isSpecial c then ['\\', c] else [c]) ++ escapeValue value :=
  rfl

/-- Every special character brings a backslash with it. -/
theorem count_escapeValue (value : List Char) :
    (escapeValue value).count '\\' = value.count '\\' + value.countP isSpecial := by
  induction value with
  | nil => rfl
  | cons c value ih =>
    rw [escapeValue_cons, List.count_append, ih, List.countP_cons, List.count_cons]
    -- the backslash may be the character itself, or be written for it
    by_cases special : isSpecial c = true
    · simp [special, List.count_cons]
      omega
    · simp [special, List.count_cons]
      omega

theorem escapeValue_eq_self {value : List Char} (ordinary : ∀ c ∈ value, isSpecial c = false) :
    escapeValue value = value := by
  induction value with
  | nil => rfl
  | cons c value ih =>
    have rest := ih fun d member => ordinary d (List.mem_cons_of_mem c member)
    rw [escapeValue_cons, rest, ordinary c List.mem_cons_self]
    rfl

/-- A value in double quotes comes back exactly if nothing in it was escaped. -/
theorem stripQuotes_doubleQuoted_iff (value : List Char) :
    stripQuotes (Form.doubleQuoted.write value) = value ↔ ∀ c ∈ value, isSpecial c = false := by
  rw [Form.write, stripQuotes_quoted]
  constructor
  · intro back
    -- the backslashes that were added are still there
    have counted := count_stripQuotes (c := '\\') (by decide) (escapeValue value)
    rw [back, count_escapeValue] at counted
    have none : value.countP isSpecial = 0 := by omega
    simpa using none
  · intro ordinary
    rw [escapeValue_eq_self ordinary]
    apply stripQuotes_of_notMem
    intro member
    exact absurd (ordinary '"' member) (by decide)

/-- A value in single quotes never does. -/
theorem stripQuotes_singleQuoted {value : List Char} (inside : '\'' ∉ value) :
    stripQuotes (Form.singleQuoted.write value) ≠ value := by
  -- single quotes are not taken away, and the value has none to match them
  intro back
  have counted := count_stripQuotes (c := '\'') (by decide) (Form.singleQuoted.write value)
  rw [back, List.count_eq_zero_of_not_mem inside] at counted
  simp [Form.write] at counted

theorem plainChar_notSpace {c : Char} (plain : isPlainChar c = true) : isSpace c = false := by
  rw [isPlainChar, Bool.and_eq_true] at plain
  simpa using plain.1

theorem stripQuotes_unquoted {value : List Char} (plain : ∀ c ∈ value, isPlainChar c = true) :
    stripQuotes value = value := by
  apply stripQuotes_of_notMem
  intro member
  exact absurd (plain '"' member) (by decide)

/-! ### Lines -/

/-- What stands between two marks has no white space around it. -/
theorem solid_between {mark : Char} (solid : isSpace mark = false) (inside : List Char) :
    (∀ c ∈ (mark :: (inside ++ [mark])).head?, isSpace c = false) ∧
      ∀ c ∈ (mark :: (inside ++ [mark])).getLast?, isSpace c = false := by
  refine ⟨?_, ?_⟩
  · rintro c ⟨⟩
    exact solid
  · intro c last
    rw [← List.cons_append, List.getLast?_concat] at last
    obtain rfl := Option.mem_some.mp last
    exact solid

/-- What is written has no white space around it. -/
theorem solid_write {value : List Char} {form : Form} (admitted : form.Admits value) :
    (∀ c ∈ (form.write value).head?, isSpace c = false) ∧
      ∀ c ∈ (form.write value).getLast?, isSpace c = false := by
  cases form with
  | unquoted =>
    have solid (c : Char) (member : c ∈ value) := plainChar_notSpace (admitted c member)
    exact ⟨fun c first => solid c (List.mem_of_mem_head? first),
      fun c last => solid c (List.mem_of_mem_getLast? last)⟩
  | singleQuoted => exact solid_between (by decide) value
  | doubleQuoted => exact solid_between (by decide) (escapeValue value)

theorem keyChar_notSpace {c : Char} (valid : isKeyChar c = true) : isSpace c = false := by
  have bounds : (48 ≤ c.toNat ∧ c.toNat ≤ 57) ∨ (65 ≤ c.toNat ∧ c.toNat ≤ 90) ∨
      (97 ≤ c.toNat ∧ c.toNat ≤ 122) ∨ c.toNat = 95 := by
    delta isKeyChar Char.isAlphanum Char.isAlpha Char.isUpper Char.isLower Char.isDigit at valid
    simp only [Bool.or_eq_true, Bool.and_eq_true, decide_eq_true_eq, beq_iff_eq, ge_iff_le,
      UInt32.le_iff_toNat_le] at valid
    rcases valid with ((upper | lower) | digit) | rfl
    · exact .inr (.inl upper)
    · exact .inr (.inr (.inl lower))
    · exact .inl digit
    · exact .inr (.inr (.inr rfl))
  simp only [isSpace, Bool.or_eq_false_iff, Bool.and_eq_false_iff, decide_eq_false_iff_not,
    beq_eq_false_iff_ne]
  omega

namespace Assignment

variable (assignment : Assignment)

/-- The line of an assignment is read as its variable, and the value less double quotes. -/
theorem releaseLine_written :
    releaseLine assignment.line =
      some (assignment.key, stripQuotes (assignment.form.write assignment.value)) := by
  obtain ⟨front, back⟩ := solid_write assignment.admitted
  have solid (c : Char) (member : c ∈ assignment.key) : isSpace c = false :=
    keyChar_notSpace (assignment.valid c member)
  obtain ⟨first, rest, key⟩ := List.exists_cons_of_ne_nil assignment.named
  have head : assignment.line.head? = some first := by rw [line, key]; rfl
  have begins : first ∈ assignment.key := key ▸ List.mem_cons_self
  have bare : strip assignment.line = assignment.line := by
    apply strip_eq_self
    · rintro c found
      rw [head] at found
      obtain rfl := Option.mem_some.mp found
      exact solid _ begins
    · intro c found
      rw [line, List.getLast?_append, List.getLast?_cons, Option.some_or, Option.mem_some] at found
      -- the line ends with the value, or with the equals sign before an empty one
      cases last : (assignment.form.write assignment.value).getLast? with
      | none =>
        rw [last] at found
        obtain rfl : '=' = c := found
        rfl
      | some d =>
        rw [last] at found
        obtain rfl : d = c := found
        exact back d last
  have uncommented : ¬ (assignment.line = [] ∨ assignment.line.head? = some '#') := by
    rw [head]
    rintro (empty | comment)
    · rw [empty] at head
      exact nomatch head
    · have valid := assignment.valid first begins
      rw [Option.some.inj comment] at valid
      exact absurd valid (by decide)
  have unequal : '=' ∉ assignment.key := fun member =>
    absurd (assignment.valid '=' member) (by decide)
  have parts : cut ['='] assignment.line =
      some (assignment.key, assignment.form.write assignment.value) :=
    cut_append unequal _
  rw [releaseLine, bare, if_neg uncommented, parts, Option.map_some, strip_of_solid solid,
    strip_eq_self front back]

/-- What an assignment is read as, where its line is read as one. -/
def written : List Char × List Char :=
  (assignment.key, stripQuotes (assignment.form.write assignment.value))

theorem read_unbroken (unbroken : ∀ c ∈ assignment.value, isLineBreak c = false) :
    (splitLines assignment.line).filterMap releaseLine = [assignment.written] := by
  have within (c : Char) (member : c ∈ assignment.line) : isLineBreak c = false := by
    rw [line, List.mem_append, List.mem_cons] at member
    rcases member with inKey | rfl | inWritten
    · exact isLineBreak_of_notSpace (keyChar_notSpace (assignment.valid c inKey))
    · rfl
    · rcases mem_write inWritten with inValue | rfl | rfl | rfl
      · exact unbroken c inValue
      all_goals rfl
  have filled : assignment.line ≠ [] := by simp [line]
  rw [splitLines_unbroken within filled, List.filterMap_cons_some assignment.releaseLine_written]
  rfl

/-- An assignment on one line is read as it is meant exactly if no quotes are in the way. -/
theorem written_eq_iff :
    stripQuotes (assignment.form.write assignment.value) = assignment.value ↔
      assignment.Decodes := by
  have parts : assignment.Decodes ↔ assignment.form ≠ .singleQuoted ∧
      (assignment.form = .doubleQuoted → ∀ c ∈ assignment.value, isSpecial c = false) :=
    ⟨fun decodes => ⟨decodes.single, decodes.double⟩, fun ⟨single, double⟩ => ⟨single, double⟩⟩
  rw [parts]
  have admitted := assignment.admitted
  cases form : assignment.form with
  | unquoted =>
    rw [form] at admitted
    simpa [Form.write] using stripQuotes_unquoted admitted
  | singleQuoted =>
    rw [form] at admitted
    simpa using stripQuotes_singleQuoted admitted
  | doubleQuoted => simpa using stripQuotes_doubleQuoted_iff assignment.value

end Assignment

/-! ### Lines that assign nothing -/

/-- A line without an equals sign assigns nothing. -/
theorem releaseLine_unassigned {line : List Char} (unassigned : '=' ∉ line) :
    releaseLine line = none := by
  have absent : '=' ∉ strip line := fun member => unassigned (mem_of_mem_strip member)
  rw [releaseLine, cut_eq_none absent]
  exact ite_self none

/-- Only a comment with a boundary of lines has something read in it. -/
theorem strays_eq_nil {text : List Char} (noise : IsNoise text)
    (unbroken : text.head? = some '#' → ∀ c ∈ text, isLineBreak c = false) :
    (Item.noise text noise).strays = [] := by
  have junk {text : List Char} (unassigned : '=' ∉ text) :
      (splitLines text).filterMap releaseLine = [] := by
    rw [List.filterMap_eq_nil_iff]
    intro line listed
    exact releaseLine_unassigned fun member =>
      unassigned (mem_of_mem_splitLines listed '=' member).1
  cases noise with
  | blank space => exact junk fun member => absurd (space '=' member) (by decide)
  | comment line =>
    rename_i rest
    have commented : strip ('#' :: rest) = '#' :: rstrip rest := by
      rw [strip, lstrip, List.dropWhile_cons_of_neg (by decide)]
      exact rstrip_append_of_solid (by decide) [] rest
    have nothing : releaseLine ('#' :: rest) = none := by
      rw [releaseLine, commented]
      rfl
    rw [Item.strays, splitLines_unbroken (unbroken rfl) (List.cons_ne_nil _ _),
      List.filterMap_cons_none nothing]
    rfl
  | junk unassigned => exact junk unassigned

-- a comment on one line of the format, which is two lines to the parser
example :
    (Item.noise "# note\x0cPRETTY_NAME=other".toList (.comment (by decide))).strays =
      [("PRETTY_NAME".toList, "other".toList)] := by
  decide

/-- No value that is read holds a boundary of lines. -/
theorem unbroken_of_mem {text key value : List Char}
    (read : (key, value) ∈ (splitLines text).filterMap releaseLine) :
    ∀ c ∈ value, isLineBreak c = false := by
  obtain ⟨line, listed, reads⟩ := List.mem_filterMap.mp read
  intro c member
  refine (mem_of_mem_splitLines listed c ?_).2
  rw [releaseLine] at reads
  split_ifs at reads
  obtain ⟨parts, found, same⟩ := Option.map_eq_some_iff.mp reads
  cases same
  -- back from the value through the quotes, the strips and the cut to the line
  have stripped : c ∈ strip parts.2 := mem_of_mem_stripQuotes member
  have behind : c ∈ strip line := by
    rw [cut_eq_some found, List.mem_append, List.mem_append]
    exact .inr (.inr (mem_of_mem_strip stripped))
  exact mem_of_mem_strip behind

/-! ### Documents that read back -/

/-- What is read of an item, if its value is on one line. -/
def Item.told : Item → List (List Char × List Char)
  | assign assignment => [assignment.written]
  | noise text _ => (splitLines text).filterMap releaseLine

/-- Of a variable that no assignment is for, only comments tell. -/
theorem lookup_told {items : List Item} {key : List Char}
    (other : ∀ a ∈ items.filterMap Item.assignment?, a.key ≠ key) :
    (items.flatMap Item.told).reverse.lookup key = lastStray items key := by
  rw [lastStray]
  induction items with
  | nil => rfl
  | cons item items ih =>
    rw [List.flatMap_cons, List.flatMap_cons, List.reverse_append, List.reverse_append,
      List.lookup_append, List.lookup_append]
    cases item with
    | assign assignment =>
      have split : (Item.assign assignment :: items).filterMap Item.assignment? =
          assignment :: items.filterMap Item.assignment? := rfl
      rw [split] at other
      obtain ⟨first, rest⟩ := List.forall_mem_cons.mp other
      have unknown : (key == assignment.key) = false := by simpa using Ne.symm first
      rw [ih rest]
      simp [Item.told, Item.strays, Assignment.written, unknown]
    | noise text noise =>
      rw [List.filterMap_cons_none rfl] at other
      rw [ih other]
      rfl

/-- What is read for the variable of an assignment: what the last comment behind it says, or
else the assignment itself. -/
theorem lookup_told_assign {before behind : List Item} {a : Assignment}
    (other : ∀ b ∈ behind.filterMap Item.assignment?, b.key ≠ a.key) :
    ((before ++ .assign a :: behind).flatMap Item.told).reverse.lookup a.key =
      some ((lastStray behind a.key).getD (stripQuotes (a.form.write a.value))) := by
  rw [List.flatMap_append, List.flatMap_cons, List.reverse_append, List.reverse_append,
    List.lookup_append, List.lookup_append, lookup_told other]
  have own : (Item.assign a).told.reverse.lookup a.key =
      some (stripQuotes (a.form.write a.value)) := by
    simp [Item.told, Assignment.written]
  rw [own]
  cases lastStray behind a.key <;> rfl

/-- It stands exactly if that is its value. -/
theorem Assignment.stands_iff (a : Assignment) {behind : List Item} :
    a.Stands behind ↔
      (lastStray behind a.key).getD (stripQuotes (a.form.write a.value)) = a.value := by
  rw [Stands]
  cases lastStray behind a.key with
  | none => exact a.written_eq_iff.symm
  | some text => rfl

theorem lookup_eq_none_iff_keys {pairs : List (List Char × List Char)} {key : List Char} :
    pairs.lookup key = none ↔ ∀ pair ∈ pairs, pair.1 ≠ key := by
  rw [List.lookup_eq_none_iff]
  exact forall₂_congr fun pair _ => bne_iff_ne.trans ne_comm

namespace OsRelease

variable (document : OsRelease)

/-- What is read of the items, where every value is on one line. -/
theorem parseOsRelease_unbroken
    (unbroken : ∀ a ∈ document.assignments, ∀ c ∈ a.value, isLineBreak c = false) :
    parseOsRelease document.text = (document.items.flatMap Item.told).reverse := by
  have each : ∀ item ∈ document.items,
      (splitLines item.line).filterMap releaseLine = item.told := by
    intro item member
    cases item with
    | assign a => exact a.read_unbroken (unbroken a (List.mem_filterMap.mpr ⟨_, member, rfl⟩))
    | noise text noise => rfl
  rw [parseOsRelease, text, filterMap_splitLines_intercalate rfl, List.flatMap_map]
  exact congrArg List.reverse (List.flatMap_congr each)

/-- An assignment and what stands around it. -/
theorem apart_of_items {before behind : List Item} {a : Assignment}
    (items : document.items = before ++ .assign a :: behind) :
    a ∈ document.assignments ∧ ∀ b ∈ behind.filterMap Item.assignment?, b.key ≠ a.key := by
  have split : document.assignments =
      before.filterMap Item.assignment? ++ a :: behind.filterMap Item.assignment? := by
    rw [assignments, items, List.filterMap_append]
    rfl
  have distinct : (document.assignments.map (·.key)).Nodup := document.distinct
  rw [split, List.map_append, List.map_cons] at distinct
  have later := (List.nodup_cons.mp (List.nodup_append.mp distinct).2.1).1
  exact ⟨by rw [split]; simp, fun b member same => later (List.mem_map.mpr ⟨b, member, same⟩)⟩

theorem keys_nodup : (document.mapping.map (·.1)).Nodup := by
  rw [mapping, List.map_map]
  exact document.distinct

theorem lookup_mapping {a : Assignment} (member : a ∈ document.assignments) :
    document.mapping.lookup a.key = some a.value := by
  rw [lookup_eq_some_iff_mem document.keys_nodup]
  exact List.mem_map_of_mem member

theorem lookup_mapping_of_absent {key : List Char}
    (absent : ∀ a ∈ document.assignments, a.key ≠ key) : document.mapping.lookup key = none := by
  rw [lookup_eq_none_iff_keys]
  intro pair listed
  obtain ⟨a, among, rfl⟩ := List.mem_map.mp listed
  exact absent a among

theorem exists_of_mem_assignments {a : Assignment} (member : a ∈ document.assignments) :
    ∃ before behind, document.items = before ++ .assign a :: behind := by
  obtain ⟨item, among, same⟩ := List.mem_filterMap.mp member
  obtain ⟨before, behind, items⟩ := List.append_of_mem among
  cases item with
  | assign b =>
    obtain rfl := Option.some.inj same
    exact ⟨before, behind, items⟩
  | noise text noise => exact nomatch same

/-- Every value is read from one line, so no line is broken inside a value that is read back. -/
theorem unbroken_of_readsBack (back : document.ReadsBack) :
    ∀ a ∈ document.assignments, ∀ c ∈ a.value, isLineBreak c = false := by
  intro a member
  have assigned := (back a.key).trans (document.lookup_mapping member)
  obtain ⟨before, after, read, -⟩ := List.lookup_eq_some_iff.mp assigned
  rw [parseOsRelease] at read
  have listed : (a.key, a.value) ∈ ((splitLines document.text).filterMap releaseLine).reverse := by
    rw [read]
    exact List.mem_append_right _ List.mem_cons_self
  exact unbroken_of_mem (List.mem_reverse.mp listed)

/-- A document reads back exactly if nothing spoils it. -/
theorem parseOsRelease_iff : document.ReadsBack ↔ document.Unspoiled := by
  constructor
  · intro back
    have unbroken := document.unbroken_of_readsBack back
    have read := document.parseOsRelease_unbroken unbroken
    refine ⟨unbroken, fun before a behind items => ?_, fun stray member => ?_⟩
    · obtain ⟨member, other⟩ := document.apart_of_items items
      have found := (back a.key).trans (document.lookup_mapping member)
      rw [read, items, lookup_told_assign other] at found
      exact a.stands_iff.mpr (Option.some.inj found)
    · -- a variable that is not assigned is not read either
      by_contra unknown
      have absent : ∀ a ∈ document.assignments, a.key ≠ stray.1 :=
        fun a among same => unknown ⟨a, among, same⟩
      have found := (back stray.1).trans (document.lookup_mapping_of_absent absent)
      rw [read, lookup_told absent, lastStray, lookup_eq_none_iff_keys] at found
      exact found stray (List.mem_reverse.mpr member) rfl
  · intro unspoiled key
    rw [document.parseOsRelease_unbroken unspoiled.line]
    by_cases assigned : ∃ a ∈ document.assignments, a.key = key
    · obtain ⟨a, member, rfl⟩ := assigned
      obtain ⟨before, behind, items⟩ := document.exists_of_mem_assignments member
      rw [document.lookup_mapping member, items,
        lookup_told_assign (document.apart_of_items items).2]
      exact congrArg some (a.stands_iff.mp (unspoiled.stands before a behind items))
    · have absent : ∀ a ∈ document.assignments, a.key ≠ key :=
        fun a among same => assigned ⟨a, among, same⟩
      rw [lookup_told absent, document.lookup_mapping_of_absent absent, lastStray,
        lookup_eq_none_iff_keys]
      intro stray member same
      obtain ⟨a, among, own⟩ := unspoiled.known stray (List.mem_reverse.mp member)
      exact assigned ⟨a, among, own.trans same⟩

end OsRelease

/-- `PRETTY_NAME='Fedora Linux'`, the usual way to write it in a shell. -/
def singleQuotedName : Assignment where
  key := "PRETTY_NAME".toList
  value := "Fedora Linux".toList
  form := .singleQuoted
  named := by decide
  valid := List.all_eq_true.mp (by decide)
  singleLine := by decide
  admitted := show '\'' ∉ _ by decide

def singleQuotedRelease : OsRelease where
  items := [.assign singleQuotedName]
  distinct := List.nodup_singleton _

/-- The quotes stay in the name of the distribution. -/
theorem singleQuotedRelease_unread :
    (parseOsRelease singleQuotedRelease.text).lookup "PRETTY_NAME".toList =
        some "'Fedora Linux'".toList ∧
      ¬ singleQuotedRelease.ReadsBack := by
  have read : (parseOsRelease singleQuotedRelease.text).lookup "PRETTY_NAME".toList =
      some "'Fedora Linux'".toList := by decide
  refine ⟨read, fun back => ?_⟩
  have same := back "PRETTY_NAME".toList
  rw [read] at same
  exact absurd same (by decide)

end Lapcare.Providers
