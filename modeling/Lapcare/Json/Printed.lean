import Lapcare.Json.Printer
import Lapcare.Text.Occurs

/-!
# What a printed document is made of

The strings, keys and numbers of a value as `json.dumps` prints them. Brackets, quotes,
separators and indentation keep them apart, so a word without such characters occurs in the
document only where it occurs in one of them.

## Main results

* `infix_dumps_iff` — a word occurs in a document exactly when it does in what is printed
-/

namespace Json

open Text

/-- A string as it stands between its quotes. -/
def escaped (text : String) : List Char :=
  text.toList.flatMap escapeChar

mutual

/-- The strings, keys and numbers of a value, as they are printed. -/
def printed : Value → List (List Char)
  | .null => []
  | .bool _ => []
  | .int n => [printInt n]
  | .float impossible => impossible.elim
  | .str text => [escaped text]
  | .arr items => printedItems items
  | .obj members => printedMembers members

def printedItems : List Value → List (List Char)
  | [] => []
  | item :: items => printed item ++ printedItems items

def printedMembers : List (String × Value) → List (List Char)
  | [] => []
  | (key, value) :: members => escaped key :: (printed value ++ printedMembers members)

end

theorem printedItems_eq (items : List Value) : printedItems items = items.flatMap printed := by
  induction items with
  | nil => rfl
  | cons item items ih => rw [printedItems, ih, List.flatMap_cons]

theorem printedMembers_eq (members : List (String × Value)) :
    printedMembers members =
      members.flatMap fun member => escaped member.1 :: printed member.2 := by
  induction members with
  | nil => rfl
  | cons member members ih => rw [printedMembers, ih, List.flatMap_cons, List.cons_append]

section Occurrences

/-- No character that a document puts between its parts is a letter. -/
def Apart (letter : Char → Bool) : Prop :=
  ∀ c ∈ ['\n', ' ', ',', ':', '"', '[', ']', '\x7b', '\x7d'], letter c = false

variable {letter : Char → Bool} {n : ℕ} {word : List Char} (long : LongWord letter n word)
  (apart : Apart letter) (wide : 5 < n)

section Apart

include apart

theorem fence_newline (level : ℕ) : fence letter n (newline level) = true := by
  refine fence_of_others (List.cons_ne_nil _ _) fun c member => apart c ?_
  rcases List.mem_cons.1 member with rfl | blank
  · simp
  · simp [List.eq_of_mem_replicate blank]

theorem fence_closing (level : ℕ) {c : Char} (bracket : c ∈ [']', '\x7d']) :
    fence letter n (newline level ++ [c]) = true := by
  refine fence_of_others (by simp) fun d member => apart d ?_
  rcases List.mem_append.1 member with indent | closing
  · rcases List.mem_cons.1 indent with rfl | blank
    · simp
    · simp [List.eq_of_mem_replicate blank]
  · rw [List.mem_singleton.1 closing]
    simp only [List.mem_cons, List.not_mem_nil, or_false] at bracket ⊢
    tauto

theorem fence_colon : fence letter n ": ".toList = true := by
  refine fence_of_others (by decide) fun c member => apart c ?_
  simp only [show ": ".toList = [':', ' '] from rfl, List.mem_cons, List.not_mem_nil,
    or_false] at member
  rcases member with rfl | rfl <;> simp

include long

/-- A key and what follows it. -/
theorem infix_quote_iff (text : String) (rest : List Char) :
    word <:+: quote text ++ rest ↔ word <:+: escaped text ∨ word <:+: rest := by
  have split : quote text ++ rest = '"' :: (escaped text ++ '"' :: rest) := by
    simp [quote, escaped]
  have mark : letter '"' = false := apart '"' (by simp)
  rw [split, infix_cons_other_iff long.letters mark, infix_append_cons_iff long.letters mark]

end Apart

include long apart wide

-- each of the three is proved by the others, and `wide` is used by the first only
set_option linter.unusedSectionVars false in
mutual

/-- A word occurs in a document exactly when it does in what is printed. -/
theorem infix_dump_iff (level : ℕ) (value : Value) :
    word <:+: dump level value ↔ ∃ text ∈ printed value, word <:+: text := by
  have mark (c : Char) (among : c ∈ ['"', '[', ']', '\x7b', '\x7d']) : letter c = false :=
    apart c (by simp only [List.mem_cons, List.not_mem_nil, or_false] at among ⊢; tauto)
  -- the constants are shorter than the word
  have constant (text : List Char) (short : text.length ≤ 5) : ¬ word <:+: text :=
    long.not_infix_of_short (by omega)
  match value with
  | .null => simpa [dump, printed] using constant "null".toList (by decide)
  | .bool true => simpa [dump, printed] using constant "true".toList (by decide)
  | .bool false => simpa [dump, printed] using constant "false".toList (by decide)
  | .int n => simp [dump, printed]
  | .float impossible => exact impossible.elim
  | .str text =>
    have quoted := infix_quote_iff long apart text []
    rw [List.append_nil, List.infix_nil] at quoted
    rw [dump, quoted, printed, List.exists_mem_cons_iff]
    simp [long.ne_nil]
  | .arr [] => simpa [dump, printed, printedItems] using constant "[]".toList (by decide)
  | .obj [] => simpa [dump, printed, printedMembers] using constant "\x7b\x7d".toList (by decide)
  | .arr (item :: items) =>
    rw [dump, infix_cons_other_iff long.letters (mark '[' (by simp)),
      long.fence_append_iff (fence_newline apart _), ← List.append_assoc,
      long.append_fence_iff (fence_closing apart level (by simp)), infix_dumpItems_iff,
      infix_dump_iff]
    simp only [printed, printedItems, List.mem_append, or_and_right, exists_or]
  | .obj ((key, value) :: members) =>
    rw [dump, infix_cons_other_iff long.letters (mark '\x7b' (by simp)),
      long.fence_append_iff (fence_newline apart _), infix_quote_iff long apart,
      long.fence_append_iff (fence_colon apart), ← List.append_assoc,
      long.append_fence_iff (fence_closing apart level (by simp)), infix_dumpMembers_iff,
      infix_dump_iff]
    simp only [printed, printedMembers, List.exists_mem_cons_iff, List.mem_append, or_and_right,
      exists_or]

theorem infix_dumpItems_iff (level : ℕ) (items : List Value) (front : List Char) :
    word <:+: front ++ dumpItems level items ↔
      word <:+: front ∨ ∃ text ∈ printedItems items, word <:+: text := by
  match items with
  | [] => simp [dumpItems, printedItems]
  | item :: items =>
    have comma : letter ',' = false := apart ',' (by simp)
    rw [dumpItems, infix_append_cons_iff long.letters comma,
      long.fence_append_iff (fence_newline apart level), infix_dumpItems_iff, infix_dump_iff]
    simp only [printedItems, List.mem_append, or_and_right, exists_or]

theorem infix_dumpMembers_iff (level : ℕ) (members : List (String × Value)) (front : List Char) :
    word <:+: front ++ dumpMembers level members ↔
      word <:+: front ∨ ∃ text ∈ printedMembers members, word <:+: text := by
  match members with
  | [] => simp [dumpMembers, printedMembers]
  | (key, value) :: members =>
    have comma : letter ',' = false := apart ',' (by simp)
    rw [dumpMembers, infix_append_cons_iff long.letters comma,
      long.fence_append_iff (fence_newline apart level), infix_quote_iff long apart,
      long.fence_append_iff (fence_colon apart), infix_dumpMembers_iff, infix_dump_iff]
    simp only [printedMembers, List.exists_mem_cons_iff, List.mem_append, or_and_right, exists_or]

end

theorem infix_dumps_iff (value : Value) :
    word <:+: dumps value ↔ ∃ text ∈ printed value, word <:+: text :=
  infix_dump_iff long apart wide 0 value

end Occurrences

/-! ### Values that have a word -/

section Has

variable (word : List Char)

/-- The word occurs in what is printed of the value. -/
def Has (value : Value) : Prop :=
  ∃ text ∈ printed value, word <:+: text

@[simp] theorem has_null : ¬ Has word .null := by
  simp [Has, printed]

@[simp] theorem has_bool (b : Bool) : ¬ Has word (.bool b) := by
  simp [Has, printed]

@[simp] theorem has_int (n : Int) : Has word (.int n) ↔ word <:+: printInt n := by
  simp [Has, printed]

@[simp] theorem has_str (text : String) : Has word (.str text) ↔ word <:+: escaped text := by
  simp [Has, printed]

@[simp] theorem has_arr (items : List Value) :
    Has word (.arr items) ↔ ∃ item ∈ items, Has word item := by
  simp only [Has, printed, printedItems_eq, List.mem_flatMap]
  constructor
  · rintro ⟨text, ⟨item, member, among⟩, within⟩
    exact ⟨item, member, text, among, within⟩
  · rintro ⟨item, member, text, among, within⟩
    exact ⟨text, ⟨item, member, among⟩, within⟩

/-- An object whose keys do not have the word has it in a value. -/
theorem has_obj {members : List (String × Value)}
    (keys : ∀ member ∈ members, ¬ word <:+: escaped member.1) :
    Has word (.obj members) ↔ ∃ member ∈ members, Has word member.2 := by
  simp only [Has, printed, printedMembers_eq, List.mem_flatMap, List.mem_cons]
  constructor
  · rintro ⟨text, ⟨member, here, rfl | among⟩, within⟩
    · exact absurd within (keys member here)
    · exact ⟨member, here, text, among, within⟩
  · rintro ⟨member, here, text, among, within⟩
    exact ⟨text, ⟨member, here, .inr among⟩, within⟩

theorem has_obj_append (front rest : List (String × Value)) :
    Has word (.obj (front ++ rest)) ↔ Has word (.obj front) ∨ Has word (.obj rest) := by
  simp only [Has, printed, printedMembers_eq, List.flatMap_append, List.mem_append, or_and_right,
    exists_or]

end Has

end Json
