import Lapcare.Json.Parser
import Mathlib.Data.List.DropRight

/-!
# Parsing undoes printing

What is printed is parsed back, whatever follows it, as long as no digit follows a number
and every object has its keys once. By induction on the fuel, which the length of the text
bounds.

## Main results

* `parseString_quote`, `parseInt_print` — strings and numbers come back
* `loads_dumps` — a document comes back
-/

namespace Json

open Text

/-! ### Strings -/

theorem hexValue_hexDigitChar : ∀ digit < 16, hexValue (hexDigitChar digit) = some digit := by
  decide

theorem parseUnits_unicodeEscape {unit : ℕ} (small : unit < 0x10000) (rest : List Char) :
    parseUnits (unicodeEscape unit ++ rest) =
      (parseUnits rest).map fun parsed => (unit :: parsed.1, parsed.2) := by
  have digits : ((unit / 0x1000 % 16 * 16 + unit / 0x100 % 16) * 16 + unit / 0x10 % 16) * 16 +
      unit % 16 = unit := by
    omega
  have read : hexUnit (hexDigitChar (unit / 0x1000 % 16)) (hexDigitChar (unit / 0x100 % 16))
      (hexDigitChar (unit / 0x10 % 16)) (hexDigitChar (unit % 16)) = some unit := by
    rw [hexUnit, hexValue_hexDigitChar _ (Nat.mod_lt _ (by decide)),
      hexValue_hexDigitChar _ (Nat.mod_lt _ (by decide)),
      hexValue_hexDigitChar _ (Nat.mod_lt _ (by decide)),
      hexValue_hexDigitChar _ (Nat.mod_lt _ (by decide))]
    exact congrArg some digits
  simp only [unicodeEscape, List.cons_append, List.nil_append, parseUnits, read]
  cases parseUnits rest <;> rfl

theorem parseUnits_simple {c : Char} {unit : ℕ} (named : unescapeChar c = some unit)
    (rest : List Char) :
    parseUnits ('\\' :: c :: rest) =
      (parseUnits rest).map fun parsed => (unit :: parsed.1, parsed.2) := by
  have notUnicode : c ≠ 'u' := by
    rintro rfl
    exact nomatch named
  rw [parseUnits]
  · rw [named]
    cases parseUnits rest <;> rfl
  · rintro _ _ _ _ _ rfl
    exact absurd rfl notUnicode

theorem parseUnits_plain {c : Char} (least : 0x20 ≤ c.toNat) (notQuote : c ≠ '"')
    (notBackslash : c ≠ '\\') (rest : List Char) :
    parseUnits (c :: rest) =
      (parseUnits rest).map fun parsed => (c.toNat :: parsed.1, parsed.2) := by
  rw [parseUnits]
  · exact if_neg (by omega)
  · rintro rfl
    exact absurd rfl notBackslash
  · rintro rfl
    exact absurd rfl notQuote
  · rintro _ _ _ _ _ rfl
    exact absurd rfl notBackslash
  · rintro _ _ rfl
    exact absurd rfl notBackslash

theorem utf16_small {c : Char} (small : c.toNat < 0x10000) : utf16 c = [c.toNat] :=
  if_pos small

theorem utf16_large {c : Char} (large : ¬ c.toNat < 0x10000) :
    utf16 c = [0xd800 + (c.toNat - 0x10000) / 0x400, 0xdc00 + (c.toNat - 0x10000) % 0x400] :=
  if_neg large

theorem toNat_lt (c : Char) : c.toNat < 0x110000 := by
  rcases c.valid with low | ⟨-, high⟩
  · exact lt_trans low (by decide)
  · exact high

/-- The characters with an escape of one letter. -/
theorem escapeChar_special {c : Char}
    (special : c ∈ ['"', '\\', '\n', '\r', '\t', '\x0c', '\x08']) :
    ∃ letter, escapeChar c = ['\\', letter] ∧ unescapeChar letter = some c.toNat := by
  simp only [List.mem_cons, List.not_mem_nil, or_false] at special
  rcases special with rfl | rfl | rfl | rfl | rfl | rfl | rfl
  · exact ⟨'"', rfl, rfl⟩
  · exact ⟨'\\', rfl, rfl⟩
  · exact ⟨'n', rfl, rfl⟩
  · exact ⟨'r', rfl, rfl⟩
  · exact ⟨'t', rfl, rfl⟩
  · exact ⟨'f', rfl, rfl⟩
  · exact ⟨'b', rfl, rfl⟩

theorem escapeChar_other {c : Char} (other : c ∉ ['"', '\\', '\n', '\r', '\t', '\x0c', '\x08']) :
    escapeChar c =
      if 0x20 ≤ c.toNat ∧ c.toNat ≤ 0x7e then [c] else (utf16 c).flatMap unicodeEscape := by
  simp only [List.mem_cons, List.not_mem_nil, or_false, not_or] at other
  obtain ⟨quote, backslash, newline, return_, tab, feed, back⟩ := other
  rw [escapeChar, if_neg quote, if_neg backslash, if_neg newline, if_neg return_, if_neg tab,
    if_neg feed, if_neg back]

/-- An escaped character comes back as its code units. -/
theorem parseUnits_escapeChar (c : Char) (rest : List Char) :
    parseUnits (escapeChar c ++ rest) =
      (parseUnits rest).map fun parsed => (utf16 c ++ parsed.1, parsed.2) := by
  by_cases special : c ∈ ['"', '\\', '\n', '\r', '\t', '\x0c', '\x08']
  · obtain ⟨letter, escaped, named⟩ := escapeChar_special special
    have small : c.toNat < 0x10000 := by
      simp only [List.mem_cons, List.not_mem_nil, or_false] at special
      -- each of the seven is below the surrogates
      rcases special with rfl | rfl | rfl | rfl | rfl | rfl | rfl <;> decide
    rw [escaped, utf16_small small]
    exact parseUnits_simple named rest
  rw [escapeChar_other special]
  by_cases printable : 0x20 ≤ c.toNat ∧ c.toNat ≤ 0x7e
  · rw [if_pos printable, utf16_small (by omega)]
    apply parseUnits_plain printable.1
    · rintro rfl
      exact special (by decide)
    · rintro rfl
      exact special (by decide)
  rw [if_neg printable]
  by_cases small : c.toNat < 0x10000
  · rw [utf16_small small, List.flatMap_singleton]
    exact parseUnits_unicodeEscape small rest
  · -- a pair of surrogates
    have bound := toNat_lt c
    rw [utf16_large small]
    simp only [List.flatMap_cons, List.flatMap_nil, List.append_nil, List.append_assoc]
    rw [parseUnits_unicodeEscape (by omega), parseUnits_unicodeEscape (by omega)]
    cases parseUnits rest <;> rfl

theorem parseUnits_text (text rest : List Char) :
    parseUnits (text.flatMap escapeChar ++ '"' :: rest) = some (text.flatMap utf16, rest) := by
  induction text with
  | nil => rfl
  | cons c text ih =>
    rw [List.flatMap_cons, List.append_assoc, parseUnits_escapeChar, ih, List.flatMap_cons]
    rfl

/-- What is not the first half of a pair stands alone. -/
theorem joinUnits_cons {unit : ℕ} (single : isHigh unit = false) (units : List ℕ) :
    joinUnits (unit :: units) = pointChar unit :: joinUnits units := by
  cases units with
  | nil => rfl
  | cons low units =>
    rw [joinUnits, single]
    rfl

theorem joinUnits_pair {high low : ℕ} (first : isHigh high = true) (second : isLow low = true)
    (units : List ℕ) :
    joinUnits (high :: low :: units) =
      Char.ofNat (0x10000 + (high - 0xd800) * 0x400 + (low - 0xdc00)) :: joinUnits units := by
  rw [joinUnits, first, second]
  rfl

/-- The code units of a text join to it. -/
theorem joinUnits_utf16 (text : List Char) : joinUnits (text.flatMap utf16) = text := by
  induction text with
  | nil => rfl
  | cons c text ih =>
    have bound := toNat_lt c
    rw [List.flatMap_cons]
    by_cases small : c.toNat < 0x10000
    · have single : isHigh c.toNat = false := by
        have scalar : c.toNat < 0xd800 ∨ 0xdfff < c.toNat ∧ c.toNat < 0x110000 := c.valid
        simp only [isHigh, Bool.and_eq_false_iff, decide_eq_false_iff_not]
        omega
      rw [utf16_small small, List.singleton_append, joinUnits_cons single, ih, pointChar_toNat]
    · have first : isHigh (0xd800 + (c.toNat - 0x10000) / 0x400) = true := by
        simp only [isHigh, Bool.and_eq_true, decide_eq_true_eq]
        omega
      have second : isLow (0xdc00 + (c.toNat - 0x10000) % 0x400) = true := by
        simp only [isLow, Bool.and_eq_true, decide_eq_true_eq]
        omega
      have whole : 0x10000 + (0xd800 + (c.toNat - 0x10000) / 0x400 - 0xd800) * 0x400 +
          (0xdc00 + (c.toNat - 0x10000) % 0x400 - 0xdc00) = c.toNat := by
        omega
      rw [utf16_large small, List.cons_append, List.singleton_append, joinUnits_pair first second,
        whole, Char.ofNat_toNat, ih]

/-- A quoted string comes back. -/
theorem parseString_quote (text : String) (rest : List Char) :
    parseString (text.toList.flatMap escapeChar ++ '"' :: rest) = some (text, rest) := by
  rw [parseString, parseUnits_text, Option.map_some, joinUnits_utf16, String.ofList_toList]

/-! ### Numbers -/

/-- A text that does not continue a number. -/
def Ends (text : List Char) : Prop :=
  ∀ c, text.head? = some c → c.isDigit = false

theorem Ends.cons {c : Char} (notDigit : c.isDigit = false) (text : List Char) :
    Ends (c :: text) := by
  intro d first
  rw [← Option.some.inj first]
  exact notDigit

theorem takeWhile_of_ends {digits rest : List Char} (all : ∀ c ∈ digits, c.isDigit = true)
    (ends : Ends rest) :
    (digits ++ rest).takeWhile (·.isDigit) = digits ∧
      (digits ++ rest).dropWhile (·.isDigit) = rest := by
  rw [List.takeWhile_append_of_pos all, List.dropWhile_append_of_pos all]
  cases rest with
  | nil => simp
  | cons c rest =>
    have stops := ends c rfl
    simp [stops]

/-- Printed numbers have no superfluous zero. -/
theorem toDigits_head (n : ℕ) : n ≠ 0 → (Nat.toDigits 10 n).head? ≠ some '0' := by
  induction n using Nat.strongRecOn with
  | _ n ih =>
    intro positive
    by_cases small : n < 10
    · rw [Nat.toDigits_of_lt_base small]
      intro zero
      have digit : n.digitChar = '0' := by simpa using zero
      have table : ∀ m < 10, m.digitChar = '0' → m = 0 := by decide
      exact positive (table n small digit)
    · rw [Nat.toDigits_of_base_le (by decide) (by omega)]
      have shorter := ih (n / 10) (by omega) (by omega)
      rw [List.head?_append_of_ne_nil _ Nat.toDigits_ne_nil]
      exact shorter

theorem parseDigits_print (n : ℕ) {rest : List Char} (ends : Ends rest) :
    parseDigits (Nat.toDigits 10 n ++ rest) = some (n, rest) := by
  have all : ∀ c ∈ Nat.toDigits 10 n, c.isDigit = true := fun c member =>
    Nat.isDigit_of_mem_toDigits (by decide) (by decide) member
  obtain ⟨digits, after⟩ := takeWhile_of_ends all ends
  have proper : ¬ (Nat.toDigits 10 n = [] ∨
      (Nat.toDigits 10 n).head? = some '0' ∧ 1 < (Nat.toDigits 10 n).length) := by
    rintro (none | ⟨zero, long⟩)
    · exact Nat.toDigits_ne_nil none
    · by_cases nothing : n = 0
      · rw [nothing, Nat.toDigits_zero] at long
        exact absurd long (by decide)
      · exact toDigits_head n nothing zero
  simp only [parseDigits, digits, after]
  rw [if_neg proper, Nat.ofDigitChars_toDigits (by decide) (by decide)]

theorem toDigits_begins (n : ℕ) :
    ∃ c more, Nat.toDigits 10 n = c :: more ∧ c.isDigit = true := by
  obtain ⟨c, more, digits⟩ := List.exists_cons_of_ne_nil (Nat.toDigits_ne_nil (n := n) (b := 10))
  refine ⟨c, more, digits, ?_⟩
  apply Nat.isDigit_of_mem_toDigits (b := 10) (n := n) (by decide) (by decide)
  rw [digits]
  exact List.mem_cons_self

/-- A number begins with a sign or a digit. -/
theorem printInt_begins (n : Int) :
    ∃ c more, printInt n = c :: more ∧ (c = '-' ∨ c.isDigit = true) := by
  cases n with
  | ofNat n =>
    obtain ⟨c, more, digits, digit⟩ := toDigits_begins n
    exact ⟨c, more, digits, .inr digit⟩
  | negSucc n => exact ⟨'-', _, rfl, .inl rfl⟩

theorem parseInt_print (n : Int) {rest : List Char} (ends : Ends rest) :
    parseInt (printInt n ++ rest) = some (n, rest) := by
  cases n with
  | ofNat n =>
    obtain ⟨c, more, digits, digit⟩ := toDigits_begins n
    have first : c ≠ '-' := by
      rintro rfl
      exact absurd digit (by decide)
    have read := parseDigits_print n ends
    rw [digits] at read
    rw [printInt, digits, List.cons_append, parseInt, ← List.cons_append, read]
    · rfl
    · intro text same
      exact first (List.cons.inj same).1
  | negSucc n =>
    rw [printInt, List.cons_append, parseInt, parseDigits_print (n + 1) ends]
    rfl

/-! ### Values -/

/-- Every object in the value has its keys once. -/
inductive Value.Unique : Value → Prop
  | null : Unique .null
  | bool (value : Bool) : Unique (.bool value)
  | int (value : Int) : Unique (.int value)
  | str (text : String) : Unique (.str text)
  | arr {items : List Value} (each : ∀ item ∈ items, Unique item) : Unique (.arr items)
  | obj {members : List (String × Value)} (once : (members.map (·.1)).Nodup)
      (each : ∀ member ∈ members, Unique member.2) : Unique (.obj members)

theorem skipBlank_cons {c : Char} (dark : isBlank c = false) (text : List Char) :
    skipBlank (c :: text) = c :: text :=
  List.dropWhile_cons_of_neg (by simp [dark])

theorem skipBlank_newline (level : ℕ) (text : List Char) :
    skipBlank (newline level ++ text) = skipBlank text := by
  have blanks : ∀ c ∈ newline level, isBlank c = true := by
    intro c member
    rcases List.mem_cons.mp member with rfl | indented
    · decide
    · rw [List.eq_of_mem_replicate indented]
      decide
  exact List.dropWhile_append_of_pos blanks

/-- A parser to which white space before a value does not matter. -/
def SkipsBlank (parse : Parser Value) : Prop :=
  ∀ text, parse (skipBlank text) = parse text

theorem SkipsBlank.newline {parse : Parser Value} (skips : SkipsBlank parse) (level : ℕ)
    (text : List Char) : parse (Json.newline level ++ text) = parse text := by
  rw [← skips, skipBlank_newline, skips]

theorem SkipsBlank.space {parse : Parser Value} (skips : SkipsBlank parse) (text : List Char) :
    parse (' ' :: text) = parse text := by
  rw [← skips, ← skips text]
  rfl

theorem parseValue_skipsBlank (fuel : ℕ) : SkipsBlank (parseValue fuel) := by
  intro text
  cases fuel with
  | zero => rfl
  | succ fuel =>
    have twice : skipBlank (skipBlank text) = skipBlank text := List.dropWhile_idempotent _ _
    rw [parseValue, parseValue, twice]

/-- No value begins with white space or a closing bracket. -/
theorem dump_begins (level : ℕ) (value : Value) :
    ∃ c more, dump level value = c :: more ∧ isBlank c = false ∧ c ≠ ']' := by
  have number {c : Char} (starts : c = '-' ∨ c.isDigit = true) : isBlank c = false ∧ c ≠ ']' := by
    rcases starts with rfl | digit
    · decide
    · constructor
      · by_contra blank
        simp only [isBlank, Bool.or_eq_true, decide_eq_true_eq, Bool.not_eq_false] at blank
        rcases blank with ((rfl | rfl) | rfl) | rfl <;> exact absurd digit (by decide)
      · rintro rfl
        exact absurd digit (by decide)
  cases value with
  | null => exact ⟨'n', _, rfl, by decide, by decide⟩
  | bool value => cases value <;> exact ⟨_, _, rfl, by decide, by decide⟩
  | int n =>
    obtain ⟨c, more, printed, starts⟩ := printInt_begins n
    exact ⟨c, more, by rw [dump, printed], number starts⟩
  | float impossible => exact impossible.elim
  | str text => exact ⟨'"', _, rfl, by decide, by decide⟩
  | arr items => cases items <;> exact ⟨'[', _, rfl, by decide, by decide⟩
  | obj members => cases members <;> exact ⟨'\x7b', _, rfl, by decide, by decide⟩

theorem skip_int (n : Int) (rest : List Char) :
    skipBlank (printInt n ++ rest) = printInt n ++ rest := by
  obtain ⟨c, more, begins, dark, -⟩ := dump_begins 0 (.int n)
  have printed : printInt n = c :: more := begins
  rw [printed, List.cons_append, skipBlank_cons dark]

/-- What a parser has to do for values of up to `size` characters. -/
def ParsesBack (parse : Parser Value) (size : ℕ) : Prop :=
  ∀ level value rest, value.Unique → (dump level value).length < size → Ends rest →
    parse (dump level value ++ rest) = some (value, rest)

/-- After a value comes a comma, a line end, or nothing. -/
theorem ends_dumpItems (level outer : ℕ) (items : List Value) (rest : List Char) :
    Ends (dumpItems level items ++ (newline outer ++ rest)) := by
  cases items with
  | nil => exact Ends.cons (by decide) _
  | cons item items => exact Ends.cons (by decide) _

theorem ends_dumpMembers (level outer : ℕ) (members : List (String × Value)) (rest : List Char) :
    Ends (dumpMembers level members ++ (newline outer ++ rest)) := by
  cases members with
  | nil => exact Ends.cons (by decide) _
  | cons member members => exact Ends.cons (by decide) _

section Brackets

variable {parse : Parser Value} {size : ℕ} (back : ParsesBack parse size)
  (skips : SkipsBlank parse)

include back skips

/-- By induction on the items. -/
theorem parseItems_dump (level outer fuel : ℕ) {items : List Value}
    (each : ∀ item ∈ items, item.Unique) (small : (dumpItems level items).length < size)
    (enough : items.length < fuel) (rest : List Char) :
    parseItems parse fuel (dumpItems level items ++ (newline outer ++ ']' :: rest)) =
      some (items, rest) := by
  induction items generalizing fuel with
  | nil =>
    obtain ⟨fuel, rfl⟩ := Nat.exists_eq_succ_of_ne_zero (Nat.ne_of_gt enough)
    rw [dumpItems, List.nil_append, parseItems, skipBlank_newline, skipBlank_cons (by decide)]
    rfl
  | cons item items ih =>
    obtain ⟨fuel, rfl⟩ := Nat.exists_eq_succ_of_ne_zero (Nat.ne_of_gt (Nat.zero_lt_of_lt enough))
    have lengths : (dump level item).length + (dumpItems level items).length < size := by
      simp only [dumpItems, List.length_cons, List.length_append] at small
      omega
    have first := back level item (dumpItems level items ++ (newline outer ++ ']' :: rest))
      (each item List.mem_cons_self) (by omega) (ends_dumpItems level outer items _)
    have others := ih fuel (fun other member => each other (List.mem_cons_of_mem item member))
      (by omega) (by simpa using enough)
    rw [dumpItems, List.cons_append, parseItems, skipBlank_cons (by decide)]
    simp only [List.append_assoc, skips.newline, first, Option.bind_eq_bind, Option.bind_some,
      others]
    rfl

theorem parseMember_dump (level : ℕ) (key : String) {value : Value} (unique : value.Unique)
    (small : (dump level value).length < size) {rest : List Char} (ends : Ends rest) :
    parseMember parse (quote key ++ (": ".toList ++ (dump level value ++ rest))) =
      some ((key, value), rest) := by
  have opened : quote key ++ (": ".toList ++ (dump level value ++ rest)) =
      '"' :: (key.toList.flatMap escapeChar ++
        '"' :: (':' :: ' ' :: (dump level value ++ rest))) := by
    simp [quote]
  rw [opened, parseMember, skipBlank_cons (by decide)]
  simp only [parseString_quote, Option.bind_eq_bind, Option.bind_some]
  rw [skipBlank_cons (by decide)]
  simp only [skips.space, back level value rest unique small ends, Option.bind_some]
  rfl

/-- By induction on the members. -/
theorem parseMembers_dump (level outer fuel : ℕ) {members : List (String × Value)}
    (each : ∀ member ∈ members, member.2.Unique)
    (small : (dumpMembers level members).length < size) (enough : members.length < fuel)
    (rest : List Char) :
    parseMembers parse fuel (dumpMembers level members ++ (newline outer ++ '\x7d' :: rest)) =
      some (members, rest) := by
  induction members generalizing fuel with
  | nil =>
    obtain ⟨fuel, rfl⟩ := Nat.exists_eq_succ_of_ne_zero (Nat.ne_of_gt enough)
    rw [dumpMembers, List.nil_append, parseMembers, skipBlank_newline, skipBlank_cons (by decide)]
    rfl
  | cons member members ih =>
    obtain ⟨key, value⟩ := member
    obtain ⟨fuel, rfl⟩ := Nat.exists_eq_succ_of_ne_zero (Nat.ne_of_gt (Nat.zero_lt_of_lt enough))
    have lengths : (dump level value).length + (dumpMembers level members).length < size := by
      simp only [dumpMembers, List.length_cons, List.length_append] at small
      omega
    have short : (dump level value).length < size := by omega
    have first := parseMember_dump back skips level key (each (key, value) List.mem_cons_self)
      short (ends_dumpMembers level outer members ('\x7d' :: rest))
    have others := ih fuel (fun other member => each other (List.mem_cons_of_mem _ member))
      (by omega) (by simpa using enough)
    -- the newline before a member is skipped with the blanks
    have lead : parseMember parse (newline level ++ (quote key ++ (": ".toList ++
        (dump level value ++ (dumpMembers level members ++ (newline outer ++ '\x7d' :: rest)))))) =
        some ((key, value), dumpMembers level members ++ (newline outer ++ '\x7d' :: rest)) := by
      rw [← first, parseMember, parseMember, skipBlank_newline]
    rw [dumpMembers, List.cons_append, parseMembers, skipBlank_cons (by decide)]
    simp only [List.append_assoc, lead, Option.bind_eq_bind, Option.bind_some, others]
    rfl

end Brackets

theorem length_le_dumpItems (level : ℕ) (items : List Value) :
    items.length ≤ (dumpItems level items).length := by
  induction items with
  | nil => exact le_rfl
  | cons item items ih =>
    simp only [dumpItems, List.length_cons, List.length_append]
    omega

theorem length_le_dumpMembers (level : ℕ) (members : List (String × Value)) :
    members.length ≤ (dumpMembers level members).length := by
  induction members with
  | nil => exact le_rfl
  | cons member members ih =>
    obtain ⟨key, value⟩ := member
    simp only [dumpMembers, List.length_cons, List.length_append]
    omega

/-- A list that is not empty comes back if its items do. -/
theorem parseValue_arr {fuel : ℕ} (back : ParsesBack (parseValue fuel) fuel) (level : ℕ)
    {item : Value} {items : List Value} (each : ∀ other ∈ item :: items, other.Unique)
    (small : (dump level (.arr (item :: items))).length < fuel + 1) (rest : List Char) :
    parseValue (fuel + 1) (dump level (.arr (item :: items)) ++ rest) =
      some (.arr (item :: items), rest) := by
  have skips := parseValue_skipsBlank fuel
  have lengths : (dump (level + 1) item).length + (dumpItems (level + 1) items).length < fuel := by
    simp only [dump, List.length_cons, List.length_append] at small
    omega
  have items_le := length_le_dumpItems (level + 1) items
  have first := back (level + 1) item
    (dumpItems (level + 1) items ++ (newline level ++ ']' :: rest))
    (each item List.mem_cons_self) (by omega) (ends_dumpItems _ _ items _)
  have others := parseItems_dump back skips (level + 1) level fuel
    (fun other member => each other (List.mem_cons_of_mem item member)) (by omega) (by omega) rest
  obtain ⟨c, more, begins, dark, notClose⟩ := dump_begins (level + 1) item
  have opened : dump level (.arr (item :: items)) ++ rest =
      '[' :: (newline (level + 1) ++ (dump (level + 1) item ++
        (dumpItems (level + 1) items ++ (newline level ++ ']' :: rest)))) := by
    simp [dump]
  have inner : skipBlank (newline (level + 1) ++ (dump (level + 1) item ++
      (dumpItems (level + 1) items ++ (newline level ++ ']' :: rest)))) =
      dump (level + 1) item ++ (dumpItems (level + 1) items ++ (newline level ++ ']' :: rest)) := by
    rw [skipBlank_newline, begins, List.cons_append, skipBlank_cons dark]
  rw [opened]
  change parseArray (parseValue fuel) fuel _ = _
  -- the first item does not begin with the bracket that closes an empty list
  rw [parseArray, inner]
  split
  case h_1 closed =>
    rw [begins] at closed
    exact absurd (List.cons.inj closed).1 notClose
  case h_2 =>
    simp only [first, Option.bind_eq_bind, Option.bind_some, others]
    rfl

/-- An object that is not empty comes back if its values do. -/
theorem parseValue_obj {fuel : ℕ} (back : ParsesBack (parseValue fuel) fuel) (level : ℕ)
    {member : String × Value} {members : List (String × Value)}
    (once : ((member :: members).map (·.1)).Nodup)
    (each : ∀ other ∈ member :: members, other.2.Unique)
    (small : (dump level (.obj (member :: members))).length < fuel + 1) (rest : List Char) :
    parseValue (fuel + 1) (dump level (.obj (member :: members)) ++ rest) =
      some (.obj (member :: members), rest) := by
  obtain ⟨key, value⟩ := member
  have skips := parseValue_skipsBlank fuel
  have lengths :
      (dump (level + 1) value).length + (dumpMembers (level + 1) members).length < fuel := by
    simp only [dump, List.length_cons, List.length_append] at small
    omega
  have members_le := length_le_dumpMembers (level + 1) members
  have short : (dump (level + 1) value).length < fuel := by omega
  have first := parseMember_dump back skips (level + 1) key (each (key, value) List.mem_cons_self)
    short (ends_dumpMembers (level + 1) level members ('\x7d' :: rest))
  have others := parseMembers_dump back skips (level + 1) level fuel
    (fun other member => each other (List.mem_cons_of_mem _ member)) (by omega) (by omega) rest
  have opened : dump level (.obj ((key, value) :: members)) ++ rest =
      '\x7b' :: (newline (level + 1) ++ (quote key ++ (": ".toList ++ (dump (level + 1) value ++
        (dumpMembers (level + 1) members ++ (newline level ++ '\x7d' :: rest)))))) := by
    simp [dump]
  rw [opened]
  change parseObject (parseValue fuel) fuel _ = _
  rw [parseObject, skipBlank_newline, quote, List.cons_append, skipBlank_cons (by decide),
    ← List.cons_append, ← quote]
  split
  -- a key begins with its quote, not with the closing brace
  case h_1 closed => exact absurd (List.cons.inj closed).1 (by decide)
  case h_2 =>
    simp only [first, Option.bind_eq_bind, Option.bind_some, others, dict_eq_self once]
    rfl

/-- A value comes back with more fuel than it has characters. By induction on the fuel. -/
theorem parseValue_dump (fuel : ℕ) : ParsesBack (parseValue fuel) fuel := by
  induction fuel with
  | zero => exact fun _ _ _ _ small _ => absurd small (Nat.not_lt_zero _)
  | succ fuel ih =>
    intro level value rest unique small ends
    cases unique with
    | null => rfl
    | bool value => cases value <;> rfl
    | int n =>
      -- a number is recognised by its first character
      obtain ⟨c, more, printed, starts⟩ := printInt_begins n
      have number : startsNumber (printInt n ++ rest) = true := by
        rw [printed]
        simpa [startsNumber] using starts
      rw [dump, parseValue, skip_int n rest]
      simp only [number, if_true, parseInt_print n ends, Option.map_some]
    | str text =>
      have opened : dump level (.str text) ++ rest =
          '"' :: (text.toList.flatMap escapeChar ++ '"' :: rest) := by
        simp [dump, quote]
      rw [opened]
      change (parseString _).map _ = _
      rw [parseString_quote]
      rfl
    | arr each =>
      rename_i items
      cases items with
      | nil => rfl
      | cons item items => exact parseValue_arr ih level each small rest
    | obj once each =>
      rename_i members
      cases members with
      | nil => rfl
      | cons member members => exact parseValue_obj ih level once each small rest

/-- A document comes back, with white space after it or without. -/
theorem loads_dumps {value : Value} (unique : value.Unique) {after : List Char}
    (blanks : ∀ c ∈ after, isBlank c = true) : loads (dumps value ++ after) = some value := by
  have ends : Ends after := by
    intro c first
    have blank := blanks c (List.mem_of_head? first)
    simp only [isBlank, Bool.or_eq_true, decide_eq_true_eq] at blank
    rcases blank with ((rfl | rfl) | rfl) | rfl <;> decide
  have enough : (dump 0 value).length < (dumps value ++ after).length + 1 := by
    simp only [dumps, List.length_append]
    omega
  have read := parseValue_dump ((dumps value ++ after).length + 1) 0 value after unique enough ends
  have nothing : skipBlank after = [] := List.dropWhile_eq_nil_iff.mpr blanks
  rw [← dumps] at read
  rw [loads, read]
  exact if_pos nothing

end Json
