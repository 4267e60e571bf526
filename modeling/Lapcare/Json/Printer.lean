import Lapcare.Text.Utf8
import Mathlib.Data.List.Induction
import Mathlib.Data.List.Nodup

/-!
# JSON documents and how they are printed

The values that `json.dumps(value, indent=2)` prints, short of floats, and their text. A
`dict` keeps one value for each key: the last one, at the place of the first.

## Main results

* `dict_perm_iff` — a dict keeps all of its pairs exactly when no key comes twice
* `mem_dict_iff` — a dict has the last value of each key
-/

namespace Json

/-- JSON values, with floats of type `φ`. -/
inductive Tree (φ : Type)
  | null
  | bool (value : Bool)
  | int (value : Int)
  | float (value : φ)
  | str (text : String)
  | arr (items : List (Tree φ))
  | obj (members : List (String × Tree φ))

/-- JSON values without floats. -/
abbrev Value := Tree Empty

/-! ### Dictionaries -/

section Dict

variable {β : Type}

/-- `members[key] = value`. -/
def setItem (members : List (String × β)) (pair : String × β) : List (String × β) :=
  if pair.1 ∈ members.map (·.1) then
    members.map fun member => if member.1 = pair.1 then pair else member
  else members ++ [pair]

/-- `dict(pairs)`. -/
def dict (pairs : List (String × β)) : List (String × β) :=
  pairs.foldl setItem []

theorem setItem_keys (members : List (String × β)) (pair : String × β) :
    (setItem members pair).map (·.1) =
      if pair.1 ∈ members.map (·.1) then members.map (·.1) else members.map (·.1) ++ [pair.1] := by
  rw [setItem]
  by_cases old : pair.1 ∈ members.map (·.1)
  · rw [if_pos old, if_pos old, List.map_map]
    apply List.map_congr_left
    intro member _
    change (if member.1 = pair.1 then pair else member).1 = member.1
    by_cases same : member.1 = pair.1
    · rw [if_pos same, same]
    · rw [if_neg same]
  · rw [if_neg old, if_neg old, List.map_append]
    rfl

theorem setItem_keys_nodup {members : List (String × β)} (once : (members.map (·.1)).Nodup)
    (pair : String × β) : ((setItem members pair).map (·.1)).Nodup := by
  rw [setItem_keys]
  by_cases old : pair.1 ∈ members.map (·.1)
  · rw [if_pos old]
    exact once
  · rw [if_neg old]
    exact List.nodup_append.mpr ⟨once, List.nodup_singleton _, fun key member other same => by
      rw [List.mem_singleton.mp same]
      rintro rfl
      exact old member⟩

/-- A dict has every key once. -/
theorem dict_keys_nodup (pairs : List (String × β)) : ((dict pairs).map (·.1)).Nodup := by
  have run (members : List (String × β)) (once : (members.map (·.1)).Nodup) :
      ((pairs.foldl setItem members).map (·.1)).Nodup := by
    induction pairs generalizing members with
    | nil => exact once
    | cons pair pairs ih => exact ih _ (setItem_keys_nodup once pair)
  exact run [] List.nodup_nil

theorem foldl_setItem {members pairs : List (String × β)}
    (once : ((members ++ pairs).map (·.1)).Nodup) :
    pairs.foldl setItem members = members ++ pairs := by
  induction pairs generalizing members with
  | nil => exact (List.append_nil members).symm
  | cons pair pairs ih =>
    have fresh : pair.1 ∉ members.map (·.1) := by
      rw [List.map_append, List.nodup_append] at once
      intro old
      exact once.2.2 pair.1 old pair.1 List.mem_cons_self rfl
    have placed : setItem members pair = members ++ [pair] := if_neg fresh
    have split : members ++ pair :: pairs = (members ++ [pair]) ++ pairs := by simp
    rw [List.foldl_cons, placed, split]
    exact ih (by rw [← split]; exact once)

/-- Pairs with different keys are a dict already. -/
theorem dict_eq_self {pairs : List (String × β)} (once : (pairs.map (·.1)).Nodup) :
    dict pairs = pairs := by
  have all : ((([] : List (String × β)) ++ pairs).map (·.1)).Nodup := once
  exact foldl_setItem all

/-- A dict keeps all of its pairs exactly when no key comes twice. -/
theorem dict_perm_iff (pairs : List (String × β)) :
    (dict pairs).Perm pairs ↔ (pairs.map (·.1)).Nodup := by
  constructor
  · intro same
    exact (same.map (·.1)).nodup_iff.mp (dict_keys_nodup pairs)
  · intro once
    rw [dict_eq_self once]

theorem mem_setItem_iff (members : List (String × β)) (pair : String × β) (key : String)
    (value : β) :
    (key, value) ∈ setItem members pair ↔
      if pair.1 = key then pair = (key, value) else (key, value) ∈ members := by
  by_cases same : pair.1 = key
  · subst same
    rw [if_pos rfl, setItem]
    -- a key that is there keeps its place, a new one goes to the end
    split_ifs with old
    · obtain ⟨member, among, named⟩ := List.mem_map.1 old
      constructor
      · intro found
        obtain ⟨other, -, found⟩ := List.mem_map.1 found
        split_ifs at found with here
        · exact found
        · rw [found] at here
          exact absurd rfl here
      · intro found
        exact List.mem_map.2 ⟨member, among, by rw [if_pos named, found]⟩
    · have fresh : (pair.1, value) ∉ members := fun among =>
        old (List.mem_map.2 ⟨_, among, rfl⟩)
      simp [fresh, eq_comm]
  · -- the other keys keep their values
    rw [if_neg same, setItem]
    split_ifs
    · constructor
      · intro found
        obtain ⟨other, among, found⟩ := List.mem_map.1 found
        split_ifs at found with here
        · rw [found] at same
          exact absurd rfl same
        · exact found ▸ among
      · intro among
        exact List.mem_map.2 ⟨_, among, if_neg fun here => same here.symm⟩
    · have other : (key, value) ≠ pair := by
        rintro rfl
        exact same rfl
      simp [other]

/-- A dict has the last value that was recorded for a key. -/
theorem mem_dict_iff (pairs : List (String × β)) (key : String) (value : β) :
    (key, value) ∈ dict pairs ↔
      (pairs.filter (·.1 = key)).getLast? = some (key, value) := by
  induction pairs using List.reverseRecOn with
  | nil => simp [dict]
  | append_singleton pairs pair ih =>
    have last : dict (pairs ++ [pair]) = setItem (dict pairs) pair := by
      rw [dict, List.foldl_append]
      rfl
    rw [last, mem_setItem_iff, List.filter_append]
    by_cases same : pair.1 = key
    · simp [same]
    · simp [same, ih]

theorem dict_subset (pairs : List (String × β)) : dict pairs ⊆ pairs := by
  intro pair kept
  have last := (mem_dict_iff pairs pair.1 pair.2).1 kept
  exact List.mem_of_mem_filter (List.mem_of_getLast? last)

end Dict

/-! ### Text -/

def hexDigitChar (digit : ℕ) : Char :=
  if digit < 10 then Char.ofNat (0x30 + digit) else Char.ofNat (0x57 + digit)

/-- `\uXXXX`, in lower case. -/
def unicodeEscape (unit : ℕ) : List Char :=
  ['\\', 'u', hexDigitChar (unit / 0x1000 % 16), hexDigitChar (unit / 0x100 % 16),
    hexDigitChar (unit / 0x10 % 16), hexDigitChar (unit % 16)]

/-- The UTF-16 code units of a character. -/
def utf16 (c : Char) : List ℕ :=
  if c.toNat < 0x10000 then [c.toNat]
  else [0xd800 + (c.toNat - 0x10000) / 0x400, 0xdc00 + (c.toNat - 0x10000) % 0x400]

/-- A character of a string under `ensure_ascii`. -/
def escapeChar (c : Char) : List Char :=
  if c = '"' then ['\\', '"']
  else if c = '\\' then ['\\', '\\']
  else if c = '\n' then ['\\', 'n']
  else if c = '\r' then ['\\', 'r']
  else if c = '\t' then ['\\', 't']
  else if c = '\x0c' then ['\\', 'f']
  else if c = '\x08' then ['\\', 'b']
  else if 0x20 ≤ c.toNat ∧ c.toNat ≤ 0x7e then [c]
  else (utf16 c).flatMap unicodeEscape

def quote (text : String) : List Char :=
  '"' :: (text.toList.flatMap escapeChar ++ ['"'])

def printInt : Int → List Char
  | .ofNat n => Nat.toDigits 10 n
  | .negSucc n => '-' :: Nat.toDigits 10 (n + 1)

/-- A line end, and the indentation of the next line. -/
def newline (level : ℕ) : List Char :=
  '\n' :: List.replicate (2 * level) ' '

mutual

/-- `json.dumps(value, indent=2)`, inside `level` brackets. -/
def dump (level : ℕ) : Value → List Char
  | .null => "null".toList
  | .bool true => "true".toList
  | .bool false => "false".toList
  | .int n => printInt n
  | .float impossible => impossible.elim
  | .str text => quote text
  | .arr [] => "[]".toList
  | .arr (item :: items) =>
      '[' :: (newline (level + 1) ++ (dump (level + 1) item ++
        (dumpItems (level + 1) items ++ (newline level ++ [']']))))
  | .obj [] => "{}".toList
  | .obj ((key, value) :: members) =>
      '{' :: (newline (level + 1) ++ (quote key ++ (": ".toList ++ (dump (level + 1) value ++
        (dumpMembers (level + 1) members ++ (newline level ++ ['}']))))))

/-- The items after the first. -/
def dumpItems (level : ℕ) : List Value → List Char
  | [] => []
  | item :: items => ',' :: (newline level ++ (dump level item ++ dumpItems level items))

/-- The members after the first. -/
def dumpMembers (level : ℕ) : List (String × Value) → List Char
  | [] => []
  | (key, value) :: members =>
      ',' :: (newline level ++ (quote key ++ (": ".toList ++ (dump level value ++
        dumpMembers level members))))

end

/-- `json.dumps(value, indent=2)`. -/
def dumps (value : Value) : List Char :=
  dump 0 value

example : dumps (.obj [("é", .arr [.int (-3), .null])]) =
    "\x7b\n  \"\\u00e9\": [\n    -3,\n    null\n  ]\n\x7d".toList := by decide

end Json
