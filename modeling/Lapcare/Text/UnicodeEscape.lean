import Lapcare.Text.Utf8

/-!
# The unicode_escape codec

`bytes.decode("unicode_escape")`: escapes of Python string literals over Latin-1 bytes,
read byte by byte. A lone surrogate, which only a four- or eight-digit escape can name, is
no character here and comes out as the replacement character.

## Main results

* `unescape_bytes` — bytes other than the backslash stand for their own characters
* `unescape_octal` — three octal digits stand for the character they number
-/

namespace Text

namespace UnicodeEscape

def backslash : UInt8 := 0x5c

/-- Where the decoder stands between two bytes. `lacking` digits may still belong to the
escape, and a hexadecimal one needs them all. -/
inductive State
  | plain
  | slash
  | octal (value lacking : ℕ)
  | hex (value lacking : ℕ) (message : String)
  | openName
  | name (letters : List UInt8)

/-- Escapes of one letter. An escaped line end disappears. -/
def simpleEscape : ℕ → Option (List Char)
  | 0x0a => some []
  | 0x22 => some ['"']
  | 0x27 => some ['\'']
  | 0x5c => some ['\\']
  | 0x61 => some ['\x07']
  | 0x62 => some ['\x08']
  | 0x66 => some ['\x0c']
  | 0x6e => some ['\n']
  | 0x72 => some ['\r']
  | 0x74 => some ['\t']
  | 0x76 => some ['\x0b']
  | _ => none

def octalDigit (b : ℕ) : Option ℕ :=
  if 0x30 ≤ b ∧ b ≤ 0x37 then some (b - 0x30) else none

def hexDigit (b : ℕ) : Option ℕ :=
  if 0x30 ≤ b ∧ b ≤ 0x39 then some (b - 0x30)
  else if 0x41 ≤ b ∧ b ≤ 0x46 then some (b - 0x37)
  else if 0x61 ≤ b ∧ b ≤ 0x66 then some (b - 0x57)
  else none

def malformedName : String := "malformed \\N character escape"

/-- A byte as the character of its own number. -/
def byteChar (b : UInt8) : Char :=
  Char.ofNat b.toNat

def plainByte (b : UInt8) : List Char × State :=
  if b = backslash then ([], .slash) else ([byteChar b], .plain)

/-- The byte after a backslash. An unknown escape keeps its backslash. -/
def escapeByte (b : UInt8) : List Char × State :=
  match simpleEscape b.toNat, octalDigit b.toNat with
  | some text, _ => (text, .plain)
  | none, some digit => ([], .octal digit 2)
  | none, none =>
      if b = 0x78 then ([], .hex 0 2 "truncated \\xXX escape")
      else if b = 0x75 then ([], .hex 0 4 "truncated \\uXXXX escape")
      else if b = 0x55 then ([], .hex 0 8 "truncated \\UXXXXXXXX escape")
      else if b = 0x4e then ([], .openName)
      else (['\\', byteChar b], .plain)

section Decoder

-- the characters that the Unicode database names
variable (names : List UInt8 → Option Char)

/-- What a byte adds to the text, and where the decoder stands after it. -/
def step : State → UInt8 → Except String (List Char × State)
  | .plain, b => .ok (plainByte b)
  | .slash, b => .ok (escapeByte b)
  | .octal value lacking, b =>
      match octalDigit b.toNat with
      | some digit =>
          let longer := value * 8 + digit
          if lacking ≤ 1 then .ok ([pointChar longer], .plain)
          else .ok ([], .octal longer (lacking - 1))
      | none => .ok (pointChar value :: (plainByte b).1, (plainByte b).2)
  | .hex value lacking message, b =>
      match hexDigit b.toNat with
      | some digit =>
          let longer := value * 16 + digit
          if 1 < lacking then .ok ([], .hex longer (lacking - 1) message)
          else if longer ≤ 0x10ffff then .ok ([pointChar longer], .plain)
          else .error "illegal Unicode character"
      | none => .error message
  | .openName, b => if b = 0x7b then .ok ([], .name []) else .error malformedName
  | .name letters, b =>
      if b ≠ 0x7d then .ok ([], .name (letters ++ [b]))
      else if letters = [] then .error malformedName
      else
        match names letters with
        | some c => .ok ([c], .plain)
        | none => .error "unknown Unicode character name"

/-- The end of the bytes. -/
def finish : State → Except String (List Char)
  | .plain => .ok []
  | .slash => .error "\\ at end of string"
  | .octal value _ => .ok [pointChar value]
  | .hex _ _ message => .error message
  | .openName => .error malformedName
  | .name _ => .error malformedName

def unescapeFrom : State → List UInt8 → Except String (List Char)
  | state, [] => finish state
  | state, b :: rest => do
      let turn ← step names state b
      (turn.1 ++ ·) <$> unescapeFrom turn.2 rest

/-- `bytes.decode("unicode_escape")`. -/
def unescape (bytes : List UInt8) : Except String (List Char) :=
  unescapeFrom names .plain bytes

example : unescape names [0x61, 0x5c, 0x31, 0x30, 0x31, 0xe9, 0x5c, 0x78, 0x34, 0x31] =
    .ok "aAéA".toList := rfl

theorem unescapeFrom_cons {state next : State} {b : UInt8} {text : List Char}
    (steps : step names state b = .ok (text, next)) (rest : List UInt8) :
    unescapeFrom names state (b :: rest) = (text ++ ·) <$> unescapeFrom names next rest := by
  rw [unescapeFrom, steps]
  rfl

/-- A byte other than the backslash stands for its own character. -/
theorem unescape_byte {b : UInt8} (ordinary : b ≠ backslash) (rest : List UInt8) :
    unescape names (b :: rest) = (byteChar b :: ·) <$> unescape names rest := by
  have steps : step names .plain b = .ok ([byteChar b], .plain) := by
    rw [step, plainByte, if_neg ordinary]
  exact unescapeFrom_cons names steps rest

theorem unescape_bytes {front : List UInt8} (ordinary : ∀ b ∈ front, b ≠ backslash)
    (rest : List UInt8) :
    unescape names (front ++ rest) = (front.map byteChar ++ ·) <$> unescape names rest := by
  induction front with
  | nil => exact (id_map _).symm
  | cons b front ih =>
    rw [List.cons_append, unescape_byte names (ordinary b List.mem_cons_self),
      ih fun c member => ordinary c (List.mem_cons_of_mem b member)]
    cases unescape names rest <;> rfl

/-- Three octal digits stand for the character they number. -/
theorem unescape_octal {a b c : UInt8} {first second third : ℕ}
    (high : simpleEscape a.toNat = none) (readsHigh : octalDigit a.toNat = some first)
    (readsMiddle : octalDigit b.toNat = some second)
    (readsLow : octalDigit c.toNat = some third) (rest : List UInt8) :
    unescape names (backslash :: a :: b :: c :: rest) =
      (pointChar ((first * 8 + second) * 8 + third) :: ·) <$> unescape names rest := by
  have opens : step names .plain backslash = .ok ([], .slash) := rfl
  have starts : step names .slash a = .ok ([], .octal first 2) := by
    simp only [step, escapeByte, high, readsHigh]
  have goesOn : step names (.octal first 2) b = .ok ([], .octal (first * 8 + second) 1) := by
    simp [step, readsMiddle]
  have ends : step names (.octal (first * 8 + second) 1) c =
      .ok ([pointChar ((first * 8 + second) * 8 + third)], .plain) := by
    simp [step, readsLow]
  rw [unescape, unescapeFrom_cons names opens, unescapeFrom_cons names starts,
    unescapeFrom_cons names goesOn, unescapeFrom_cons names ends]
  simp only [List.nil_append, id_map', List.singleton_append]
  rfl

end Decoder

end UnicodeEscape

end Text
