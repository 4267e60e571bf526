import Lapcare.Text.Lines
import Lapcare.Text.UnicodeEscape
import Lapcare.Text.Utf8

/-!
# The encoding of a mountpoint

The kernel writes four characters of a mountpoint as octal escapes. The mountpoint is read
back up to the first white space it left as it is, as unicode_escape of UTF-8: an escape
over Latin-1, so that a character beyond ASCII comes back as its bytes.

## Main results

* `unescape_mangle` — a mangled text comes back as the bytes of its UTF-8
* `takeWhile_mangle` — what is cut off at white space
* `latin1_takeWhile_eq_iff` — the mountpoints that come back as they are
-/

namespace Lapcare.Providers

open Text

/-- What the kernel escapes. -/
def escapedChars : List Char := [' ', '\t', '\n', '\\']

def mangleChar (c : Char) : List Char :=
  if c = ' ' then "\\040".toList
  else if c = '\t' then "\\011".toList
  else if c = '\n' then "\\012".toList
  else if c = '\\' then "\\134".toList
  else [c]

/-- A mountpoint as the mount table shows it. -/
def mangle (text : List Char) : List Char :=
  text.flatMap mangleChar

/-- White space that the kernel leaves as it is. -/
def isBare (c : Char) : Bool :=
  isSpace c && !escapedChars.contains c

/-- ASCII text without bare white space, that is without vertical tab, form feed, carriage
return and the four separators from `0x1c` on. -/
def Plain (text : List Char) : Prop :=
  ∀ c ∈ text, c.toNat < 0x80 ∧ isBare c = false

instance (text : List Char) : Decidable (Plain text) :=
  List.decidableBAll _ text

/-- The bytes of a text, each as the character of its own number. -/
def latin1 (text : List Char) : List Char :=
  (encode text).map UnicodeEscape.byteChar

theorem mangle_cons (c : Char) (text : List Char) :
    mangle (c :: text) = mangleChar c ++ mangle text := rfl

theorem latin1_cons (c : Char) (text : List Char) :
    latin1 (c :: text) =
      (String.utf8EncodeChar c).map UnicodeEscape.byteChar ++ latin1 text :=
  List.map_append

/-- A character that is not escaped stands for itself. -/
theorem mangleChar_self {c : Char} (ordinary : c ∉ escapedChars) : mangleChar c = [c] := by
  simp only [escapedChars, List.mem_cons, List.not_mem_nil, or_false, not_or] at ordinary
  obtain ⟨notBlank, notTab, notNewline, notBackslash⟩ := ordinary
  rw [mangleChar, if_neg notBlank, if_neg notTab, if_neg notNewline, if_neg notBackslash]

/-! ### Decoding a mangled text -/

theorem utf8EncodeChar_ne_backslash {c : Char} (other : c ≠ '\\') :
    ∀ b ∈ String.utf8EncodeChar c, b ≠ UnicodeEscape.backslash := by
  rintro b member rfl
  by_cases ascii : c.toNat < 0x80
  · rw [utf8EncodeChar_ascii ascii, List.mem_singleton] at member
    have value : c.toNat = 0x5c := by
      rw [← toNat_ofNat_byte (by omega : c.toNat < 256), ← member]
      rfl
    apply other
    rw [← Char.ofNat_toNat c, value]
  · have high := (utf8EncodeChar_high (c := c) (by omega)).2 _ member
    exact absurd high (by decide)

theorem unescape_mangleChar (names : List UInt8 → Option Char) (c : Char) (rest : List UInt8) :
    UnicodeEscape.unescape names (encode (mangleChar c) ++ rest) =
      ((String.utf8EncodeChar c).map UnicodeEscape.byteChar ++ ·) <$>
        UnicodeEscape.unescape names rest := by
  by_cases escaped : c ∈ escapedChars
  · simp only [escapedChars, List.mem_cons, List.not_mem_nil, or_false] at escaped
    rcases escaped with rfl | rfl | rfl | rfl
    · exact UnicodeEscape.unescape_octal names (a := 0x30) (b := 0x34) (c := 0x30) rfl rfl rfl
        rfl rest
    · exact UnicodeEscape.unescape_octal names (a := 0x30) (b := 0x31) (c := 0x31) rfl rfl rfl
        rfl rest
    · exact UnicodeEscape.unescape_octal names (a := 0x30) (b := 0x31) (c := 0x32) rfl rfl rfl
        rfl rest
    · exact UnicodeEscape.unescape_octal names (a := 0x31) (b := 0x33) (c := 0x34) rfl rfl rfl
        rfl rest
  · have notBackslash : c ≠ '\\' := by
      rintro rfl
      exact escaped (by decide)
    rw [mangleChar_self escaped]
    have single : encode [c] = String.utf8EncodeChar c := List.append_nil _
    rw [single]
    exact UnicodeEscape.unescape_bytes names (utf8EncodeChar_ne_backslash notBackslash) rest

/-- A mangled text comes back as the bytes of its UTF-8. -/
theorem unescape_mangle (names : List UInt8 → Option Char) (text : List Char) :
    UnicodeEscape.unescape names (encode (mangle text)) = .ok (latin1 text) := by
  induction text with
  | nil => rfl
  | cons c text ih =>
    rw [mangle_cons, encode_append, unescape_mangleChar, ih, latin1_cons]
    rfl

/-! ### What is cut off -/

theorem mem_escapedChars_of_space {c : Char} (space : isSpace c = true)
    (notBare : isBare c = false) : c ∈ escapedChars := by
  simpa [isBare, space] using notBare

theorem mangleChar_solid {c : Char} (notBare : isBare c = false) :
    ∀ d ∈ mangleChar c, isSpace d = false := by
  by_cases escaped : c ∈ escapedChars
  · simp only [escapedChars, List.mem_cons, List.not_mem_nil, or_false] at escaped
    rcases escaped with rfl | rfl | rfl | rfl <;> simp [mangleChar, isSpace]
  · rw [mangleChar_self escaped]
    intro d same
    rw [List.mem_singleton] at same
    rw [same]
    by_contra space
    exact escaped (mem_escapedChars_of_space (by simpa using space) notBare)

/-- Reading a mangled text up to white space, whatever follows it. -/
theorem takeWhile_mangle (text : List Char) {w : Char} (space : isSpace w = true)
    (rest : List Char) :
    (mangle text ++ w :: rest).takeWhile (!isSpace ·) = mangle (text.takeWhile (!isBare ·)) := by
  induction text with
  | nil => exact List.takeWhile_cons_of_neg (by simp [space])
  | cons c text ih =>
    by_cases bare : isBare c = true
    · have ordinary : c ∉ escapedChars := by
        intro escaped
        simp [isBare, escaped] at bare
      have spaceC : isSpace c = true := (Bool.and_eq_true_iff.mp bare).1
      rw [mangle_cons, mangleChar_self ordinary, List.takeWhile_cons_of_neg (by simp [bare])]
      exact List.takeWhile_cons_of_neg (by simp [spaceC])
    · have notBare : isBare c = false := by simpa using bare
      have solid := mangleChar_solid notBare
      rw [mangle_cons, List.append_assoc,
        List.takeWhile_append_of_pos (fun d member => by simpa using solid d member), ih,
        List.takeWhile_cons_of_pos (by simp [notBare]), mangle_cons]

/-! ### What comes back as it is -/

theorem toNat_byteChar (b : UInt8) : (UnicodeEscape.byteChar b).toNat = b.toNat := by
  have byte := b.toNat_lt
  have valid : b.toNat.isValidChar := .inl (by omega)
  rw [UnicodeEscape.byteChar, Char.ofNat, dif_pos valid]
  rfl

theorem byteChar_ascii {c : Char} (ascii : c.toNat < 0x80) :
    UnicodeEscape.byteChar (UInt8.ofNat c.toNat) = c := by
  rw [UnicodeEscape.byteChar, toNat_ofNat_byte (by omega), Char.ofNat_toNat]

theorem latin1_of_ascii {text : List Char} (ascii : ∀ c ∈ text, c.toNat < 0x80) :
    latin1 text = text := by
  induction text with
  | nil => rfl
  | cons c text ih =>
    have first : c.toNat < 0x80 := ascii c List.mem_cons_self
    rw [latin1_cons, utf8EncodeChar_ascii first,
      ih fun d member => ascii d (List.mem_cons_of_mem c member), List.map_singleton,
      byteChar_ascii first]
    rfl

theorem lt_of_mem_latin1 {text : List Char} {d : Char} (member : d ∈ latin1 text) :
    d.toNat < 0x100 := by
  obtain ⟨b, -, rfl⟩ := List.mem_map.mp member
  rw [toNat_byteChar]
  exact b.toNat_lt

/-- The bytes of Latin-1 text: a character of its own, one of two lead bytes, or the last
byte of a character from the upper half. -/
theorem mem_latin1 {text : List Char} (small : ∀ c ∈ text, c.toNat < 0x100) {d : Char}
    (member : d ∈ latin1 text) :
    (d.toNat < 0x80 ∧ d ∈ text) ∨ d.toNat = 0xc2 ∨ d.toNat = 0xc3 ∨
      (0x80 ≤ d.toNat ∧ d.toNat ≤ 0xbf ∧
        (d ∈ text ∨ ∃ c ∈ text, c.toNat = d.toNat + 0x40)) := by
  obtain ⟨b, encoded, rfl⟩ := List.mem_map.mp member
  obtain ⟨c, within, byte⟩ := List.mem_flatMap.mp encoded
  have bound : c.toNat < 0x100 := small c within
  by_cases ascii : c.toNat < 0x80
  · rw [utf8EncodeChar_ascii ascii, List.mem_singleton] at byte
    rw [byte, byteChar_ascii ascii]
    exact .inl ⟨ascii, within⟩
  rw [utf8EncodeChar_latin1 (by omega) bound, List.mem_cons, List.mem_singleton] at byte
  -- the lead byte, then the one that follows it
  rcases byte with rfl | rfl
  · rw [toNat_byteChar, toNat_ofNat_byte (by omega)]
    omega
  · have value : (UnicodeEscape.byteChar (UInt8.ofNat (c.toNat % 64 + 0x80))).toNat =
        c.toNat % 64 + 0x80 := by
      rw [toNat_byteChar, toNat_ofNat_byte (by omega)]
    refine .inr (.inr (.inr ⟨by omega, by omega, ?_⟩))
    -- below U+00C0 the last byte is the code point itself
    by_cases lower : c.toNat < 0xc0
    · have same : UnicodeEscape.byteChar (UInt8.ofNat (c.toNat % 64 + 0x80)) = c := by
        apply Char.toNat_inj.mp
        omega
      rw [same]
      exact .inl within
    · exact .inr ⟨c, within, by omega⟩

theorem Plain.takeWhile_eq {text : List Char} (plain : Plain text) :
    text.takeWhile (!isBare ·) = text :=
  List.takeWhile_eq_self_iff.mpr fun c member => by simp [(plain c member).2]

/-- Bare white space in the upper half of Latin-1. -/
theorem toNat_of_isBare {w : Char} (bare : isBare w = true) (high : 0x80 ≤ w.toNat)
    (small : w.toNat < 0x100) : w.toNat = 0x85 ∨ w.toNat = 0xa0 := by
  have space : isSpace w = true := (Bool.and_eq_true_iff.mp bare).1
  simp only [isSpace, Bool.or_eq_true, Bool.and_eq_true, decide_eq_true_eq, beq_iff_eq] at space
  omega

/-- Bare white space is not among the bytes of what stands before it, if these bytes hold
every character that stands there. -/
theorem bare_not_mem_latin1 {front : List Char} {w : Char} (bare : isBare w = true)
    (clear : ∀ c ∈ front, isBare c = false) (own : ∀ c ∈ front, c ∈ latin1 front) :
    w ∉ latin1 front := by
  intro among
  have small : ∀ c ∈ front, c.toNat < 0x100 := fun c member => lt_of_mem_latin1 (own c member)
  have notOwn : w ∉ front := by
    intro member
    exact absurd bare (by simp [clear w member])
  have bound := lt_of_mem_latin1 among
  rcases mem_latin1 small among with
    ⟨-, member⟩ | lead | lead | ⟨high, -, member | ⟨c, member, shifted⟩⟩
  · exact notOwn member
  · have value := toNat_of_isBare bare (by omega) bound
    omega
  · have value := toNat_of_isBare bare (by omega) bound
    omega
  · exact notOwn member
  · -- the byte would be the last one of a character that is no byte of the front itself
    have value := toNat_of_isBare bare high bound
    rcases mem_latin1 small (own c member) with ⟨ascii, -⟩ | lead | lead | ⟨-, most, -⟩ <;> omega

/-- The mountpoints that come back as they are. -/
theorem latin1_takeWhile_eq_iff (text : List Char) :
    latin1 (text.takeWhile (!isBare ·)) = text ↔ Plain text := by
  constructor
  · intro back
    have parts := List.takeWhile_append_dropWhile (p := (!isBare ·)) (l := text)
    have clear : ∀ c ∈ text.takeWhile (!isBare ·), isBare c = false := by
      intro c member
      simpa using List.mem_takeWhile_imp member
    have own : ∀ c ∈ text, c ∈ latin1 (text.takeWhile (!isBare ·)) := by
      intro c member
      rw [back]
      exact member
    have sub : ∀ c ∈ text.takeWhile (!isBare ·), c ∈ text :=
      fun c member => List.takeWhile_subset _ member
    cases rest : text.dropWhile (!isBare ·) with
    | nil =>
      -- nothing is cut off, so every character takes one byte
      rw [rest, List.append_nil] at parts
      have ascii : ∀ c ∈ text, c.toNat < 0x80 := by
        apply ascii_of_length_encode
        have lengths := congrArg List.length back
        rw [parts, latin1, List.length_map] at lengths
        exact lengths.le
      intro c member
      exact ⟨ascii c member, clear c (by rw [parts]; exact member)⟩
    | cons w others =>
      have bare : isBare w = true := by
        have stopped := List.head?_dropWhile_not (!isBare ·) text
        rw [rest] at stopped
        simpa using stopped
      have member : w ∈ text := by
        rw [← parts, rest]
        exact List.mem_append_right _ List.mem_cons_self
      exact absurd (own w member)
        (bare_not_mem_latin1 bare clear fun c within => own c (sub c within))
  · intro plain
    rw [plain.takeWhile_eq]
    exact latin1_of_ascii fun c member => (plain c member).1

end Lapcare.Providers
