import Mathlib.Data.List.Basic
import Mathlib.Data.Nat.Basic

/-!
# UTF-8

Encoding of text, and the decoding of arbitrary bytes under `errors="replace"`: every
maximal incomplete or ill-formed sequence becomes one replacement character. The decoder
goes byte by byte, so what a byte does depends on the sequence it may continue only.

## Main results

* `decode_encode` — decoding undoes encoding
* `decode_append_ascii` — an ASCII byte separates what stands before and after it
-/

namespace Text

/-- `str.encode`. -/
def encode (text : List Char) : List UInt8 :=
  text.flatMap String.utf8EncodeChar

/-- What an ill-formed sequence is replaced by. -/
def replacement : Char := '\uFFFD'

/-- The character of a code point. A surrogate has none. -/
def pointChar (point : ℕ) : Char :=
  if point.isValidChar then Char.ofNat point else replacement

theorem pointChar_toNat (c : Char) : pointChar c.toNat = c := by
  have valid : c.toNat.isValidChar := c.valid
  rw [pointChar, if_pos valid, Char.ofNat_toNat]

/-- A sequence that still lacks bytes. The next one has to lie between two bounds, which
never admit an ASCII byte. -/
structure Sequence where
  value : ℕ
  lacking : ℕ
  low : ℕ
  high : ℕ
  continuation : 0x80 ≤ low

/-- A sequence whose next byte is any continuation byte. -/
def Sequence.open_ (value lacking : ℕ) : Sequence :=
  ⟨value, lacking, 0x80, 0xbf, le_rfl⟩

/-- What a byte does that continues no sequence. -/
def startByte (b : ℕ) : List Char × Option Sequence :=
  if b < 0x80 then ([Char.ofNat b], none)
  else if b < 0xc2 then ([replacement], none)
  else if b < 0xe0 then ([], some (.open_ (b - 0xc0) 0))
  else if b = 0xe0 then ([], some ⟨0, 1, 0xa0, 0xbf, by decide⟩)
  else if b = 0xed then ([], some ⟨0xd, 1, 0x80, 0x9f, by decide⟩)
  else if b < 0xf0 then ([], some (.open_ (b - 0xe0) 1))
  else if b = 0xf0 then ([], some ⟨0, 2, 0x90, 0xbf, by decide⟩)
  else if b < 0xf4 then ([], some (.open_ (b - 0xf0) 2))
  else if b = 0xf4 then ([], some ⟨4, 2, 0x80, 0x8f, by decide⟩)
  else ([replacement], none)

/-- What a byte does: it continues the sequence before it, or breaks it off and starts
anew. -/
def nextByte (state : Option Sequence) (b : ℕ) : List Char × Option Sequence :=
  match state with
  | none => startByte b
  | some sequence =>
      if sequence.low ≤ b ∧ b ≤ sequence.high then
        let value := sequence.value * 64 + (b - 0x80)
        match sequence.lacking with
        | 0 => ([Char.ofNat value], none)
        | lacking + 1 => ([], some (.open_ value lacking))
      else (replacement :: (startByte b).1, (startByte b).2)

/-- Decode from the middle of a sequence. -/
def decodeFrom : Option Sequence → List UInt8 → List Char
  | none, [] => []
  | some _, [] => [replacement]
  | state, b :: rest =>
      (nextByte state b.toNat).1 ++ decodeFrom (nextByte state b.toNat).2 rest

/-- `bytes.decode(errors="replace")`. -/
def decode (bytes : List UInt8) : List Char :=
  decodeFrom none bytes

example : decode [0x61, 0xe2, 0x82, 0x62, 0xc3, 0xa9, 0xff] =
    ['a', replacement, 'b', 'é', replacement] := by decide

theorem decodeFrom_cons (state : Option Sequence) (b : UInt8) (rest : List UInt8) :
    decodeFrom state (b :: rest) =
      (nextByte state b.toNat).1 ++ decodeFrom (nextByte state b.toNat).2 rest := by
  cases state <;> rfl

/-! ### Lengths -/

/-- A byte that starts anew writes a character or begins a sequence. -/
theorem length_startByte (b : ℕ) :
    (startByte b).1.length + (startByte b).2.toList.length = 1 := by
  unfold startByte
  split_ifs <;> rfl

/-- A byte adds a character at most, if a sequence that has begun counts for one. -/
theorem length_nextByte_le (state : Option Sequence) (b : ℕ) :
    (nextByte state b).1.length + (nextByte state b).2.toList.length ≤
      state.toList.length + 1 := by
  have fresh := length_startByte b
  cases state with
  | none => exact Nat.le_of_eq fresh
  | some sequence =>
    rw [nextByte]
    split_ifs
    · cases sequence.lacking <;> simp
    · change (replacement :: (startByte b).1).length + (startByte b).2.toList.length ≤ 1 + 1
      rw [List.length_cons]
      omega

theorem length_decodeFrom_le (state : Option Sequence) (bytes : List UInt8) :
    (decodeFrom state bytes).length ≤ state.toList.length + bytes.length := by
  induction bytes generalizing state with
  | nil => cases state <;> simp [decodeFrom]
  | cons b rest ih =>
    have added := length_nextByte_le state b.toNat
    have more := ih (nextByte state b.toNat).2
    rw [decodeFrom_cons, List.length_append, List.length_cons]
    omega

/-- A text has no more characters than its file has bytes. -/
theorem length_decode_le (bytes : List UInt8) : (decode bytes).length ≤ bytes.length := by
  simpa [decode] using length_decodeFrom_le none bytes
/-! ### An ASCII byte separates -/

/-- An ASCII byte ends whatever stands before it, and stands for itself. -/
theorem nextByte_ascii (state : Option Sequence) {b : ℕ} (ascii : b < 0x80) :
    nextByte state b = (decodeFrom state [] ++ [Char.ofNat b], none) := by
  have start : startByte b = ([Char.ofNat b], none) := if_pos ascii
  cases state with
  | none => exact start
  | some sequence =>
    have outside : ¬ (sequence.low ≤ b ∧ b ≤ sequence.high) := by
      have := sequence.continuation
      omega
    simp only [nextByte, if_neg outside, start]
    rfl

theorem decodeFrom_append_ascii {b : UInt8} (ascii : b.toNat < 0x80) (front : List UInt8)
    (rest : List UInt8) (state : Option Sequence) :
    decodeFrom state (front ++ b :: rest) =
      decodeFrom state front ++ Char.ofNat b.toNat :: decode rest := by
  induction front generalizing state with
  | nil =>
    rw [List.nil_append, decodeFrom_cons, nextByte_ascii state ascii, List.append_assoc]
    rfl
  | cons first front ih =>
    rw [List.cons_append, decodeFrom_cons, decodeFrom_cons, ih, List.append_assoc]

/-- An ASCII byte separates what stands before it from what follows. -/
theorem decode_append_ascii {b : UInt8} (ascii : b.toNat < 0x80) (front rest : List UInt8) :
    decode (front ++ b :: rest) = decode front ++ Char.ofNat b.toNat :: decode rest :=
  decodeFrom_append_ascii ascii front rest none

/-! ### The bytes of a character -/

theorem toNat_ofNat_byte {n : ℕ} (byte : n < 256) : (UInt8.ofNat n).toNat = n := by
  rw [UInt8.toNat_ofNat']
  exact Nat.mod_eq_of_lt byte

theorem utf8EncodeChar_ascii {c : Char} (ascii : c.toNat < 0x80) :
    String.utf8EncodeChar c = [UInt8.ofNat c.toNat] :=
  if_pos (show c.toNat ≤ 0x7f by omega)

/-- A character of the upper half of Latin-1 takes two bytes. -/
theorem utf8EncodeChar_latin1 {c : Char} (least : 0x80 ≤ c.toNat) (most : c.toNat < 0x100) :
    String.utf8EncodeChar c =
      [UInt8.ofNat (c.toNat / 64 + 0xc0), UInt8.ofNat (c.toNat % 64 + 0x80)] := by
  have notAscii : ¬ c.val.toNat ≤ 0x7f := by
    change ¬ c.toNat ≤ 0x7f
    omega
  have short : c.val.toNat ≤ 0x7ff := by
    change c.toNat ≤ 0x7ff
    omega
  have lead : c.val.toNat / 64 % 0x20 = c.toNat / 64 := by
    change c.toNat / 64 % 0x20 = _
    omega
  rw [String.utf8EncodeChar, if_neg notAscii, if_pos short, lead]
  rfl

/-- Beyond ASCII every character takes two bytes or more, none of them ASCII. -/
theorem utf8EncodeChar_high {c : Char} (high : 0x80 ≤ c.toNat) :
    2 ≤ (String.utf8EncodeChar c).length ∧
      ∀ b ∈ String.utf8EncodeChar c, 0x80 ≤ b.toNat := by
  have notAscii : ¬ c.val.toNat ≤ 0x7f := by
    change ¬ c.toNat ≤ 0x7f
    omega
  rw [String.utf8EncodeChar, if_neg notAscii]
  by_cases two : c.val.toNat ≤ 0x7ff
  · rw [if_pos two]
    refine ⟨le_rfl, ?_⟩
    simp only [List.mem_cons, List.not_mem_nil, or_false, UInt8.toNat_ofNat', forall_eq_or_imp,
      forall_eq]
    omega
  rw [if_neg two]
  by_cases three : c.val.toNat ≤ 0xffff
  · rw [if_pos three]
    refine ⟨by simp, ?_⟩
    simp only [List.mem_cons, List.not_mem_nil, or_false, UInt8.toNat_ofNat', forall_eq_or_imp,
      forall_eq]
    omega
  · rw [if_neg three]
    refine ⟨by simp, ?_⟩
    simp only [List.mem_cons, List.not_mem_nil, or_false, UInt8.toNat_ofNat', forall_eq_or_imp,
      forall_eq]
    omega

theorem length_utf8EncodeChar_pos (c : Char) : 1 ≤ (String.utf8EncodeChar c).length := by
  by_cases ascii : c.toNat < 0x80
  · rw [utf8EncodeChar_ascii ascii]
    exact le_rfl
  · have two := (utf8EncodeChar_high (c := c) (by omega)).1
    omega

theorem encode_cons (c : Char) (text : List Char) :
    encode (c :: text) = String.utf8EncodeChar c ++ encode text := rfl

theorem encode_append (first second : List Char) :
    encode (first ++ second) = encode first ++ encode second :=
  List.flatMap_append

theorem length_le_length_encode (text : List Char) : text.length ≤ (encode text).length := by
  induction text with
  | nil => exact le_rfl
  | cons c text ih =>
    have some := length_utf8EncodeChar_pos c
    rw [encode_cons, List.length_append, List.length_cons]
    omega

theorem length_encode_ascii {text : List Char} (ascii : ∀ c ∈ text, c.toNat < 0x80) :
    (encode text).length = text.length := by
  induction text with
  | nil => rfl
  | cons c text ih =>
    rw [List.forall_mem_cons] at ascii
    rw [encode_cons, List.length_append, utf8EncodeChar_ascii ascii.1, ih ascii.2]
    exact Nat.add_comm 1 text.length

/-- Only ASCII text takes one byte for each character. -/
theorem ascii_of_length_encode {text : List Char} (short : (encode text).length ≤ text.length) :
    ∀ c ∈ text, c.toNat < 0x80 := by
  induction text with
  | nil => simp
  | cons c text ih =>
    have rest := length_le_length_encode text
    rw [encode_cons, List.length_append, List.length_cons] at short
    have single := length_utf8EncodeChar_pos c
    have ascii : c.toNat < 0x80 := by
      by_contra high
      have two := (utf8EncodeChar_high (c := c) (by omega)).1
      omega
    simp only [List.mem_cons, forall_eq_or_imp]
    exact ⟨ascii, ih (by omega)⟩

/-! ### Decoding undoes encoding -/

theorem nextByte_last {sequence : Sequence} {b : ℕ} (last : sequence.lacking = 0)
    (within : sequence.low ≤ b ∧ b ≤ sequence.high) :
    nextByte (some sequence) b =
      ([Char.ofNat (sequence.value * 64 + (b - 0x80))], none) := by
  simp only [nextByte, if_pos within, last]

theorem nextByte_middle {sequence : Sequence} {b lacking : ℕ}
    (middle : sequence.lacking = lacking + 1)
    (within : sequence.low ≤ b ∧ b ≤ sequence.high) :
    nextByte (some sequence) b =
      ([], some (.open_ (sequence.value * 64 + (b - 0x80)) lacking)) := by
  simp only [nextByte, if_pos within, middle]

/-- The byte that opens a two-byte sequence. -/
theorem startByte_two {v : ℕ} (least : 0x80 ≤ v) (most : v < 0x800) :
    startByte (v / 64 + 0xc0) = ([], some (.open_ (v / 64) 0)) := by
  have notAscii : ¬ v / 64 + 0xc0 < 0x80 := by omega
  have notContinuation : ¬ v / 64 + 0xc0 < 0xc2 := by omega
  have short : v / 64 + 0xc0 < 0xe0 := by omega
  simp only [startByte, if_neg notAscii, if_neg notContinuation, if_pos short,
    Nat.add_sub_cancel]

/-- The byte that opens a three-byte sequence admits the byte that follows, unless the
value is a surrogate. -/
theorem startByte_three {v : ℕ} (least : 0x800 ≤ v) (most : v < 0x10000)
    (scalar : v < 0xd800 ∨ 0xdfff < v) :
    ∃ sequence : Sequence, startByte (v / 4096 + 0xe0) = ([], some sequence) ∧
      sequence.value = v / 4096 ∧ sequence.lacking = 1 ∧
      sequence.low ≤ v / 64 % 64 + 0x80 ∧ v / 64 % 64 + 0x80 ≤ sequence.high := by
  have notAscii : ¬ v / 4096 + 0xe0 < 0x80 := by omega
  have notContinuation : ¬ v / 4096 + 0xe0 < 0xc2 := by omega
  have notShort : ¬ v / 4096 + 0xe0 < 0xe0 := by omega
  simp only [startByte, if_neg notAscii, if_neg notContinuation, if_neg notShort]
  -- the first and the surrogates' lead byte narrow what may follow
  by_cases first : v / 4096 = 0
  · rw [first]
    exact ⟨_, rfl, rfl, rfl, by change 0xa0 ≤ _; omega, by change _ ≤ 0xbf; omega⟩
  by_cases surrogates : v / 4096 = 0xd
  · rw [surrogates]
    exact ⟨_, rfl, rfl, rfl, by change 0x80 ≤ _; omega, by change _ ≤ 0x9f; omega⟩
  · have notFirst : ¬ v / 4096 + 0xe0 = 0xe0 := by omega
    have notSurrogates : ¬ v / 4096 + 0xe0 = 0xed := by omega
    have short : v / 4096 + 0xe0 < 0xf0 := by omega
    simp only [if_neg notFirst, if_neg notSurrogates, if_pos short]
    exact ⟨_, rfl, Nat.add_sub_cancel .., rfl, by change 0x80 ≤ _; omega,
      by change _ ≤ 0xbf; omega⟩

/-- The byte that opens a four-byte sequence admits the byte that follows. -/
theorem startByte_four {v : ℕ} (least : 0x10000 ≤ v) (most : v < 0x110000) :
    ∃ sequence : Sequence, startByte (v / 262144 + 0xf0) = ([], some sequence) ∧
      sequence.value = v / 262144 ∧ sequence.lacking = 2 ∧
      sequence.low ≤ v / 4096 % 64 + 0x80 ∧ v / 4096 % 64 + 0x80 ≤ sequence.high := by
  have notAscii : ¬ v / 262144 + 0xf0 < 0x80 := by omega
  have notContinuation : ¬ v / 262144 + 0xf0 < 0xc2 := by omega
  have notTwo : ¬ v / 262144 + 0xf0 < 0xe0 := by omega
  have notFirstThree : ¬ v / 262144 + 0xf0 = 0xe0 := by omega
  have notSurrogates : ¬ v / 262144 + 0xf0 = 0xed := by omega
  have notThree : ¬ v / 262144 + 0xf0 < 0xf0 := by omega
  simp only [startByte, if_neg notAscii, if_neg notContinuation, if_neg notTwo,
    if_neg notFirstThree, if_neg notSurrogates, if_neg notThree]
  -- the first and the last lead byte narrow what may follow
  by_cases first : v / 262144 = 0
  · rw [first]
    exact ⟨_, rfl, rfl, rfl, by change 0x90 ≤ _; omega, by change _ ≤ 0xbf; omega⟩
  by_cases final : v / 262144 = 4
  · rw [final]
    exact ⟨_, rfl, rfl, rfl, by change 0x80 ≤ _; omega, by change _ ≤ 0x8f; omega⟩
  · have notFirst : ¬ v / 262144 + 0xf0 = 0xf0 := by omega
    have between : v / 262144 + 0xf0 < 0xf4 := by omega
    simp only [if_neg notFirst, if_pos between]
    exact ⟨_, rfl, Nat.add_sub_cancel .., rfl, by change 0x80 ≤ _; omega,
      by change _ ≤ 0xbf; omega⟩

theorem open_within (value lacking v : ℕ) :
    (Sequence.open_ value lacking).low ≤ v % 64 + 0x80 ∧
      v % 64 + 0x80 ≤ (Sequence.open_ value lacking).high := by
  change 0x80 ≤ _ ∧ _ ≤ 0xbf
  omega

/-- The bytes of a character decode to it, whatever follows. -/
theorem decodeFrom_utf8EncodeChar (c : Char) (rest : List UInt8) :
    decodeFrom none (String.utf8EncodeChar c ++ rest) = c :: decodeFrom none rest := by
  have scalar : c.toNat < 0xd800 ∨ 0xdfff < c.toNat ∧ c.toNat < 0x110000 := c.valid
  have back : Char.ofNat c.toNat = c := Char.ofNat_toNat c
  generalize value : c.toNat = v at scalar back
  simp only [String.utf8EncodeChar]
  rw [show c.val.toNat = v from value]
  by_cases one : v ≤ 0x7f
  · rw [if_pos one, List.singleton_append, decodeFrom_cons, toNat_ofNat_byte (by omega),
      nextByte_ascii none (by omega), back]
    rfl
  rw [if_neg one]
  by_cases two : v ≤ 0x7ff
  · -- two bytes: the bits of the lead byte, then six more
    have lead : v / 64 % 0x20 = v / 64 := by omega
    have total : v / 64 * 64 + v % 64 = v := by omega
    rw [if_pos two, lead]
    simp only [List.cons_append, List.nil_append, decodeFrom_cons]
    rw [toNat_ofNat_byte (by omega), toNat_ofNat_byte (by omega), nextByte,
      startByte_two (by omega) (by omega), nextByte_last rfl (open_within ..)]
    simp only [Sequence.open_, Nat.add_sub_cancel, total, back]
    rfl
  rw [if_neg two]
  by_cases three : v ≤ 0xffff
  · -- three bytes, of which the second has bounds of its own
    have lead : v / 4096 % 0x10 = v / 4096 := by omega
    have total : (v / 4096 * 64 + v / 64 % 64) * 64 + v % 64 = v := by omega
    obtain ⟨sequence, opened, kept, lacks, within⟩ :=
      startByte_three (v := v) (by omega) (by omega) (by omega)
    rw [if_pos three, lead]
    simp only [List.cons_append, List.nil_append, decodeFrom_cons]
    rw [toNat_ofNat_byte (by omega), toNat_ofNat_byte (by omega), toNat_ofNat_byte (by omega),
      nextByte, opened, nextByte_middle lacks within, nextByte_last rfl (open_within ..)]
    simp only [Sequence.open_, Nat.add_sub_cancel, kept, total, back]
    rfl
  · have lead : v / 262144 % 0x08 = v / 262144 := by omega
    have total :
        ((v / 262144 * 64 + v / 4096 % 64) * 64 + v / 64 % 64) * 64 + v % 64 = v := by omega
    -- four bytes, with such bounds too
    obtain ⟨sequence, opened, kept, lacks, within⟩ :=
      startByte_four (v := v) (by omega) (by omega)
    rw [if_neg three, lead]
    simp only [List.cons_append, List.nil_append, decodeFrom_cons]
    rw [toNat_ofNat_byte (by omega), toNat_ofNat_byte (by omega), toNat_ofNat_byte (by omega),
      toNat_ofNat_byte (by omega), nextByte, opened, nextByte_middle lacks within,
      nextByte_middle rfl (open_within ..), nextByte_last rfl (open_within ..)]
    simp only [Sequence.open_, Nat.add_sub_cancel, kept, total, back]
    rfl

/-- Encoded text decodes to itself, whatever bytes follow. -/
theorem decode_encode_append (text : List Char) (rest : List UInt8) :
    decode (encode text ++ rest) = text ++ decode rest := by
  induction text with
  | nil => rfl
  | cons c text ih =>
    rw [encode_cons, List.append_assoc, decode, decodeFrom_utf8EncodeChar]
    exact congrArg (c :: ·) ih

/-- Decoding undoes encoding. -/
theorem decode_encode (text : List Char) : decode (encode text) = text := by
  have whole := decode_encode_append text []
  rw [List.append_nil] at whole
  exact whole.trans (List.append_nil text)

end Text
