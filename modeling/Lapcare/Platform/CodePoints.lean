import Lapcare.Text.Utf8

/-!
# Python strings that UTF-8 cannot encode

A Python string may hold a lone surrogate, as `os.fsdecode` makes one of each byte of a file
name that is not UTF-8. Where the text leaves the program, encoding it raises.

## Main results

* `encodeStrict_text` — text without surrogates is encoded as usual
-/

namespace Lapcare.Platform

open Text

/-- A character of a Python string. -/
abbrev CodePoint := Fin 0x110000

/-- The character of a code point, if it can be encoded. -/
def CodePoint.char? (point : CodePoint) : Option Char :=
  if valid : point.val.isValidChar then some (Char.ofNatAux point.val valid) else none

/-- `content.encode("utf-8")`, which a surrogate makes fail. -/
def encodeStrict (content : List CodePoint) : Option (List UInt8) :=
  (content.mapM CodePoint.char?).map encode

theorem charPoint_lt (c : Char) : c.toNat < 0x110000 := by
  have valid : c.toNat.isValidChar := c.valid
  unfold Nat.isValidChar at valid
  omega

/-- A character as a code point. -/
def CodePoint.ofChar (c : Char) : CodePoint :=
  ⟨c.toNat, charPoint_lt c⟩

theorem CodePoint.char?_ofChar (c : Char) : (CodePoint.ofChar c).char? = some c := by
  have valid : (CodePoint.ofChar c).val.isValidChar := c.valid
  rw [char?, dif_pos valid]
  rfl

theorem mapM_char?_text (text : List Char) :
    (text.map CodePoint.ofChar).mapM CodePoint.char? = some text := by
  induction text with
  | nil => rfl
  | cons c text ih =>
    rw [List.map_cons, List.mapM_cons, CodePoint.char?_ofChar, ih]
    rfl

/-- Text without surrogates is encoded as usual. -/
theorem encodeStrict_text (text : List Char) :
    encodeStrict (text.map CodePoint.ofChar) = some (encode text) := by
  rw [encodeStrict, mapM_char?_text, Option.map_some]

end Lapcare.Platform
