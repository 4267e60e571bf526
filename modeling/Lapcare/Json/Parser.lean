import Lapcare.Json.Printer

/-!
# How a JSON document is parsed

`json.loads`, short of floats: a number with a fraction or an exponent is refused. A pair
of escaped surrogates is one character, a lone one the replacement character.
-/

namespace Json

open Text

def isBlank (c : Char) : Bool :=
  c = ' ' || c = '\t' || c = '\n' || c = '\r'

def skipBlank (text : List Char) : List Char :=
  text.dropWhile isBlank

/-- What is parsed from the front of a text, and what is left of it. -/
abbrev Parser (α : Type) := List Char → Option (α × List Char)

/-! ### Strings -/

def hexValue (c : Char) : Option ℕ :=
  if 0x30 ≤ c.toNat ∧ c.toNat ≤ 0x39 then some (c.toNat - 0x30)
  else if 0x61 ≤ c.toNat ∧ c.toNat ≤ 0x66 then some (c.toNat - 0x57)
  else if 0x41 ≤ c.toNat ∧ c.toNat ≤ 0x46 then some (c.toNat - 0x37)
  else none

def hexUnit (a b c d : Char) : Option ℕ :=
  match hexValue a, hexValue b, hexValue c, hexValue d with
  | some first, some second, some third, some fourth =>
      some (((first * 16 + second) * 16 + third) * 16 + fourth)
  | _, _, _, _ => none

def unescapeChar : Char → Option ℕ
  | '"' => some 0x22
  | '\\' => some 0x5c
  | '/' => some 0x2f
  | 'b' => some 0x08
  | 'f' => some 0x0c
  | 'n' => some 0x0a
  | 'r' => some 0x0d
  | 't' => some 0x09
  | _ => none

/-- A string up to its closing quote, as code units. Control characters have to be
escaped. -/
def parseUnits : Parser (List ℕ)
  | [] => none
  -- a backslash with nothing behind it
  | ['\\'] => none
  | '"' :: rest => some ([], rest)
  | '\\' :: 'u' :: a :: b :: c :: d :: rest =>
      match hexUnit a b c d, parseUnits rest with
      | some unit, some (units, rest) => some (unit :: units, rest)
      | _, _ => none
  -- a code point with too few digits comes here too, and `u` alone escapes nothing
  | '\\' :: c :: rest =>
      match unescapeChar c, parseUnits rest with
      | some unit, some (units, rest) => some (unit :: units, rest)
      | _, _ => none
  | c :: rest =>
      if c.toNat < 0x20 then none
      else (parseUnits rest).map fun parsed => (c.toNat :: parsed.1, parsed.2)

def isHigh (unit : ℕ) : Bool := 0xd800 ≤ unit && unit ≤ 0xdbff

def isLow (unit : ℕ) : Bool := 0xdc00 ≤ unit && unit ≤ 0xdfff

/-- The text of code units. -/
def joinUnits : List ℕ → List Char
  | [] => []
  | [unit] => [pointChar unit]
  | high :: low :: units =>
      if isHigh high && isLow low then
        Char.ofNat (0x10000 + (high - 0xd800) * 0x400 + (low - 0xdc00)) :: joinUnits units
      -- a surrogate without its partner stands for itself
      else pointChar high :: joinUnits (low :: units)

/-- A string behind its opening quote. -/
def parseString : Parser String := fun text =>
  (parseUnits text).map fun parsed => (String.ofList (joinUnits parsed.1), parsed.2)

/-! ### Values -/

def startsNumber : List Char → Bool
  | c :: _ => c = '-' || c.isDigit
  | [] => false

/-- Digits without a superfluous zero. -/
def parseDigits : Parser ℕ := fun text =>
  let digits := text.takeWhile (·.isDigit)
  if digits = [] ∨ digits.head? = some '0' ∧ 1 < digits.length then none
  else some (Nat.ofDigitChars 10 digits 0, text.dropWhile (·.isDigit))

def parseInt : Parser Int
  | '-' :: text => (parseDigits text).map fun parsed => (-(parsed.1 : Int), parsed.2)
  | text => (parseDigits text).map fun parsed => ((parsed.1 : Int), parsed.2)

/-- The items after the first, up to the closing bracket. -/
def parseItems (parse : Parser Value) : ℕ → Parser (List Value)
  | 0, _ => none
  | fuel + 1, text =>
      match skipBlank text with
      | ']' :: rest => some ([], rest)
      | ',' :: rest => do
          let (item, rest) ← parse rest
          let (items, rest) ← parseItems parse fuel rest
          return (item :: items, rest)
      | _ => none

def parseMember (parse : Parser Value) : Parser (String × Value) := fun text =>
  match skipBlank text with
  | '"' :: rest => do
      let (key, rest) ← parseString rest
      match skipBlank rest with
      | ':' :: rest => do
          let (value, rest) ← parse rest
          return ((key, value), rest)
      | _ => none
  | _ => none

/-- The members after the first, up to the closing brace. -/
def parseMembers (parse : Parser Value) : ℕ → Parser (List (String × Value))
  | 0, _ => none
  | fuel + 1, text =>
      match skipBlank text with
      | '\x7d' :: rest => some ([], rest)
      | ',' :: rest => do
          let (member, rest) ← parseMember parse rest
          let (members, rest) ← parseMembers parse fuel rest
          return (member :: members, rest)
      | _ => none

/-- An array behind its opening bracket. -/
def parseArray (parse : Parser Value) (fuel : ℕ) : Parser Value := fun text =>
  match skipBlank text with
  | ']' :: rest => some (.arr [], rest)
  | rest => do
      let (item, rest) ← parse rest
      let (items, rest) ← parseItems parse fuel rest
      return (.arr (item :: items), rest)

/-- An object behind its opening brace. A key that comes twice keeps its last value. -/
def parseObject (parse : Parser Value) (fuel : ℕ) : Parser Value := fun text =>
  match skipBlank text with
  | '\x7d' :: rest => some (.obj [], rest)
  | rest => do
      let (member, rest) ← parseMember parse rest
      let (members, rest) ← parseMembers parse fuel rest
      return (.obj (dict (member :: members)), rest)

/-- A value. The fuel bounds how deep it nests and how long its brackets are. -/
def parseValue : ℕ → Parser Value
  | 0, _ => none
  | fuel + 1, text =>
      let text := skipBlank text
      -- blanks were skipped, so the first character tells the kind of value
      if startsNumber text then (parseInt text).map fun parsed => (.int parsed.1, parsed.2)
      else
        match text with
        | '"' :: rest => (parseString rest).map fun parsed => (.str parsed.1, parsed.2)
        | '[' :: rest => parseArray (parseValue fuel) fuel rest
        | '\x7b' :: rest => parseObject (parseValue fuel) fuel rest
        | 'n' :: 'u' :: 'l' :: 'l' :: rest => some (.null, rest)
        | 't' :: 'r' :: 'u' :: 'e' :: rest => some (.bool true, rest)
        | 'f' :: 'a' :: 'l' :: 's' :: 'e' :: rest => some (.bool false, rest)
        | _ => none

/-- `json.loads`. -/
def loads (text : List Char) : Option Value :=
  match parseValue (text.length + 1) text with
  | some (value, rest) => if skipBlank rest = [] then some value else none
  | none => none

end Json
