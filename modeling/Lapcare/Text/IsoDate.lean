import Mathlib.Data.Prod.Lex
import Mathlib.Data.String.Basic
import Mathlib.Order.Lattice

/-!
# Dates and their ISO text

A `datetime.date`, ordered by the calendar, and `YYYY-MM-DD`. The fields of the text have
fixed widths and the most significant one comes first, so the order of the texts is the
order of the dates.
-/

namespace Text

/-- The Gregorian rule. -/
def isLeap (year : ℕ) : Bool :=
  year % 4 = 0 && (year % 100 ≠ 0 || year % 400 = 0)

def daysInMonth (year month : ℕ) : ℕ :=
  if month = 2 then (if isLeap year then 29 else 28)
  else if month ∈ [4, 6, 9, 11] then 30
  else 31

theorem daysInMonth_le (year month : ℕ) : daysInMonth year month ≤ 31 := by
  unfold daysInMonth
  split_ifs <;> omega

/-- `datetime.date`, with its bounds. -/
@[ext] structure Date where
  year : ℕ
  month : ℕ
  day : ℕ
  year_mem : 1 ≤ year ∧ year ≤ 9999
  month_mem : 1 ≤ month ∧ month ≤ 12
  day_mem : 1 ≤ day ∧ day ≤ daysInMonth year month

namespace Date

/-- What two dates are compared by. -/
def fields (date : Date) : ℕ ×ₗ (ℕ ×ₗ ℕ) :=
  toLex (date.year, toLex (date.month, date.day))

theorem fields_injective : Function.Injective fields := by
  intro date date' same
  have fields := Prod.ext_iff.1 (toLex.injective same)
  have rest := Prod.ext_iff.1 (toLex.injective fields.2)
  exact Date.ext fields.1 rest.1 rest.2

instance : LinearOrder Date := LinearOrder.lift' fields fields_injective

theorem lt_iff {date date' : Date} :
    date < date' ↔ date.year < date'.year ∨ date.year = date'.year ∧
      (date.month < date'.month ∨ date.month = date'.month ∧ date.day < date'.day) := by
  change fields date < fields date' ↔ _
  simp only [fields, Prod.Lex.toLex_lt_toLex]

/-- `%02d`, of a number that fits. -/
def twoDigits (n : ℕ) : List Char := [(n / 10).digitChar, (n % 10).digitChar]

/-- `%04d`, of a number that fits. -/
def fourDigits (n : ℕ) : List Char := twoDigits (n / 100) ++ twoDigits (n % 100)

/-- `date.isoformat()`. -/
def isoformat (date : Date) : String :=
  String.ofList (fourDigits date.year ++
    ('-' :: twoDigits date.month ++ ('-' :: twoDigits date.day)))

/-! ### The order of the texts -/

theorem digitChar_lt_iff {m n : ℕ} (small : m < 10) (small' : n < 10) :
    m.digitChar < n.digitChar ↔ m < n := by
  have table : ∀ m n : Fin 10, m.val.digitChar < n.val.digitChar ↔ m.val < n.val := by decide
  exact table ⟨m, small⟩ ⟨n, small'⟩

theorem digitChar_inj {m n : ℕ} (small : m < 10) (small' : n < 10) :
    m.digitChar = n.digitChar ↔ m = n := by
  have table : ∀ m n : Fin 10, m.val.digitChar = n.val.digitChar ↔ m.val = n.val := by decide
  exact table ⟨m, small⟩ ⟨n, small'⟩

/-- Fields of the same width: the first one that differs decides. -/
theorem append_lt_append_iff {α : Type} [LinearOrder α] {a b r s : List α}
    (width : a.length = b.length) : a ++ r < b ++ s ↔ a < b ∨ a = b ∧ r < s := by
  induction a generalizing b with
  | nil =>
    obtain rfl : b = [] := List.length_eq_zero_iff.1 width.symm
    simp
  | cons x a ih =>
    cases b with
    | nil => cases width
    | cons y b =>
      simp only [List.cons_append, List.cons_lt_cons_iff, ih (Nat.succ.inj width),
        List.cons.injEq]
      tauto

theorem length_twoDigits (m n : ℕ) : (twoDigits m).length = (twoDigits n).length := rfl

theorem length_fourDigits (m n : ℕ) : (fourDigits m).length = (fourDigits n).length := rfl

theorem twoDigits_inj {m n : ℕ} (small : m < 100) (small' : n < 100) :
    twoDigits m = twoDigits n ↔ m = n := by
  simp only [twoDigits, List.cons.injEq, and_true]
  rw [digitChar_inj (by omega) (by omega), digitChar_inj (by omega) (by omega)]
  omega

theorem twoDigits_lt_iff {m n : ℕ} (small : m < 100) (small' : n < 100) :
    twoDigits m < twoDigits n ↔ m < n := by
  simp only [twoDigits, List.cons_lt_cons_iff, List.not_lt_nil, and_false, or_false]
  rw [digitChar_lt_iff (by omega) (by omega), digitChar_lt_iff (by omega) (by omega),
    digitChar_inj (by omega) (by omega)]
  omega

theorem fourDigits_inj {m n : ℕ} (small : m < 10000) (small' : n < 10000) :
    fourDigits m = fourDigits n ↔ m = n := by
  constructor
  · intro same
    have halves := List.append_inj same (length_twoDigits _ _)
    have high := (twoDigits_inj (by omega) (by omega)).1 halves.1
    have low := (twoDigits_inj (by omega) (by omega)).1 halves.2
    omega
  · rintro rfl
    rfl

theorem fourDigits_lt_iff {m n : ℕ} (small : m < 10000) (small' : n < 10000) :
    fourDigits m < fourDigits n ↔ m < n := by
  rw [fourDigits, fourDigits, append_lt_append_iff (length_twoDigits _ _),
    twoDigits_lt_iff (by omega) (by omega), twoDigits_lt_iff (by omega) (by omega),
    twoDigits_inj (by omega) (by omega)]
  omega

/-- The texts of dates ascend with the dates. -/
theorem isoformat_lt_iff {date date' : Date} :
    date.isoformat < date'.isoformat ↔ date < date' := by
  have year := date.year_mem
  have year' := date'.year_mem
  have month := date.month_mem
  have month' := date'.month_mem
  have day := date.day_mem.2.trans (daysInMonth_le _ _)
  have day' := date'.day_mem.2.trans (daysInMonth_le _ _)
  rw [lt_iff, String.lt_iff_toList_lt, isoformat, isoformat, String.toList_ofList,
    String.toList_ofList, append_lt_append_iff (length_fourDigits _ _),
    fourDigits_lt_iff (by omega) (by omega), fourDigits_inj (by omega) (by omega)]
  simp only [List.cons_append, List.cons_lt_cons_iff, lt_irrefl, true_and, false_or]
  rw [append_lt_append_iff (length_twoDigits _ _), twoDigits_lt_iff (by omega) (by omega),
    twoDigits_inj (by omega) (by omega)]
  simp only [List.cons_lt_cons_iff, lt_irrefl, true_and, false_or]
  rw [twoDigits_lt_iff (by omega) (by omega)]

theorem isoformat_injective : Function.Injective isoformat := by
  intro date date' same
  apply le_antisymm
  · exact not_lt.1 fun less => (isoformat_lt_iff.2 less).ne same.symm
  · exact not_lt.1 fun less => (isoformat_lt_iff.2 less).ne same

end Date

end Text
