import MapSidebar.Route.Standard

/-!
# Captured numbers

A captured text of digits is a number, whichever zeros it begins with, unless it needs more than 64
bits. In a path it is written without them, and what is no number leaves its place empty.
-/
namespace MapSidebar

/-- The number that a text of digits writes, unless it needs more than 64 bits. -/
def number64? (text : String) : Option Nat :=
  if Nat.ofDigitChars 10 text.toList 0 < UInt64.size then
    some (Nat.ofDigitChars 10 text.toList 0)
  else none

def numberWord : Option Nat → String
  | some n => toString n
  | none => ""

def wordNumber? (word : String) : Option Nat :=
  if word = "" then none else some (Nat.ofDigitChars 10 word.toList 0)

/-! ## Reading -/

theorem le_ofDigitChars (value : Nat) (digits : List Char) :
    value ≤ Nat.ofDigitChars 10 digits value := by
  induction digits generalizing value with
  | nil => simp
  | cons c digits ih =>
    have rest := ih (10 * value + (c.toNat - '0'.toNat))
    rw [Nat.ofDigitChars_cons]
    omega

/-- Digits are read as their number, and the reading stops when that leaves the range. -/
theorem Unsigned.readDigits_eq {limit value : Nat} {digits : List Char}
    (all_digits : ∀ c ∈ digits, c.isDigit = true) (within : value ≤ limit) :
    readDigits limit value digits =
      if Nat.ofDigitChars 10 digits value ≤ limit then .ok (Nat.ofDigitChars 10 digits value)
      else .error .overflow := by
  induction digits generalizing value with
  | nil => simp [readDigits, within]
  | cons c digits ih =>
    have own := all_digits c (by simp)
    have rest := fun d member => all_digits d (List.mem_cons_of_mem c member)
    have value_eq : value * 10 + (c.toNat - '0'.toNat) = 10 * value + (c.toNat - '0'.toNat) := by
      omega
    simp only [readDigits, digit?, own, if_true, Nat.ofDigitChars_cons, value_eq]
    split
    next still => rw [ih rest still]
    next beyond =>
      have more := le_ofDigitChars (10 * value + (c.toNat - '0'.toNat)) digits
      rw [if_neg (by omega)]

/-- A text of digits is read as its number if 64 bits can hold it. -/
theorem readUInt64_digits {text : String} (filled : text ≠ "")
    (all_digits : ∀ c ∈ text.toList, c.isDigit = true) :
    readUInt64 text = match number64? text with
      | some n => .ok (UInt64.ofNat n)
      | none => .error .overflow := by
  have read : Unsigned.read (UInt64.size - 1) text.toList =
      Unsigned.readDigits (UInt64.size - 1) 0 text.toList := by
    unfold Unsigned.read
    split
    next empty => exact absurd (String.toList_eq_nil_iff.mp empty) filled
    next sign => exact absurd (all_digits '+' (by simp [sign])) (by decide)
    next digits sign => exact absurd (all_digits '+' (by simp [sign])) (by decide)
    next => rfl
  rw [readUInt64, read, Unsigned.readDigits_eq all_digits (Nat.zero_le _), number64?]
  have same : Nat.ofDigitChars 10 text.toList 0 ≤ UInt64.size - 1 ↔
      Nat.ofDigitChars 10 text.toList 0 < UInt64.size := by
    simp only [UInt64.size]
    omega
  by_cases small : Nat.ofDigitChars 10 text.toList 0 < UInt64.size
  · rw [if_pos (same.mpr small), if_pos small]
    rfl
  · rw [if_neg fun within => small (same.mp within), if_neg small]
    rfl

/-- A number that 64 bits can hold is written as it is. -/
theorem canonicalText_of_number64? {text : String} {n : Nat} (read : number64? text = some n) :
    canonicalText (UInt64.ofNat n) = toString n := by
  have small : n < UInt64.size := by
    unfold number64? at read
    split at read
    · cases read
      assumption
    · cases read
  have whole : (UInt64.ofNat n).toNat = n := UInt64.toNat_ofNat_of_lt' small
  rw [canonicalText, whole]

/-- In the path of an endpoint a captured text of digits stands as its number. -/
theorem StandardRoute.numberText_eq {visit : Visit} {name raw : String}
    (captured : visit.group? name = some raw) (filled : raw ≠ "")
    (all_digits : ∀ c ∈ raw.toList, c.isDigit = true) :
    numberText visit name = numberWord (number64? raw) := by
  simp only [numberText, captured, readUInt64_digits filled all_digits]
  cases read : number64? raw with
  | none => rfl
  | some n => exact canonicalText_of_number64? read

/-! ## Writing -/

/-- The number that is written is found again. -/
theorem wordNumber?_numberWord (n : Option Nat) : wordNumber? (numberWord n) = n := by
  cases n with
  | none => rfl
  | some n =>
    rw [numberWord, wordNumber?, Nat.toString_eq_repr, if_neg Nat.repr_ne_empty, Nat.toList_repr,
      Nat.ofDigitChars_ten_toDigits]

/-- A number is written with digits only. -/
theorem isDigit_of_mem_numberWord {n : Option Nat} {c : Char}
    (member : c ∈ (numberWord n).toList) : c.isDigit = true := by
  cases n with
  | none => simp [numberWord] at member
  | some n =>
    rw [numberWord, Nat.toString_eq_repr, Nat.toList_repr] at member
    exact Nat.isDigit_of_mem_toDigits (by decide) (by decide) member

end MapSidebar
