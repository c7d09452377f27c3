import MapSidebar.Proofs.CapturedNumbers
import MapSidebar.Proofs.Trimming
import MapSidebar.Settings.Basic
import MapSidebar.Toml.Basic

/-!
# Numbers in settings

The text of a setting writes a number if it is decimal digits, perhaps with a plus sign in front, and
blanks around them. Exactly such texts are read, and as the numbers that they write. An integer of the
settings file writes itself.
-/
namespace MapSidebar

namespace Unsigned

variable {limit value n : Nat} {text : List Char}

theorem readDigits_eq_ok (within : value ≤ limit) : readDigits limit value text = .ok n ↔
    (∀ c ∈ text, c.isDigit = true) ∧ Nat.ofDigitChars 10 text value = n ∧ n ≤ limit := by
  by_cases all_digits : ∀ c ∈ text, c.isDigit = true
  · rw [readDigits_eq all_digits within, and_iff_right all_digits]
    grind
  · refine iff_of_false (fun read => all_digits ?_) fun written => all_digits written.1
    clear all_digits
    induction text generalizing value with
    | nil => simp
    | cons c text ih =>
      unfold readDigits digit? at read
      grind

/-- Digits with a plus sign in front, or with none. -/
def Signed (text digits : List Char) : Prop := text = digits ∨ text = '+' :: digits

theorem read_eq_ok : read limit text = .ok n ↔ ∃ digits, Signed text digits ∧ digits ≠ [] ∧
    (∀ c ∈ digits, c.isDigit = true) ∧ Nat.ofDigitChars 10 digits 0 = n ∧ n ≤ limit := by
  have plus : ¬ '+'.isDigit = true := by decide
  unfold read
  split
  next => simp [Signed]
  next => simp [Signed, plus]
  next digits filled =>
    rw [readDigits_eq_ok (Nat.zero_le _)]
    constructor
    · exact fun written => ⟨digits, .inr rfl, by simpa using filled, written⟩
    · rintro ⟨other, rfl | same, -, written⟩
      · exact absurd (written.1 '+' List.mem_cons_self) plus
      · exact (List.cons_inj_right _).mp same ▸ written
  next filled _ unsigned =>
    rw [readDigits_eq_ok (Nat.zero_le _)]
    constructor
    · exact fun written => ⟨text, .inl rfl, by simpa using filled, written⟩
    · rintro ⟨digits, rfl | rfl, -, written⟩
      · exact written
      · exact absurd rfl (unsigned digits)

end Unsigned

namespace Settings

variable {text : String} {n : UInt32}

/-- A text writes a number of 32 bits. -/
def Writes (text : String) (n : UInt32) : Prop :=
  ∃ left word right digits, text.toList = left ++ word ++ right ∧
    (∀ c ∈ left ++ right, Text.isBlank c = true) ∧ Unsigned.Signed word digits ∧ digits ≠ [] ∧
    (∀ c ∈ digits, c.isDigit = true) ∧ Nat.ofDigitChars 10 digits 0 = n.toNat

theorem isBlank_of_isDigit {c : Char} (digit : c.isDigit = true) : Text.isBlank c = false := by
  have bounds : 48 ≤ c.toNat ∧ c.toNat ≤ 57 := by
    simpa [Char.isDigit, UInt32.le_iff_toNat_le] using digit
  simp [Text.isBlank]
  omega

theorem isBlank_of_mem_signed {word digits : List Char} (signed : Unsigned.Signed word digits)
    (all_digits : ∀ c ∈ digits, c.isDigit = true) {c : Char} (member : c ∈ word) :
    Text.isBlank c = false := by
  rcases signed with rfl | rfl
  · exact isBlank_of_isDigit (all_digits c member)
  · rcases List.mem_cons.mp member with rfl | inside
    · decide
    · exact isBlank_of_isDigit (all_digits c inside)

theorem readUInt32_eq_ok : readUInt32 text = .ok n ↔ ∃ digits, Unsigned.Signed text.toList digits ∧
    digits ≠ [] ∧ (∀ c ∈ digits, c.isDigit = true) ∧ Nat.ofDigitChars 10 digits 0 = n.toNat := by
  have read_iff : readUInt32 text = .ok n ↔
      Unsigned.read (UInt32.size - 1) text.toList = .ok n.toNat := by
    have small := n.toNat_lt_size
    unfold readUInt32
    cases read : Unsigned.read (UInt32.size - 1) text.toList with
    | error e => simp [Except.map]
    | ok m =>
      obtain ⟨-, -, -, -, -, below⟩ := Unsigned.read_eq_ok.mp read
      have whole : (UInt32.ofNat m).toNat = m := UInt32.toNat_ofNat_of_lt' (by omega)
      simp only [Except.map, Except.ok.injEq, ← UInt32.toNat_inj, whole]
  rw [read_iff, Unsigned.read_eq_ok]
  have bound : n.toNat ≤ UInt32.size - 1 := Nat.le_sub_one_of_lt n.toNat_lt_size
  simp only [bound, and_true]

theorem readNumber?_eq_some : readNumber? text = some n ↔ Writes text n := by
  have read_iff : readNumber? text = some n ↔
      readUInt32 (String.ofList (Text.trim text.toList)) = .ok n := by
    unfold readNumber?
    cases readUInt32 (String.ofList (Text.trim text.toList)) <;> simp [Except.toOption]
  rw [read_iff, readUInt32_eq_ok, String.toList_ofList]
  constructor
  · rintro ⟨digits, written⟩
    obtain ⟨left, right, whole, blanks, -⟩ := Text.trim_eq_iff.mp (Eq.refl (Text.trim text.toList))
    exact ⟨left, _, right, digits, whole, blanks, written⟩
  · rintro ⟨left, word, right, digits, whole, blanks, signed, filled, all_digits, value⟩
    have stripped : Text.Stripped Text.isBlank word :=
      ⟨fun c begins => isBlank_of_mem_signed signed all_digits (List.mem_of_head? begins),
        fun c ends => isBlank_of_mem_signed signed all_digits (List.mem_of_getLast? ends)⟩
    rw [Text.trim_eq_iff.mpr ⟨left, right, whole, blanks, stripped⟩]
    exact ⟨digits, signed, filled, all_digits, value⟩

theorem readPositive?_eq_some : readPositive? text = some n ↔ Writes text n ∧ 0 < n := by
  rw [readPositive?, Option.filter_eq_some_iff, readNumber?_eq_some, decide_eq_true_iff]

/-- A text of digits writes their number and no other. -/
theorem writes_digits_iff (filled : text.toList ≠ [])
    (all_digits : ∀ c ∈ text.toList, c.isDigit = true) :
    Writes text n ↔ Nat.ofDigitChars 10 text.toList 0 = n.toNat := by
  constructor
  · rintro ⟨left, word, right, digits, whole, blanks, signed, -, -, value⟩
    rw [whole] at all_digits ⊢
    have no_blank : ∀ c ∈ left ++ right, False := fun c member => by
      have digit := isBlank_of_isDigit (all_digits c (by grind))
      simp [blanks c member] at digit
    have none_around : left ++ right = [] := List.eq_nil_iff_forall_not_mem.mpr no_blank
    obtain ⟨rfl, rfl⟩ := List.append_eq_nil_iff.mp none_around
    rcases signed with rfl | rfl
    · simpa using value
    · exact absurd (all_digits '+' (by simp)) (by decide)
  · exact fun value => ⟨[], text.toList, [], text.toList, by simp, by simp, .inl rfl, filled,
      all_digits, value⟩

/-- An integer writes itself. -/
theorem writes_integer {value : Int} :
    Writes (Toml.plainText (.integer value)) n ↔ value = n.toNat := by
  have text_eq : (Toml.plainText (.integer value)).toList = (toString value).toList := by
    simp [Toml.plainText, Toml.arranged, Toml.print]
  cases value with
  | ofNat k =>
    have shown : (Toml.plainText (.integer (Int.ofNat k))).toList = Nat.toDigits 10 k := by
      rw [text_eq]
      exact Nat.toList_repr
    rw [writes_digits_iff (by rw [shown]; exact Nat.toDigits_ne_nil)
      (by rw [shown]; exact fun c member => Nat.isDigit_of_mem_toDigits (by decide) (by decide) member),
      shown, Nat.ofDigitChars_ten_toDigits, Int.ofNat_eq_natCast, Int.ofNat_inj]
  | negSucc k =>
    refine iff_of_false ?_ (by omega)
    rintro ⟨left, word, right, digits, whole, blanks, signed, -, all_digits, -⟩
    have minus : '-' ∈ left ++ word ++ right := by
      rw [← whole, text_eq]
      simp [Int.repr_eq_if]
    have outside : '-' ∉ left ++ right := fun member => absurd (blanks '-' member) (by decide)
    have inside : '-' ∉ digits := fun member => absurd (all_digits '-' member) (by decide)
    rcases signed with rfl | rfl <;> grind

end Settings

end MapSidebar
