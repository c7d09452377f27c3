import MapSidebar.Json.Reader
import MapSidebar.Proofs.CapturedNumbers
import MapSidebar.Proofs.Characters

/-!
# Strings and numbers read back

What is written for a string is read as that string, whichever characters it holds, and what is
written for an integer is read as that integer, as far as the format goes. In a text such a word is
followed by a comma, by a closing bracket or by nothing, and the reader stops there.
-/
namespace MapSidebar.Json

/-- What may follow a value inside a text: a comma, a closing bracket or nothing. -/
def Ends : List UInt8 → Prop
  | [] => True
  | b :: _ => b = 0x2C ∨ b = 0x5D ∨ b = 0x7D

/-! ## Strings -/

/-- A run of bytes that stand for themselves is passed over at once. -/
theorem readBytes_run {run : List UInt8} (plain : ∀ b ∈ run, endsRun b = false) (fuel : Nat)
    (input : List UInt8) : readBytes (fuel + 1) (run ++ input) =
      (readBytes (fuel + 1) input).map fun (others, rest) => (run ++ others, rest) := by
  have pass : ∀ b ∈ run, (!endsRun b) = true := fun b member => by rw [plain b member]; rfl
  simp only [readBytes, List.takeWhile_append_of_pos pass, List.dropWhile_append_of_pos pass]
  cases input.dropWhile fun b => !endsRun b with
  | nil => rfl
  | cons b rest =>
    dsimp only
    split
    · rfl
    split
    · cases readEscape rest with
      | error stop => rfl
      | ok read =>
        obtain ⟨bytes, after⟩ := read
        dsimp only
        cases readBytes fuel after with
        | error stop => rfl
        | ok found => simp only [Except.map, List.append_assoc]
    · rfl

/-- What follows a backslash is read as the bytes that it stands for. -/
theorem readBytes_escape {input after bytes : List UInt8} (read : readEscape input = .ok (bytes, after))
    (fuel : Nat) : readBytes (fuel + 1) (0x5C :: input) =
      (readBytes fuel after).map fun (others, rest) => (bytes ++ others, rest) := by
  have stops : endsRun 0x5C = true := rfl
  simp [readBytes, stops, read]

theorem readBytes_quote (fuel : Nat) (rest : List UInt8) :
    readBytes (fuel + 1) (0x22 :: rest) = .ok ([], rest) := by
  have stops : endsRun 0x22 = true := rfl
  simp [readBytes, stops]

theorem hexValue?_hexDigit : ∀ n < 16, (hexDigit n).toNat ≤ 127 ∧
    hexValue? (UInt8.ofNat (hexDigit n).toNat) = some n := by decide

/-- A control character is read back from its two digits. -/
theorem readEscape_control {n : Nat} (control : n < 0x20) (more : List UInt8) :
    readEscape (Utf8.encode ['u', '0', '0', hexDigit (n / 16), hexDigit (n % 16)] ++ more) =
      .ok (String.utf8EncodeChar (Char.ofNat n), more) := by
  obtain ⟨high_ascii, high⟩ := hexValue?_hexDigit (n / 16) (by omega)
  obtain ⟨low_ascii, low⟩ := hexValue?_hexDigit (n % 16) (by omega)
  have value : n / 16 * 16 + n % 16 = n := by omega
  have bytes : Utf8.encode ['u', '0', '0', hexDigit (n / 16), hexDigit (n % 16)] =
      [0x75, 0x30, 0x30, UInt8.ofNat (hexDigit (n / 16)).toNat,
        UInt8.ofNat (hexDigit (n % 16)).toNat] := by
    rw [Utf8.encode_ascii]
    · rfl
    · intro c member
      simp only [List.mem_cons, List.not_mem_nil, or_false] at member
      rcases member with rfl | rfl | rfl | rfl | rfl
      · decide
      · decide
      · decide
      · exact high_ascii
      · exact low_ascii
  have zero : hexValue? 0x30 = some 0 := rfl
  rw [bytes]
  simp only [readEscape, if_true, readUnicodeEscape, readHex, zero, high, low, List.cons_append,
    List.nil_append, Nat.zero_mul, Nat.zero_add, value]
  have low_half : ¬ (0xDC00 ≤ n ∧ n ≤ 0xDFFF) := by omega
  have high_half : ¬ (0xD800 ≤ n ∧ n ≤ 0xDBFF) := by omega
  simp [low_half, high_half, Except.map]

/-- A character stands for itself, or behind a backslash for what the reader makes of that. -/
theorem escapeChar_cases (c : Char) :
    (escapeChar c = [c] ∧ ∀ b ∈ String.utf8EncodeChar c, endsRun b = false) ∨
    ∃ code, Utf8.encode (escapeChar c) = 0x5C :: code ∧
      ∀ more, readEscape (code ++ more) = .ok (String.utf8EncodeChar c, more) := by
  unfold escapeChar
  -- Seven characters have an escape of one letter.
  iterate 7
    split
    next same =>
      subst same
      exact Or.inr ⟨_, rfl, fun _ => rfl⟩
  split
  next control =>
    refine Or.inr ⟨_, rfl, fun more => ?_⟩
    have read := readEscape_control control more
    rwa [Char.ofNat_toNat] at read
  next quote backslash _ _ _ _ _ visible =>
    refine Or.inl ⟨rfl, fun b member => ?_⟩
    rw [Utf8.utf8EncodeChar_eq] at member
    have not_quote : c.toNat ≠ 0x22 := fun same => quote (Char.toNat_inj.mp same)
    have not_backslash : c.toNat ≠ 0x5C := fun same => backslash (Char.toNat_inj.mp same)
    simp only [endsRun, Bool.or_eq_false_iff, decide_eq_false_iff_not, UInt8.lt_iff_toNat_lt,
      ← UInt8.toNat_inj, UInt8.reduceToNat]
    rcases Utf8.mem_codeBytes member with same | big <;> omega

/-- The characters of a string are read up to the quote. -/
theorem readBytes_escaped (text : List Char) (rest : List UInt8) (fuel : Nat)
    (enough : (Utf8.encode (text.flatMap escapeChar) ++ 0x22 :: rest).length < fuel) :
    readBytes fuel (Utf8.encode (text.flatMap escapeChar) ++ 0x22 :: rest) =
      .ok (Utf8.encode text, rest) := by
  induction text generalizing fuel with
  | nil =>
    obtain ⟨fuel, rfl⟩ := Nat.exists_eq_add_of_lt enough
    exact readBytes_quote _ rest
  | cons c text ih =>
    -- Only an escape takes fuel, but every character takes at least one byte of the input.
    obtain ⟨fuel, rfl⟩ : ∃ n, fuel = n + 1 := ⟨fuel - 1, by omega⟩
    rw [List.flatMap_cons, Utf8.encode_append, List.append_assoc] at enough ⊢
    rw [List.length_append] at enough
    rcases escapeChar_cases c with ⟨itself, plain⟩ | ⟨code, written, read⟩
    · have bytes : Utf8.encode (escapeChar c) = String.utf8EncodeChar c := by
        rw [itself]
        exact List.append_nil _
      rw [bytes, readBytes_run plain, ih _ (by omega), Utf8.encode_cons]
      rfl
    · rw [written, List.length_cons] at enough
      rw [written, List.cons_append, readBytes_escape (read _), ih _ (by omega), Utf8.encode_cons]
      rfl

/-- A string is read as it was written. -/
theorem readString_printed (text : String) (rest : List UInt8) :
    readString (Utf8.encode (text.toList.flatMap escapeChar ++ ['"']) ++ rest) = .ok (text, rest) := by
  have quote : Utf8.encode ['"'] = [0x22] := rfl
  rw [Utf8.encode_append, quote, List.append_assoc, List.singleton_append, readString,
    readBytes_escaped _ _ _ (Nat.lt_succ_self _)]
  dsimp only
  rw [Utf8.decode_encode, String.ofList_toList]

/-! ## Numbers -/

/-- The byte of a digit is a digit of the same value. -/
theorem digit_byte {c : Char} (digit : c.isDigit = true) :
    isDigit (UInt8.ofNat c.toNat) = true ∧ digitValue (UInt8.ofNat c.toNat) = c.toNat - '0'.toNat ∧
      c.toNat ≤ 127 := by
  have bounds : 48 ≤ c.toNat ∧ c.toNat ≤ 57 := by
    simpa [Char.isDigit, UInt32.le_iff_toNat_le] using digit
  have number : (UInt8.ofNat c.toNat).toNat = c.toNat := Utf8.toNat_ofNat_byte (by omega)
  refine ⟨?_, ?_, by omega⟩
  · simp only [isDigit, Bool.and_eq_true, decide_eq_true_eq, UInt8.le_iff_toNat_le, number,
      UInt8.reduceToNat]
    exact bounds
  · rw [digitValue, number]
    rfl

/-- No digit may follow a value. -/
theorem Ends.not_digit {b : UInt8} {rest : List UInt8} (ends : Ends (b :: rest)) :
    isDigit b = false := by
  rcases ends with rfl | rfl | rfl <;> rfl

/-- Digits are taken as their number if that fits. -/
theorem takeDigits_eq {digits : List Char} (all_digits : ∀ c ∈ digits, c.isDigit = true)
    {value : Nat} (fits : Nat.ofDigitChars 10 digits value ≤ maxSignificand) (count : Nat)
    {rest : List UInt8} (ends : Ends rest) :
    takeDigits value count (Utf8.encode digits ++ rest) =
      (Nat.ofDigitChars 10 digits value, count + digits.length, false, rest) := by
  induction digits generalizing value count with
  | nil =>
    cases rest with
    | nil => rfl
    | cons b rest =>
      change takeDigits value count (b :: rest) = _
      rw [takeDigits, ends.not_digit]
      rfl
  | cons c digits ih =>
    obtain ⟨digit, value_eq, ascii⟩ := digit_byte (all_digits c (by simp))
    have step : value * 10 + (c.toNat - '0'.toNat) = 10 * value + (c.toNat - '0'.toNat) := by omega
    have least := le_ofDigitChars (10 * value + (c.toNat - '0'.toNat)) digits
    rw [Nat.ofDigitChars_cons] at fits
    rw [Utf8.encode_cons_ascii ascii, List.cons_append, takeDigits, if_pos digit, value_eq, step,
      if_pos (by omega),
      ih (fun d member => all_digits d (List.mem_cons_of_mem c member)) fits,
      Nat.ofDigitChars_cons, List.length_cons]
    simp only [Prod.mk.injEq, and_true, true_and]
    omega

/-- A number that is not zero is written without a zero in front. -/
theorem toDigits_pos {n : Nat} (positive : 0 < n) :
    ∃ first digits, Nat.toDigits 10 n = Nat.digitChar first :: digits ∧ 0 < first ∧ first < 10 := by
  induction n using Nat.strongRecOn with
  | ind n ih =>
    by_cases small : n < 10
    · exact ⟨n, [], Nat.toDigits_of_lt_base small, positive, small⟩
    · obtain ⟨first, digits, same, bounds⟩ := ih (n / 10) (by omega) (by omega)
      refine ⟨first, digits ++ [Nat.digitChar (n % 10)], ?_, bounds⟩
      rw [Nat.toDigits_of_base_le (by decide) (by omega), same, List.cons_append]

/-- After its digits a number has ended. -/
theorem readAfterDigits_end {rest : List UInt8} (ends : Ends rest) (positive : Bool) (n : Nat) :
    readAfterDigits positive n 0 false rest = .ok (integerNumber positive n, rest) := by
  cases rest with
  | nil => rfl
  | cons b rest => rcases ends with rfl | rfl | rfl <;> rfl

/-- The digits of a number are read as that number. -/
theorem readNumber_digits {n : Nat} (fits : n ≤ maxSignificand) {rest : List UInt8}
    (ends : Ends rest) (positive : Bool) :
    readNumber positive (Utf8.encode (Nat.toDigits 10 n) ++ rest) =
      .ok (integerNumber positive n, rest) := by
  by_cases zero : n = 0
  · subst zero
    have bytes : Utf8.encode (Nat.toDigits 10 0) = [0x30] := rfl
    rw [bytes, List.singleton_append]
    cases rest with
    | nil => rfl
    | cons b rest => simp [readNumber, ends.not_digit, readAfterDigits_end ends]
  · obtain ⟨first, digits, written, above, below⟩ := toDigits_pos (Nat.pos_of_ne_zero zero)
    have all_digits : ∀ c ∈ Nat.digitChar first :: digits, c.isDigit = true := by
      intro c member
      rw [← written] at member
      exact Nat.isDigit_of_mem_toDigits (by decide) (by decide) member
    have number : Nat.ofDigitChars 10 (Nat.digitChar first :: digits) 0 = n := by
      rw [← written]
      exact Nat.ofDigitChars_ten_toDigits
    obtain ⟨digit, value_eq, ascii⟩ := digit_byte (all_digits _ List.mem_cons_self)
    have not_zero : UInt8.ofNat (Nat.digitChar first).toNat ≠ 0x30 := by
      rw [ne_eq, ← UInt8.toNat_inj, Utf8.toNat_ofNat_byte (by omega),
        Nat.toNat_digitChar_of_lt_ten below]
      simp only [UInt8.reduceToNat]
      omega
    have value : Nat.ofDigitChars 10 digits (digitValue (UInt8.ofNat (Nat.digitChar first).toNat)) =
        n := by
      rw [value_eq]
      simpa [Nat.ofDigitChars_cons] using number
    have taken := takeDigits_eq (fun c member => all_digits c (List.mem_cons_of_mem _ member))
      (value ▸ fits) 0 ends
    rw [written, Utf8.encode_cons_ascii ascii, List.cons_append]
    simp only [readNumber, not_zero, digit, if_true, if_false, taken, value, Bool.false_eq_true]
    exact readAfterDigits_end ends positive n

/-- Whether the format has the integer as it is. -/
def holds (value : Int) : Bool := -0x8000000000000000 ≤ value && value ≤ (maxSignificand : Int)

theorem printNumber_ofNat (n : Nat) : printNumber (.int (n : Int)) = Nat.toDigits 10 n :=
  Nat.toList_repr

theorem printNumber_negSucc (n : Nat) :
    printNumber (.int (Int.negSucc n)) = '-' :: Nat.toDigits 10 (n + 1) := by
  have written : toString (Int.negSucc n) = "-" ++ Nat.repr (n + 1) := rfl
  rw [printNumber, written, String.toList_append, Nat.toList_repr]
  rfl

theorem ne_of_isDigit {b c : UInt8} (digit : isDigit b = true) (other : isDigit c = false) :
    b ≠ c := by
  rintro rfl
  simp [digit] at other

theorem isBlank_of_isDigit {b : UInt8} (digit : isDigit b = true) : isBlank b = false := by
  simp [isBlank, ne_of_isDigit digit (c := 0x20) rfl, ne_of_isDigit digit (c := 0x0A) rfl,
    ne_of_isDigit digit (c := 0x09) rfl, ne_of_isDigit digit (c := 0x0D) rfl]

/-- Digits begin with a digit. -/
theorem encode_toDigits (n : Nat) :
    ∃ b tail, Utf8.encode (Nat.toDigits 10 n) = b :: tail ∧ isDigit b = true := by
  obtain ⟨c, digits, written⟩ := List.exists_cons_of_ne_nil (Nat.toDigits_ne_nil (n := n) (b := 10))
  have member : c ∈ Nat.toDigits 10 n := by
    rw [written]
    exact List.mem_cons_self
  obtain ⟨digit, -, ascii⟩ := digit_byte (Nat.isDigit_of_mem_toDigits (by decide) (by decide) member)
  exact ⟨UInt8.ofNat c.toNat, Utf8.encode digits, by rw [written, Utf8.encode_cons_ascii ascii], digit⟩

/-- What is written for an integer begins with a digit or with a sign, and is read from there. -/
theorem readNumber_printed {value : Int} (held : holds value = true) :
    (∃ b tail, Utf8.encode (printNumber (.int value)) = b :: tail ∧ isDigit b = true ∧
      ∀ rest, Ends rest → readNumber true (b :: (tail ++ rest)) = .ok (.int value, rest)) ∨
    ∃ tail, Utf8.encode (printNumber (.int value)) = 0x2D :: tail ∧
      ∀ rest, Ends rest → readNumber false (tail ++ rest) = .ok (.int value, rest) := by
  simp only [holds, Bool.and_eq_true, decide_eq_true_eq] at held
  cases value with
  | ofNat n =>
    obtain ⟨b, tail, written, digit⟩ := encode_toDigits n
    refine Or.inl ⟨b, tail, ?_, digit, fun rest ends => ?_⟩
    · rw [← written]
      exact congrArg Utf8.encode (printNumber_ofNat n)
    · have read := readNumber_digits (Int.ofNat_le.mp held.2) ends true
      rwa [written] at read
  | negSucc n =>
    refine Or.inr ⟨Utf8.encode (Nat.toDigits 10 (n + 1)), ?_, fun rest ends => ?_⟩
    · rw [printNumber_negSucc]
      rfl
    · have least : n + 1 ≤ 0x8000000000000000 := by omega
      have fits : n + 1 ≤ maxSignificand := Nat.le_trans least (by decide)
      rw [readNumber_digits fits ends, integerNumber, if_neg (by decide), if_neg]
      · rfl
      · simpa using least

end MapSidebar.Json
