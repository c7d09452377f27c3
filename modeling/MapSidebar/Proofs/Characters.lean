import MapSidebar.Text.Utf8

/-!
# Reading characters back

The bytes of a text are read as its characters: the first byte of each tells how many more it takes,
and the bounds on the second one, which keep out what is no character, hold for every character.
-/
namespace MapSidebar.Utf8

variable {b : UInt8} {c : Char} {n : Nat}

/-- What a first byte gives, by its number. -/
theorem opening_eq (b : UInt8) : opening b =
    if b.toNat ≤ 0x7F then .inl (.char (Char.ofNat b.toNat))
    else if b.toNat < 0xC2 then .inl (.bad (.invalid 1))
    else if b.toNat ≤ 0xDF then .inr { bits := b.toNat % 32, owed := 1 }
    else if b.toNat = 0xE0 then .inr { bits := 0, owed := 2, low := 0xA0 }
    else if b.toNat = 0xED then .inr { bits := 13, owed := 2, high := 0x9F }
    else if b.toNat ≤ 0xEF then .inr { bits := b.toNat % 16, owed := 2 }
    else if b.toNat = 0xF0 then .inr { bits := 0, owed := 3, low := 0x90 }
    else if b.toNat ≤ 0xF3 then .inr { bits := b.toNat % 8, owed := 3 }
    else if b.toNat = 0xF4 then .inr { bits := 4, owed := 3, high := 0x8F }
    else .inl (.bad (.invalid 1)) := by
  simp only [opening, UInt8.le_iff_toNat_le, UInt8.lt_iff_toNat_lt, ← UInt8.toNat_inj,
    UInt8.reduceToNat]

theorem Open.accepts_iff (o : Open) (b : UInt8) :
    o.accepts b = true ↔ o.low.toNat ≤ b.toNat ∧ b.toNat ≤ o.high.toNat := by
  simp [Open.accepts, UInt8.le_iff_toNat_le]

/-- The numbers of characters: neither surrogates nor beyond the last plane. -/
theorem char_bounds (c : Char) : c.toNat < 0xD800 ∨ 0xDFFF < c.toNat ∧ c.toNat < 0x110000 := c.valid

theorem toNat_ofNat_byte (small : n < 256) : (UInt8.ofNat n).toNat = n :=
  UInt8.toNat_ofNat_of_lt' small

/-- The byte that carries the last six bits of a number. -/
def tailByte (n : Nat) : UInt8 := UInt8.ofNat (n % 64 + 128)

theorem toNat_tailByte (n : Nat) : (tailByte n).toNat = n % 64 + 128 :=
  toNat_ofNat_byte (by omega)

/-- A byte that continues the character adds its bits, and the last one ends it. -/
theorem scan_tail {o : Open} (low : o.low.toNat ≤ n % 64 + 128)
    (high : n % 64 + 128 ≤ o.high.toNat) (rest : List UInt8) :
    scan (some o) (tailByte n :: rest) =
      if o.owed ≤ 1 then .char (Char.ofNat (o.bits * 64 + n % 64)) :: scan none rest
      else scan (some { bits := o.bits * 64 + n % 64, seen := o.seen + 1, owed := o.owed - 1 })
        rest := by
  have accepted : o.accepts (tailByte n) = true := by
    rw [Open.accepts_iff, toNat_tailByte]
    exact ⟨low, high⟩
  have bits : (n % 64 + 128) % 64 = n % 64 := by omega
  have ends : o.owed - 1 = 0 ↔ o.owed ≤ 1 := by omega
  rw [scan, if_pos accepted]
  simp only [Open.push, toNat_tailByte, bits, ends]

/-- A character whose last byte is all that is owed. -/
theorem scan_one_more {bits : Nat} (rest : List UInt8) :
    scan (some { bits, owed := 1 }) (tailByte n :: rest) =
      .char (Char.ofNat (bits * 64 + n % 64)) :: scan none rest := by
  rw [scan_tail (by simp only [UInt8.reduceToNat]; omega) (by simp only [UInt8.reduceToNat]; omega)]
  rfl

/-- A character of which two bytes are owed, if the bounds on the first of them hold. -/
theorem scan_two_more {o : Open} (owed : o.owed = 2) (low : o.low.toNat ≤ n / 64 % 64 + 128)
    (high : n / 64 % 64 + 128 ≤ o.high.toNat) (rest : List UInt8) :
    scan (some o) (tailByte (n / 64) :: tailByte n :: rest) =
      .char (Char.ofNat ((o.bits * 64 + n / 64 % 64) * 64 + n % 64)) :: scan none rest := by
  rw [scan_tail low high, owed, if_neg (by omega), scan_tail (by simp only [UInt8.reduceToNat]; omega)
    (by simp only [UInt8.reduceToNat]; omega)]
  rfl

/-- A character of which three bytes are owed, if the bounds on the first of them hold. -/
theorem scan_three_more {o : Open} (owed : o.owed = 3)
    (low : o.low.toNat ≤ n / 4096 % 64 + 128) (high : n / 4096 % 64 + 128 ≤ o.high.toNat)
    (rest : List UInt8) :
    scan (some o) (tailByte (n / 4096) :: tailByte (n / 64) :: tailByte n :: rest) =
      .char (Char.ofNat (((o.bits * 64 + n / 4096 % 64) * 64 + n / 64 % 64) * 64 + n % 64)) ::
        scan none rest := by
  rw [scan_tail low high, owed, if_neg (by omega), scan_two_more rfl
    (by simp only [UInt8.reduceToNat]; omega) (by simp only [UInt8.reduceToNat]; omega)]

def codeBytes (n : Nat) : List UInt8 :=
  if n ≤ 127 then [UInt8.ofNat n]
  else if n ≤ 2047 then [UInt8.ofNat (n / 64 % 32 + 192), tailByte n]
  else if n ≤ 65535 then [UInt8.ofNat (n / 4096 % 16 + 224), tailByte (n / 64), tailByte n]
  else [UInt8.ofNat (n / 262144 % 8 + 240), tailByte (n / 4096), tailByte (n / 64), tailByte n]

theorem utf8EncodeChar_eq (c : Char) : String.utf8EncodeChar c = codeBytes c.toNat := rfl

/-- A first byte of three, and what it asks of the second one: the second one does not begin a
number that two bytes can write, nor a surrogate. -/
theorem opening_three (more : 2047 < n) (within : n ≤ 65535)
    (bounds : n < 0xD800 ∨ 0xDFFF < n) : ∃ low high : UInt8,
    opening (UInt8.ofNat (n / 4096 % 16 + 224)) = .inr { bits := n / 4096, owed := 2, low, high } ∧
      low.toNat ≤ n / 64 % 64 + 128 ∧ n / 64 % 64 + 128 ≤ high.toNat := by
  rw [opening_eq, toNat_ofNat_byte (by omega), if_neg (by omega), if_neg (by omega),
    if_neg (by omega)]
  by_cases first : n / 4096 = 0
  · rw [if_pos (by omega)]
    exact ⟨0xA0, 0xBF, by rw [first], by simp only [UInt8.reduceToNat]; omega,
      by simp only [UInt8.reduceToNat]; omega⟩
  rw [if_neg (by omega)]
  by_cases before_surrogates : n / 4096 = 13
  · rw [if_pos (by omega)]
    exact ⟨0x80, 0x9F, by rw [before_surrogates], by simp only [UInt8.reduceToNat]; omega,
      by simp only [UInt8.reduceToNat]; omega⟩
  · have bits : (n / 4096 % 16 + 224) % 16 = n / 4096 := by omega
    rw [if_neg (by omega), if_pos (by omega), bits]
    exact ⟨0x80, 0xBF, rfl, by simp only [UInt8.reduceToNat]; omega,
      by simp only [UInt8.reduceToNat]; omega⟩

/-- A first byte of four, and what it asks of the second one: the second one does not begin a number
that three bytes can write, nor one beyond the last plane. -/
theorem opening_four (more : 65535 < n) (within : n < 0x110000) : ∃ low high : UInt8,
    opening (UInt8.ofNat (n / 262144 % 8 + 240)) =
        .inr { bits := n / 262144, owed := 3, low, high } ∧
      low.toNat ≤ n / 4096 % 64 + 128 ∧ n / 4096 % 64 + 128 ≤ high.toNat := by
  rw [opening_eq, toNat_ofNat_byte (by omega), if_neg (by omega), if_neg (by omega),
    if_neg (by omega), if_neg (by omega), if_neg (by omega), if_neg (by omega)]
  by_cases first : n / 262144 = 0
  · rw [if_pos (by omega)]
    exact ⟨0x90, 0xBF, by rw [first], by simp only [UInt8.reduceToNat]; omega,
      by simp only [UInt8.reduceToNat]; omega⟩
  rw [if_neg (by omega)]
  by_cases last : n / 262144 = 4
  · rw [if_neg (by omega), if_pos (by omega)]
    exact ⟨0x80, 0x8F, by rw [last], by simp only [UInt8.reduceToNat]; omega,
      by simp only [UInt8.reduceToNat]; omega⟩
  · have bits : (n / 262144 % 8 + 240) % 8 = n / 262144 := by omega
    rw [if_pos (by omega), bits]
    exact ⟨0x80, 0xBF, rfl, by simp only [UInt8.reduceToNat]; omega,
      by simp only [UInt8.reduceToNat]; omega⟩

/-- The bytes of a character are read as that character. -/
theorem scan_codeBytes (bounds : n < 0xD800 ∨ 0xDFFF < n ∧ n < 0x110000) (rest : List UInt8) :
    scan none (codeBytes n ++ rest) = .char (Char.ofNat n) :: scan none rest := by
  have opened : ∀ {b : UInt8} {o : Open} (tail : List UInt8), opening b = .inr o →
      scan none (b :: tail) = scan (some o) tail := by
    intro b o tail opens
    rw [scan, opens]
  unfold codeBytes
  split
  next one =>
    rw [List.cons_append, scan, opening_eq, toNat_ofNat_byte (by omega), if_pos one]
    rfl
  split
  next two =>
    have opens : opening (UInt8.ofNat (n / 64 % 32 + 192)) =
        .inr { bits := n / 64, owed := 1 } := by
      have bits : (n / 64 % 32 + 192) % 32 = n / 64 := by omega
      rw [opening_eq, toNat_ofNat_byte (by omega), if_neg (by omega), if_neg (by omega),
        if_pos (by omega), bits]
    have value : n / 64 * 64 + n % 64 = n := by omega
    exact (opened _ opens).trans ((scan_one_more rest).trans (by rw [value]))
  split
  next three =>
    obtain ⟨low, high, opens, least, most⟩ := opening_three (by omega) three (by omega)
    have value : (n / 4096 * 64 + n / 64 % 64) * 64 + n % 64 = n := by omega
    exact (opened _ opens).trans ((scan_two_more rfl least most rest).trans (by rw [value]))
  next four =>
    obtain ⟨low, high, opens, least, most⟩ := opening_four (n := n) (by omega) (by omega)
    have value : ((n / 262144 * 64 + n / 4096 % 64) * 64 + n / 64 % 64) * 64 + n % 64 = n := by
      omega
    exact (opened _ opens).trans ((scan_three_more rfl least most rest).trans (by rw [value]))

/-- The bytes of a text are read as its characters. -/
theorem pieces_encode (text : List Char) : pieces (encode text) = text.map .char := by
  unfold pieces encode
  induction text with
  | nil => rfl
  | cons c text ih =>
    have read := scan_codeBytes (char_bounds c) (text.flatMap String.utf8EncodeChar)
    rw [List.flatMap_cons, utf8EncodeChar_eq, read, ih, Char.ofNat_toNat]
    rfl

/-- What is written in bytes is read as it was. -/
theorem decodeLossy_bytes (text : String) : decodeLossy (bytes text) = text := by
  have shown : Piece.shown ∘ Piece.char = id := rfl
  rw [decodeLossy, bytes, pieces_encode, List.map_map, shown, List.map_id, String.ofList_toList]

/-- The bytes of a text are read as that text. -/
theorem decode_encode (text : List Char) : decode (encode text) = .ok (String.ofList text) := by
  have strict_eq : ∀ index, strict index (text.map .char) = .ok text := by
    induction text with
    | nil => intro index; rfl
    | cons c text ih =>
      intro index
      rw [List.map_cons, strict, ih]
      rfl
  rw [decode, decodeChars, pieces_encode, strict_eq]
  rfl

theorem encode_append (text more : List Char) :
    encode (text ++ more) = encode text ++ encode more := List.flatMap_append

theorem encode_cons (c : Char) (text : List Char) :
    encode (c :: text) = String.utf8EncodeChar c ++ encode text := List.flatMap_cons

/-! ## What else is read -/

/-- A first byte that is a character by itself is its number. -/
theorem opening_char (opens : opening b = .inl (.char c)) :
    b.toNat ≤ 0x7F ∧ c = Char.ofNat b.toNat := by
  rw [opening_eq] at opens
  repeat' split at opens
  all_goals cases opens
  exact ⟨‹_›, rfl⟩

/-- A first byte that leaves something owed, and the bounds on the byte after it. -/
theorem opening_inr {o : Open} (opens : opening b = .inr o) :
    (128 ≤ o.low.toNat ∧ o.high.toNat ≤ 191) ∧
    (o.owed = 1 ∧ 0xC2 ≤ b.toNat ∧ b.toNat ≤ 0xDF ∧ o.bits = b.toNat - 192 ∨
      o.owed = 2 ∧ 0xE0 ≤ b.toNat ∧ b.toNat ≤ 0xEF ∧ o.bits = b.toNat - 224 ∧
        (b.toNat ≠ 0xE0 ∨ 0xA0 ≤ o.low.toNat) ∧ (b.toNat ≠ 0xED ∨ o.high.toNat ≤ 0x9F) ∨
      o.owed = 3 ∧ 0xF0 ≤ b.toNat ∧ b.toNat ≤ 0xF4 ∧ o.bits = b.toNat - 240 ∧
        (b.toNat ≠ 0xF0 ∨ 0x90 ≤ o.low.toNat) ∧ (b.toNat ≠ 0xF4 ∨ o.high.toNat ≤ 0x8F)) := by
  rw [opening_eq] at opens
  repeat' split at opens
  all_goals cases opens
  all_goals
    simp only [UInt8.reduceToNat, true_and]
    omega

/-- If an open character ends in characters only, its next byte is within the bounds. -/
theorem scan_open_chars {o : Open} {input : List UInt8} {chars : List Char}
    (read : scan (some o) input = chars.map .char) : ∃ more rest, input = more :: rest ∧
      o.low.toNat ≤ more.toNat ∧ more.toNat ≤ o.high.toNat ∧
      (if o.owed ≤ 1 then
        .char (Char.ofNat (o.bits * 64 + more.toNat % 64)) :: scan none rest
      else
        scan (some { bits := o.bits * 64 + more.toNat % 64, seen := o.seen + 1, owed := o.owed - 1 })
          rest) = chars.map .char := by
  cases input with
  | nil => cases chars <;> cases read
  | cons more rest =>
    rw [scan] at read
    split at read
    next accepted =>
      obtain ⟨low, high⟩ := (o.accepts_iff more).mp accepted
      have ends : o.owed - 1 = 0 ↔ o.owed ≤ 1 := by omega
      refine ⟨more, rest, rfl, low, high, ?_⟩
      simpa only [Open.push, ends] using read
    next => cases chars <;> cases read

/-- After the second byte there are no other bounds than those of all bytes that continue. -/
theorem scan_owed_chars {bits seen owed : Nat} {input : List UInt8} {chars : List Char}
    (read : scan (some { bits, seen, owed }) input = chars.map .char) :
    ∃ more rest, input = more :: rest ∧ 128 ≤ more.toNat ∧ more.toNat ≤ 191 ∧
      (if owed ≤ 1 then .char (Char.ofNat (bits * 64 + more.toNat % 64)) :: scan none rest
      else scan (some { bits := bits * 64 + more.toNat % 64, seen := seen + 1, owed := owed - 1 })
        rest) = chars.map .char := by
  simpa only [UInt8.reduceToNat] using scan_open_chars read

theorem tailByte_eq (low : 128 ≤ b.toNat) (high : b.toNat ≤ 191) (same : n % 64 = b.toNat % 64) :
    tailByte n = b := by
  rw [← UInt8.toNat_inj, toNat_tailByte]
  omega

theorem firstByte_eq (same : n = b.toNat) : UInt8.ofNat n = b := by
  rw [same, UInt8.ofNat_toNat]

theorem toNat_charOfNat (bounds : n < 0xD800 ∨ 0xDFFF < n ∧ n < 0x110000) :
    (Char.ofNat n).toNat = n := by
  have valid : n.isValidChar := bounds
  rw [Char.ofNat, dif_pos valid]
  rfl

/-- What is taken for the character of a number is its bytes. -/
theorem takes_codeBytes {taken rest : List UInt8} {chars : List Char}
    (bounds : n < 0xD800 ∨ 0xDFFF < n ∧ n < 0x110000) (bytes : codeBytes n = taken)
    (read : .char (Char.ofNat n) :: scan none rest = chars.map .char) :
    ∃ c later, chars = c :: later ∧ String.utf8EncodeChar c = taken ∧
      scan none rest = later.map .char := by
  cases chars with
  | nil => cases read
  | cons c later =>
    obtain ⟨same, rest_read⟩ := List.cons.inj read
    cases same
    exact ⟨_, later, rfl, by rw [utf8EncodeChar_eq, toNat_charOfNat bounds, bytes], rest_read⟩

/-- Bytes that are read as characters only begin with those of the first. -/
theorem scan_begins {input : List UInt8} {chars : List Char}
    (read : scan none (b :: input) = chars.map .char) :
    ∃ c later taken rest, chars = c :: later ∧ String.utf8EncodeChar c = taken ∧
      b :: input = taken ++ rest ∧ scan none rest = later.map .char := by
  rw [scan] at read
  split at read
  next piece opens =>
    cases chars with
    | nil => cases read
    | cons c later =>
      obtain ⟨rfl, rest_read⟩ := List.cons.inj read
      obtain ⟨small, rfl⟩ := opening_char opens
      refine ⟨_, later, [b], input, rfl, ?_, rfl, rest_read⟩
      rw [utf8EncodeChar_eq, toNat_charOfNat (by omega), codeBytes, if_pos small, UInt8.ofNat_toNat]
  next o opens =>
    obtain ⟨⟨low, high⟩, kinds⟩ := opening_inr opens
    obtain ⟨second, rest, rfl, least, most, read⟩ := scan_open_chars read
    rcases kinds with ⟨owed, from_two, to_two, bits⟩ | ⟨owed, from_three, to_three, bits, apart⟩ |
      ⟨owed, from_four, to_four, bits, apart⟩
    · rw [if_pos (by omega)] at read
      have bytes : codeBytes (o.bits * 64 + second.toNat % 64) = [b, second] := by
        rw [codeBytes, if_neg (by omega), if_pos (by omega), firstByte_eq (b := b) (by omega),
          tailByte_eq (b := second) (by omega) (by omega) (by omega)]
      obtain ⟨c, later, whole, same, read⟩ := takes_codeBytes (by omega) bytes read
      exact ⟨c, later, _, rest, whole, same, rfl, read⟩
    · rw [if_neg (by omega)] at read
      obtain ⟨third, rest, rfl, low', high', read⟩ := scan_owed_chars read
      rw [if_pos (by omega)] at read
      have bytes : codeBytes ((o.bits * 64 + second.toNat % 64) * 64 + third.toNat % 64) =
          [b, second, third] := by
        rw [codeBytes, if_neg (by omega), if_neg (by omega), if_pos (by omega),
          firstByte_eq (b := b) (by omega), tailByte_eq (b := second) (by omega) (by omega) (by omega),
          tailByte_eq (b := third) (by omega) (by omega) (by omega)]
      obtain ⟨c, later, whole, same, read⟩ := takes_codeBytes (by omega) bytes read
      exact ⟨c, later, _, rest, whole, same, rfl, read⟩
    · rw [if_neg (by omega)] at read
      obtain ⟨third, rest, rfl, low', high', read⟩ := scan_owed_chars read
      rw [if_neg (by omega)] at read
      obtain ⟨fourth, rest, rfl, low'', high'', read⟩ := scan_owed_chars read
      rw [if_pos (by omega)] at read
      have bytes : codeBytes (((o.bits * 64 + second.toNat % 64) * 64 + third.toNat % 64) * 64 +
          fourth.toNat % 64) = [b, second, third, fourth] := by
        rw [codeBytes, if_neg (by omega), if_neg (by omega), if_neg (by omega),
          firstByte_eq (b := b) (by omega), tailByte_eq (b := second) (by omega) (by omega) (by omega),
          tailByte_eq (b := third) (by omega) (by omega) (by omega),
          tailByte_eq (b := fourth) (by omega) (by omega) (by omega)]
      obtain ⟨c, later, whole, same, read⟩ := takes_codeBytes (by omega) bytes read
      exact ⟨c, later, _, rest, whole, same, rfl, read⟩

/-- What is read as characters only is the bytes of them. -/
theorem encode_of_scan {input : List UInt8} {chars : List Char}
    (read : scan none input = chars.map .char) : encode chars = input := by
  induction bound : input.length using Nat.strongRecOn generalizing input chars with
  | ind k ih =>
    cases input with
    | nil =>
      cases chars with
      | nil => rfl
      | cons c chars => cases read
    | cons b input =>
      obtain ⟨c, later, taken, rest, rfl, bytes, parts, read⟩ := scan_begins read
      have shorter : rest.length < k := by
        have lengths := congrArg List.length parts
        have size := String.length_utf8EncodeChar c
        have positive := c.utf8Size_pos
        rw [List.length_append, ← bytes] at lengths
        omega
      rw [encode_cons, bytes, ih _ shorter read rfl, parts]

theorem pieces_of_strict {index : Nat} {read : List Piece} {chars : List Char}
    (strictly : strict index read = .ok chars) : read = chars.map .char := by
  induction read generalizing index chars with
  | nil =>
    cases strictly
    rfl
  | cons piece read ih =>
    cases piece with
    | bad defect => cases strictly
    | char c =>
      rw [strict] at strictly
      cases later : strict (index + c.utf8Size) read with
      | error e =>
        rw [later] at strictly
        cases strictly
      | ok rest =>
        rw [later] at strictly
        cases strictly
        rw [ih later]
        rfl

/-- Bytes hold a text exactly if they are the bytes of it. -/
theorem decode_eq_ok {input : List UInt8} {text : String} :
    decode input = .ok text ↔ input = bytes text := by
  constructor
  · intro decoded
    cases strict_read : decodeChars input with
    | error e =>
      rw [decode, strict_read] at decoded
      cases decoded
    | ok chars =>
      rw [decode, strict_read] at decoded
      cases decoded
      rw [bytes, String.toList_ofList, encode_of_scan (pieces_of_strict strict_read)]
  · rintro rfl
    rw [bytes, decode_encode, String.ofList_toList]

/-- A byte of a character is its number, or belongs to no ASCII text. -/
theorem mem_codeBytes (member : b ∈ codeBytes n) : b.toNat = n ∨ 128 ≤ b.toNat := by
  have tail : ∀ m, 128 ≤ (tailByte m).toNat := fun m => by rw [toNat_tailByte]; omega
  have lead : ∀ m, 192 ≤ m → m < 256 → 128 ≤ (UInt8.ofNat m).toNat := fun m _ _ => by
    rw [toNat_ofNat_byte (by omega)]
    omega
  unfold codeBytes at member
  split at member
  next small =>
    rw [List.mem_singleton.mp member]
    exact Or.inl (toNat_ofNat_byte (by omega))
  refine Or.inr ?_
  split at member
  · simp only [List.mem_cons, List.not_mem_nil, or_false] at member
    rcases member with rfl | rfl
    · exact lead _ (by omega) (by omega)
    · exact tail _
  split at member
  · simp only [List.mem_cons, List.not_mem_nil, or_false] at member
    rcases member with rfl | rfl | rfl
    · exact lead _ (by omega) (by omega)
    · exact tail _
    · exact tail _
  · simp only [List.mem_cons, List.not_mem_nil, or_false] at member
    rcases member with rfl | rfl | rfl | rfl
    · exact lead _ (by omega) (by omega)
    · exact tail _
    · exact tail _
    · exact tail _

/-- A character below 128 is written as one byte. -/
theorem encode_cons_ascii {c : Char} (ascii : c.toNat ≤ 127) (text : List Char) :
    encode (c :: text) = UInt8.ofNat c.toNat :: encode text := by
  rw [encode_cons, utf8EncodeChar_eq, codeBytes, if_pos ascii, List.singleton_append]

/-- The bytes of an ASCII text are the numbers of its characters. -/
theorem encode_ascii {text : List Char} (ascii : ∀ c ∈ text, c.toNat ≤ 127) :
    encode text = text.map fun c => UInt8.ofNat c.toNat := by
  induction text with
  | nil => rfl
  | cons c text ih =>
    rw [encode_cons_ascii (ascii c (by simp)), ih fun d member => ascii d (by simp [member]),
      List.map_cons]

end MapSidebar.Utf8
