import MapSidebar.Proofs.Characters
import MapSidebar.Proofs.Instances
import MapSidebar.Query

/-!
# Reading pairs back

What is written as a query is read as the same pairs: a written component holds neither the `&` nor the
`=` at which the query is cut, and what it is written with is undone in the other order.
-/
namespace MapSidebar

/-- A cut at the first separator, if none stands before it. -/
theorem Text.cutFirst_append {α : Type} [DecidableEq α] {sep : α} {before : List α}
    (absent : sep ∉ before) (after : List α) :
    cutFirst sep (before ++ sep :: after) = some (before, after) := by
  induction before with
  | nil => simp [cutFirst]
  | cons c before ih =>
    simp only [List.mem_cons, not_or] at absent
    simp [cutFirst, Ne.symm absent.1, ih absent.2]

namespace Query

variable {b : UInt8} {c : Char}

/-- The bytes of characters below 128. -/
def written (text : List Char) : List UInt8 := text.map fun c => UInt8.ofNat c.toNat

@[simp] theorem written_nil : written [] = [] := rfl

@[simp] theorem written_cons (c : Char) (text : List Char) :
    written (c :: text) = UInt8.ofNat c.toNat :: written text := rfl

@[simp] theorem written_append (text more : List Char) :
    written (text ++ more) = written text ++ written more := List.map_append

/-! ## Bytes -/

theorem hexValue?_hexDigit : ∀ n < 16,
    hexValue? (UInt8.ofNat (hexDigit n).toNat) = some (UInt8.ofNat n) := by decide

/-- A hexadecimal digit is an ASCII character and none with a meaning of its own. -/
theorem hexDigit_clean : ∀ n < 16, (hexDigit n).toNat ≤ 127 ∧ hexDigit n ≠ '&' ∧
    hexDigit n ≠ '=' ∧ UInt8.ofNat (hexDigit n).toNat ≠ 0x2B := by decide

/-- The bytes that stand for themselves, by their numbers. -/
theorem isPlain_iff : isPlain b = true ↔ 0x30 ≤ b.toNat ∧ b.toNat ≤ 0x39 ∨
    0x41 ≤ b.toNat ∧ b.toNat ≤ 0x5A ∨ 0x61 ≤ b.toNat ∧ b.toNat ≤ 0x7A ∨
    b.toNat = 0x2A ∨ b.toNat = 0x2D ∨ b.toNat = 0x2E ∨ b.toNat = 0x5F := by
  simp only [isPlain, Bool.or_eq_true, Bool.and_eq_true, decide_eq_true_eq,
    UInt8.le_iff_toNat_le, ← UInt8.toNat_inj, UInt8.reduceToNat, or_assoc]

theorem toNat_of_isPlain (plain : isPlain b = true) : b.toNat ≤ 127 ∧ b.toNat ≠ 0x25 ∧
    b.toNat ≠ 0x26 ∧ b.toNat ≠ 0x2B ∧ b.toNat ≠ 0x3D := by
  rw [isPlain_iff] at plain
  omega

/-- A byte that stands for itself is written as the character of its number. -/
theorem toNat_plainChar (plain : isPlain b = true) : (Char.ofNat b.toNat).toNat = b.toNat := by
  have small := (toNat_of_isPlain plain).1
  rw [Char.ofNat, dif_pos (Or.inl (by omega))]
  rfl

/-- What a byte is written with can be neither `&` nor `=`. -/
theorem encodeByte_clean (member : c ∈ encodeByte b) : c.toNat ≤ 127 ∧ c ≠ '&' ∧ c ≠ '=' := by
  have bound := b.toNat_lt
  unfold encodeByte at member
  split at member
  · rw [List.mem_singleton.mp member]
    decide
  split at member
  next plain =>
    rw [List.mem_singleton.mp member]
    obtain ⟨small, -, no_amp, -, no_eq⟩ := toNat_of_isPlain plain
    have number := toNat_plainChar plain
    refine ⟨by omega, ?_, ?_⟩
    · intro same
      exact no_amp (number.symm.trans (congrArg Char.toNat same))
    · intro same
      exact no_eq (number.symm.trans (congrArg Char.toNat same))
  · simp only [percentByte, List.mem_cons, List.not_mem_nil, or_false] at member
    rcases member with rfl | rfl | rfl
    · decide
    · obtain ⟨small, no_amp, no_eq, -⟩ := hexDigit_clean (b.toNat / 16) (by omega)
      exact ⟨small, no_amp, no_eq⟩
    · obtain ⟨small, no_amp, no_eq, -⟩ := hexDigit_clean (b.toNat % 16) (by omega)
      exact ⟨small, no_amp, no_eq⟩

theorem percentDecode_cons (other : b ≠ 0x25) (rest : List UInt8) :
    percentDecode (b :: rest) = b :: percentDecode rest := by
  rw [percentDecode]
  exact fun _ _ _ same _ => other same

/-- What a byte is written with is read as that byte. -/
theorem percentDecode_encodeByte (b : UInt8) (rest : List UInt8) :
    percentDecode ((written (encodeByte b)).map plusToSpace ++ rest) =
      b :: percentDecode rest := by
  have bound := b.toNat_lt
  unfold encodeByte
  split
  next space =>
    subst space
    exact percentDecode_cons (by decide) rest
  split
  next plain =>
    obtain ⟨-, no_percent, -, no_plus, -⟩ := toNat_of_isPlain plain
    have same : written [Char.ofNat b.toNat] = [b] := by
      rw [written_cons, toNat_plainChar plain, UInt8.ofNat_toNat]
      rfl
    have kept : plusToSpace b = b := by
      refine if_neg fun plus => ?_
      subst plus
      exact no_plus rfl
    rw [same, List.map_singleton, kept]
    refine percentDecode_cons (fun percent => ?_) rest
    subst percent
    exact no_percent rfl
  · have high := hexDigit_clean (b.toNat / 16) (by omega)
    have low := hexDigit_clean (b.toNat % 16) (by omega)
    have kept : (written (percentByte b)).map plusToSpace = [0x25,
        UInt8.ofNat (hexDigit (b.toNat / 16)).toNat, UInt8.ofNat (hexDigit (b.toNat % 16)).toNat] := by
      simp only [percentByte, written_cons, written_nil, List.map_cons, List.map_nil, plusToSpace,
        high.2.2.2, low.2.2.2, if_false]
      rfl
    have value : UInt8.ofNat (b.toNat / 16) * 16 + UInt8.ofNat (b.toNat % 16) = b := by
      rw [← UInt8.toNat_inj]
      simp only [UInt8.toNat_add, UInt8.toNat_mul, UInt8.toNat_ofNat', UInt8.reduceToNat]
      omega
    rw [kept]
    simp only [List.cons_append, List.nil_append, percentDecode,
      hexValue?_hexDigit (b.toNat / 16) (by omega), hexValue?_hexDigit (b.toNat % 16) (by omega),
      value]

/-! ## Components -/

theorem encodeComponent_clean {text : String} (member : c ∈ encodeComponent text) :
    c.toNat ≤ 127 ∧ c ≠ '&' ∧ c ≠ '=' := by
  obtain ⟨b, -, inside⟩ := List.mem_flatMap.mp member
  exact encodeByte_clean inside

/-- A character below 128 is written by a byte of its own. -/
theorem not_mem_written {text : List Char} {d : Char} (ascii : ∀ c ∈ text, c.toNat ≤ 127)
    (small : d.toNat ≤ 127) (absent : d ∉ text) : UInt8.ofNat d.toNat ∉ written text := by
  intro member
  obtain ⟨c, inside, same⟩ := List.mem_map.mp member
  have bound := ascii c inside
  have number := congrArg UInt8.toNat same
  rw [UInt8.toNat_ofNat_of_lt' (by simp only [UInt8.size]; omega),
    UInt8.toNat_ofNat_of_lt' (by simp only [UInt8.size]; omega)] at number
  exact absent (Char.toNat_inj.mp number ▸ inside)

/-- A component is read as it was. -/
theorem decodeComponent_written (text : String) :
    decodeComponent (written (encodeComponent text)) = text := by
  have bytes : ∀ bs : List UInt8,
      percentDecode ((written (bs.flatMap encodeByte)).map plusToSpace) = bs := by
    intro bs
    induction bs with
    | nil => rfl
    | cons b bs ih =>
      rw [List.flatMap_cons, written_append, List.map_append, percentDecode_encodeByte, ih]
  rw [decodeComponent, encodeComponent, bytes, Utf8.decodeLossy_bytes]

/-! ## Pairs -/

theorem encodePair_clean {pair : String × String} (member : c ∈ encodePair pair) :
    c.toNat ≤ 127 ∧ c ≠ '&' := by
  rcases List.mem_append.mp member with name | rest
  · exact ⟨(encodeComponent_clean name).1, (encodeComponent_clean name).2.1⟩
  · rcases List.mem_cons.mp rest with rfl | value
    · decide
    · exact ⟨(encodeComponent_clean value).1, (encodeComponent_clean value).2.1⟩

theorem decodePair_written (pair : String × String) :
    decodePair (written (encodePair pair)) = pair := by
  have absent : UInt8.ofNat '='.toNat ∉ written (encodeComponent pair.1) :=
    not_mem_written (fun c member => (encodeComponent_clean member).1) (by decide)
      fun member => (encodeComponent_clean member).2.2 rfl
  have cut := Text.cutFirst_append absent (written (encodeComponent pair.2))
  rw [decodePair, encodePair, written_append, written_cons]
  rw [show (0x3D : UInt8) = UInt8.ofNat '='.toNat from rfl, cut]
  dsimp only
  rw [decodeComponent_written, decodeComponent_written]

/-- The pieces of a query are its written pairs. -/
theorem splitAt_written {pairs : List (String × String)} (some_pair : pairs ≠ []) :
    Text.splitAt 0x26 (written (encodePairs pairs)) =
      pairs.map fun pair => written (encodePair pair) := by
  have absent : ∀ pair, (0x26 : UInt8) ∉ written (encodePair pair) := fun pair =>
    not_mem_written (d := '&') (fun c member => (encodePair_clean member).1) (by decide)
      fun member => (encodePair_clean member).2 rfl
  induction pairs with
  | nil => exact absurd rfl some_pair
  | cons pair pairs ih =>
    cases pairs with
    | nil => exact Text.splitAt_of_not_mem (absent pair)
    | cons next pairs =>
      rw [encodePairs, written_append, written_cons]
      · refine (Text.splitAt_append (absent pair) _).trans ?_
        rw [ih (by simp)]
        rfl
      · simp

/-- What stands in written pairs stands in one of them or is the `&` between two. -/
theorem mem_encodePairs {pairs : List (String × String)} (member : c ∈ encodePairs pairs) :
    c = '&' ∨ ∃ pair, c ∈ encodePair pair := by
  induction pairs with
  | nil => cases member
  | cons pair pairs ih =>
    cases pairs with
    | nil => exact .inr ⟨pair, member⟩
    | cons next pairs =>
      rw [encodePairs] at member
      · rcases List.mem_append.mp member with first | rest
        · exact .inr ⟨pair, first⟩
        · rcases List.mem_cons.mp rest with rfl | later
          · exact .inl rfl
          · exact ih later
      · simp

theorem encodePairs_clean {pairs : List (String × String)} (member : c ∈ encodePairs pairs) :
    c.toNat ≤ 127 := by
  rcases mem_encodePairs member with rfl | ⟨pair, inside⟩
  · decide
  · exact (encodePair_clean inside).1

/-- What is written as a query is read as the same pairs. -/
theorem decode_encode (pairs : List (String × String)) : decode (encode pairs) = pairs := by
  have bytes : Utf8.bytes (encode pairs) = written (encodePairs pairs) := by
    rw [Utf8.bytes, encode, String.toList_ofList]
    exact Utf8.encode_ascii fun c member => encodePairs_clean member
  rw [decode, bytes, decodeBytes]
  by_cases empty : pairs = []
  · subst empty
    rfl
  · have filled : ∀ pair : String × String, (written (encodePair pair)).isEmpty = false := by
      intro pair
      rw [encodePair, written_append, written_cons]
      simp
    have kept : (pairs.map fun pair => written (encodePair pair)).filter
        (fun pair => !pair.isEmpty) = pairs.map fun pair => written (encodePair pair) := by
      rw [List.filter_eq_self]
      intro piece member
      obtain ⟨pair, -, rfl⟩ := List.mem_map.mp member
      rw [filled, Bool.not_false]
    have read : (decodePair ∘ fun pair => written (encodePair pair)) = id :=
      funext decodePair_written
    rw [splitAt_written empty, kept, List.map_map, read, List.map_id]

theorem encode_inj {pairs more : List (String × String)} :
    encode pairs = encode more ↔ pairs = more := by
  refine ⟨fun same => ?_, fun same => same ▸ rfl⟩
  rw [← decode_encode pairs, same, decode_encode]

end Query

end MapSidebar
