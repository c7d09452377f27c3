import MapSidebar.Json.Decoder
import MapSidebar.Proofs.JsonLeaves

/-!
# Values read back

A reader reads a word as a value if it stops where the word ends, whatever may follow there. From
the readers of single values this passes to lists, objects and records, in which words stand between
brackets with commas between them.
-/
namespace MapSidebar.Json

/-- The reader reads the word as the value. The word begins with no blank and does not close a
list. -/
structure Reads {α : Type} (reader : Reader α) (word : List Char) (value : α) : Prop where
  opens : ∃ b tail, Utf8.encode word = b :: tail ∧ isBlank b = false ∧ b ≠ 0x5D
  read : ∀ rest, Ends rest → reader (Utf8.encode word ++ rest) = .ok (value, rest)

variable {α β σ : Type} {reader : Reader α} {word : List Char} {value : α}

/-- What is made of a value that has been read. -/
theorem Reads.map (reads : Reads reader word value) (f : α → β) :
    Reads (fun input => (reader input).map fun (value, rest) => (f value, rest)) word (f value) where
  opens := reads.opens
  read := by
    intro rest ends
    rw [reads.read rest ends]
    rfl

theorem Reads.filled (reads : Reads reader word value) : Utf8.encode word ≠ [] := by
  obtain ⟨b, tail, written, -⟩ := reads.opens
  rw [written]
  exact List.cons_ne_nil b tail

theorem skipBlank_cons {b : UInt8} (visible : isBlank b = false) (rest : List UInt8) :
    skipBlank (b :: rest) = b :: rest := by
  simp [skipBlank, visible]

theorem firstByte_cons {b : UInt8} (visible : isBlank b = false) (rest : List UInt8) :
    firstByte (b :: rest) = .ok (b, rest) := by
  simp [firstByte, skipBlank_cons visible]

/-! ## Single values -/

theorem encode_printString (s : String) : Utf8.encode (printString s) =
    0x22 :: Utf8.encode (s.toList.flatMap escapeChar ++ ['"']) := rfl

theorem reads_string (s : String) (depth : Nat) : Reads (stringValue depth) (printString s) s where
  opens := ⟨0x22, _, encode_printString s, rfl, by decide⟩
  read := by
    intro rest _
    rw [encode_printString, List.cons_append, stringValue, firstByte_cons rfl]
    exact readString_printed s rest

theorem reads_bool (value : Bool) (depth : Nat) :
    Reads (boolValue depth) (print (.bool value)) value where
  opens := by cases value <;> exact ⟨_, _, rfl, rfl, by decide⟩
  read := by
    intro rest _
    cases value <;> rfl

theorem reads_number {expected : String} {accept : JsonNumber → Except Cause α} {value : Int} {kept : α}
    (held : holds value = true) (accepts : accept (.int value) = .ok kept) (depth : Nat) :
    Reads (numberValue expected accept depth) (print (.number (.int value))) kept := by
  rcases readNumber_printed held with ⟨b, tail, written, digit, read⟩ | ⟨tail, written, read⟩
  · have visible := isBlank_of_isDigit digit
    refine ⟨⟨b, tail, written, visible, ne_of_isDigit digit rfl⟩, fun rest ends => ?_⟩
    rw [print, written, List.cons_append, numberValue, firstByte_cons visible]
    simp only [bind, Except.bind, ne_of_isDigit digit (c := 0x2D) rfl, digit, if_true, if_false,
      read rest ends, accepts]
  · refine ⟨⟨0x2D, tail, written, rfl, by decide⟩, fun rest ends => ?_⟩
    rw [print, written, List.cons_append, numberValue, firstByte_cons rfl]
    simp only [bind, Except.bind, if_true, read rest ends, accepts]

theorem holds_uint32 (n : UInt32) : holds n.toNat = true := by
  have bound := n.toNat_lt
  simp only [holds, Bool.and_eq_true, decide_eq_true_eq]
  constructor
  · omega
  · exact Int.ofNat_le.mpr (by simp only [maxSignificand, UInt64.size]; omega)

theorem acceptUnsigned_natCast {n bound : Nat} (below : n < bound) (expected : String) :
    acceptUnsigned expected bound (.int n) = .ok n := by
  have within : (n : Int) < bound := Int.ofNat_lt.mpr below
  simp [acceptUnsigned, within]

theorem reads_uint32 (n : UInt32) (depth : Nat) :
    Reads (uint32Value depth) (print (.number (.int n.toNat))) n := by
  refine reads_number (holds_uint32 n) ?_ depth
  rw [acceptUnsigned_natCast n.toNat_lt_size, Except.map, UInt32.ofNat_toNat]

/-- A value that is present is read as that, if its word cannot be taken for `null`. -/
theorem Reads.present {decoder : Decoder α} {depth : Nat} (reads : Reads (decoder depth) word value)
    (other : ∀ tail, Utf8.encode word ≠ 0x6E :: tail) :
    Reads (optionValue decoder depth) word (some value) := by
  obtain ⟨b, tail, written, visible, -⟩ := reads.opens
  refine ⟨reads.opens, fun rest ends => ?_⟩
  have not_null : b ≠ 0x6E := by
    rintro rfl
    exact other tail written
  have read := reads.read rest ends
  rw [written, List.cons_append] at read ⊢
  simp only [optionValue, skipBlank_cons visible]
  split
  next same => exact absurd (List.cons.inj same).1 not_null
  next => simp [read, Except.map]

theorem reads_some_string (s : String) (depth : Nat) :
    Reads (optionValue stringValue depth) (print (.string s)) (some s) :=
  (reads_string s depth).present fun _ same => absurd (List.cons.inj same).1 (by decide)

theorem reads_some_bool (value : Bool) (depth : Nat) :
    Reads (optionValue boolValue depth) (print (.bool value)) (some value) := by
  refine (reads_bool value depth).present fun tail same => ?_
  cases value
  · exact absurd (List.cons.inj same).1 (by decide)
  · exact absurd (List.cons.inj same).1 (by decide)

theorem reads_some_uint32 (n : UInt32) (depth : Nat) :
    Reads (optionValue uint32Value depth) (print (.number (.int n.toNat))) (some n) := by
  refine (reads_uint32 n depth).present fun tail same => ?_
  obtain ⟨b, more, written, digit⟩ := encode_toDigits n.toNat
  rw [print, printNumber_ofNat, written] at same
  exact ne_of_isDigit digit rfl (List.cons.inj same).1

/-! ## Words between brackets -/

/-- Words with commas between them, and one in front unless they are the first ones. -/
def commas : Bool → List (List Char) → List Char
  | _, [] => []
  | true, word :: words => word ++ commas false words
  | false, word :: words => ',' :: (word ++ commas false words)

theorem encode_commas_cons (first : Bool) (word : List Char) (words : List (List Char)) :
    Utf8.encode (commas first (word :: words)) =
      (if first then [] else [0x2C]) ++ (Utf8.encode word ++ Utf8.encode (commas false words)) := by
  rw [← Utf8.encode_append]
  cases first <;> rfl

/-- Between brackets a word ends at a comma or at the bracket. -/
theorem ends_commas (words : List (List Char)) {close : UInt8}
    (closes : close = 0x5D ∨ close = 0x7D) (rest : List UInt8) :
    Ends (Utf8.encode (commas false words) ++ close :: rest) := by
  cases words with
  | nil => exact Or.inr closes
  | cons word words => exact Or.inl rfl

/-- Going on to the next word shortens the input. -/
theorem length_commas {word : List Char} (filled : Utf8.encode word ≠ []) (first : Bool)
    (words : List (List Char)) (rest : List UInt8) :
    (Utf8.encode (commas false words) ++ rest).length <
      (Utf8.encode (commas first (word :: words)) ++ rest).length := by
  have positive := List.length_pos_iff.mpr filled
  rw [encode_commas_cons]
  simp only [List.length_append]
  omega

/-! ## Lists -/

def listText (words : List (List Char)) : List Char := '[' :: (commas true words ++ [']'])

theorem printItems_eq (items : List Json) : printItems items = commas true (items.map print) := by
  induction items with
  | nil => rfl
  | cons item items ih =>
    cases items with
    | nil => exact (List.append_nil _).symm
    | cons next items => rw [printItems, ih]; rfl

theorem print_array (items : List Json) : print (.array items) = listText (items.map print) := by
  rw [print, printItems_eq, listText]

/-- The next item is found, whether it is the first one or follows a comma. -/
theorem nextItem?_word (reads : Reads reader word value) (first : Bool) (words : List (List Char))
    (rest : List UInt8) :
    nextItem? first (Utf8.encode (commas first (word :: words)) ++ rest) =
      .ok (some (Utf8.encode word ++ (Utf8.encode (commas false words) ++ rest))) := by
  obtain ⟨b, tail, written, visible, other⟩ := reads.opens
  have comma : isBlank 0x2C = false := rfl
  rw [encode_commas_cons, written]
  cases first
  · simp [nextItem?, skipBlank_cons comma, skipBlank_cons visible, other]
  · simp [nextItem?, skipBlank_cons visible, other]

/-- Items are read up to the bracket. -/
theorem readItems_commas {item : Reader α} {word : α → List Char} {values : List α}
    (reads : ∀ value ∈ values, Reads item (word value) value) (rest : List UInt8) {fuel : Nat}
    (first : Bool)
    (enough : (Utf8.encode (commas first (values.map word)) ++ 0x5D :: rest).length < fuel) :
    readItems item fuel first (Utf8.encode (commas first (values.map word)) ++ 0x5D :: rest) =
      .ok (values, 0x5D :: rest) := by
  induction values generalizing fuel first with
  | nil =>
    obtain ⟨fuel, rfl⟩ := Nat.exists_eq_add_of_lt enough
    rfl
  | cons value values ih =>
    obtain ⟨fuel, rfl⟩ : ∃ n, fuel = n + 1 := ⟨fuel - 1, by omega⟩
    have own := reads value List.mem_cons_self
    have shorter := length_commas own.filled first (values.map word) (0x5D :: rest)
    rw [List.map_cons] at enough ⊢
    have room : (Utf8.encode (commas false (values.map word)) ++ 0x5D :: rest).length < fuel := by
      omega
    have later := ih (fun v member => reads v (List.mem_cons_of_mem value member)) false room
    rw [readItems, nextItem?_word own]
    simp only [own.read _ (ends_commas _ (Or.inl rfl) rest), later, Except.map]

/-- A list is read after its bracket. -/
theorem readList_commas {item : Reader α} {word : α → List Char} {values : List α}
    (reads : ∀ value ∈ values, Reads item (word value) value) (rest : List UInt8) :
    readList item (Utf8.encode (commas true (values.map word) ++ [']']) ++ rest) =
      .ok (values, rest) := by
  have close : Utf8.encode [']'] ++ rest = 0x5D :: rest := rfl
  rw [Utf8.encode_append, List.append_assoc, close, readList,
    readItems_commas reads rest true (Nat.lt_succ_self _)]
  rfl

theorem encode_listText (words : List (List Char)) :
    Utf8.encode (listText words) = 0x5B :: Utf8.encode (commas true words ++ [']']) := rfl

theorem reads_list {item : Decoder α} {word : α → List Char} {values : List α} {depth : Nat}
    (reads : ∀ value ∈ values, Reads (item depth) (word value) value) (positive : 0 < depth) :
    Reads (listValue item (depth + 1)) (listText (values.map word)) values where
  opens := ⟨0x5B, _, encode_listText _, rfl, by decide⟩
  read := by
    intro rest _
    have open_bracket : ¬ depth + 1 ≤ 1 := by omega
    rw [encode_listText, List.cons_append, listValue, firstByte_cons rfl]
    simp only [bind, Except.bind, if_true, nested, open_bracket, if_false, Nat.add_sub_cancel]
    exact readList_commas reads rest

/-! ## Objects -/

def entryText (entry : String × List Char) : List Char := printString entry.1 ++ ':' :: entry.2

def objectText (entries : List (String × List Char)) : List Char :=
  '{' :: (commas true (entries.map entryText) ++ ['}'])

theorem printEntries_eq (entries : List (String × Json)) : printEntries entries =
    commas true (entries.map fun entry => entryText (entry.1, entry.2.print)) := by
  induction entries with
  | nil => rfl
  | cons entry entries ih =>
    obtain ⟨key, value⟩ := entry
    cases entries with
    | nil => exact (List.append_nil _).symm
    | cons next entries =>
      rw [printEntries, ih]
      simp [commas, entryText]

theorem print_object (entries : List (String × Json)) : print (.object entries) =
    objectText (entries.map fun entry => (entry.1, entry.2.print)) := by
  rw [print, printEntries_eq, objectText, List.map_map]
  rfl

theorem encode_entryText (entry : String × List Char) : Utf8.encode (entryText entry) =
    0x22 :: (Utf8.encode (entry.1.toList.flatMap escapeChar ++ ['"']) ++
      0x3A :: Utf8.encode entry.2) := by
  rw [entryText, Utf8.encode_append]
  rfl

/-- The next key is found, whether it is the first one or follows a comma. -/
theorem nextKey?_entry (entry : String × List Char) (first : Bool) (words : List (List Char))
    (rest : List UInt8) :
    nextKey? first (Utf8.encode (commas first (entryText entry :: words)) ++ rest) =
      .ok (some (Utf8.encode (entry.1.toList.flatMap escapeChar ++ ['"']) ++
        0x3A :: (Utf8.encode entry.2 ++ (Utf8.encode (commas false words) ++ rest)))) := by
  rw [encode_commas_cons, encode_entryText]
  cases first <;> simp [nextKey?, skipBlank, isBlank]

theorem readColon_colon (rest : List UInt8) : readColon (0x3A :: rest) = .ok rest := rfl

theorem entryText_filled (entry : String × List Char) : Utf8.encode (entryText entry) ≠ [] := by
  rw [encode_entryText]
  exact List.cons_ne_nil _ _

/-- Entries are read up to the bracket. -/
theorem readEntries_commas {value : Reader α} {word : α → List Char} {entries : List (String × α)}
    (reads : ∀ entry ∈ entries, Reads value (word entry.2) entry.2) (rest : List UInt8) {fuel : Nat}
    (first : Bool)
    (enough : (Utf8.encode (commas first (entries.map fun e => entryText (e.1, word e.2))) ++
      0x7D :: rest).length < fuel) :
    readEntries value fuel first
        (Utf8.encode (commas first (entries.map fun e => entryText (e.1, word e.2))) ++ 0x7D :: rest) =
      .ok (entries, 0x7D :: rest) := by
  induction entries generalizing fuel first with
  | nil =>
    obtain ⟨fuel, rfl⟩ := Nat.exists_eq_add_of_lt enough
    rfl
  | cons entry entries ih =>
    obtain ⟨fuel, rfl⟩ : ∃ n, fuel = n + 1 := ⟨fuel - 1, by omega⟩
    have own := reads entry List.mem_cons_self
    have shorter := length_commas (entryText_filled (entry.1, word entry.2)) first
      (entries.map fun e => entryText (e.1, word e.2)) (0x7D :: rest)
    rw [List.map_cons] at enough ⊢
    have room : (Utf8.encode (commas false (entries.map fun e => entryText (e.1, word e.2))) ++
        0x7D :: rest).length < fuel := by
      omega
    have later := ih (fun e member => reads e (List.mem_cons_of_mem entry member)) false room
    rw [readEntries, nextKey?_entry]
    simp only [readString_printed, readColon_colon, own.read _ (ends_commas _ (Or.inr rfl) rest), later,
      Except.map]

/-- An object is read after its bracket. -/
theorem readObject_commas {value : Reader α} {word : α → List Char} {entries : List (String × α)}
    (reads : ∀ entry ∈ entries, Reads value (word entry.2) entry.2) (rest : List UInt8) :
    readObject value (Utf8.encode
        (commas true (entries.map fun e => entryText (e.1, word e.2)) ++ ['}']) ++ rest) =
      .ok (entries, rest) := by
  have close : Utf8.encode ['}'] ++ rest = 0x7D :: rest := rfl
  rw [Utf8.encode_append, List.append_assoc, close, readObject,
    readEntries_commas reads rest true (Nat.lt_succ_self _)]
  rfl

theorem encode_objectText (entries : List (String × List Char)) :
    Utf8.encode (objectText entries) =
      0x7B :: Utf8.encode (commas true (entries.map entryText) ++ ['}']) := rfl

/-! ## Records -/

/-- Entries whose words take a draft to another one, each through a field that is still missing. -/
inductive Fills (r : Record σ α) (depth : Nat) : σ → List (String × List Char) → σ → Prop
  | done (draft : σ) : Fills r depth draft [] draft
  | field {draft next last : σ} {field : Field σ} {name : String} {word : List Char}
      {entries : List (String × List Char)}
      (known : r.fields.find? (fun field => field.name = name) = some field)
      (missing : field.isSet draft = false) (reads : Reads (field.read draft depth) word next)
      (others : Fills r depth next entries last) :
      Fills r depth draft ((name, word) :: entries) last

namespace Fills

variable {r : Record σ α} {depth : Nat} {draft last : σ} {entries : List (String × List Char)}

theorem append {middle : σ} {more : List (String × List Char)} (fills : Fills r depth draft entries middle)
    (others : Fills r depth middle more last) : Fills r depth draft (entries ++ more) last := by
  induction fills with
  | done draft => exact others
  | field known missing reads _ ih => exact .field known missing reads (ih others)

/-- Entries are read into the draft up to the bracket. -/
theorem readEntries (fills : Fills r depth draft entries last) (rest : List UInt8) {fuel : Nat}
    (first : Bool)
    (enough : (Utf8.encode (commas first (entries.map entryText)) ++ 0x7D :: rest).length < fuel) :
    r.readEntries depth fuel first draft
        (Utf8.encode (commas first (entries.map entryText)) ++ 0x7D :: rest) =
      .ok (last, 0x7D :: rest) := by
  induction fills generalizing fuel first with
  | done draft =>
    obtain ⟨fuel, rfl⟩ := Nat.exists_eq_add_of_lt enough
    rfl
  | @field draft next last field name word entries known missing reads others ih =>
    obtain ⟨fuel, rfl⟩ : ∃ n, fuel = n + 1 := ⟨fuel - 1, by omega⟩
    have shorter := length_commas (entryText_filled (name, word)) first (entries.map entryText)
      (0x7D :: rest)
    rw [List.map_cons] at enough ⊢
    have room : (Utf8.encode (commas false (entries.map entryText)) ++ 0x7D :: rest).length < fuel := by
      omega
    have later := ih false room
    rw [Record.readEntries, nextKey?_entry]
    simp only [readString_printed, Record.readEntry, known, missing, Bool.false_eq_true, if_false,
      readColon_colon, bind, Except.bind, reads.read _ (ends_commas _ (Or.inr rfl) rest), later]

end Fills

/-- One entry fills the field that reads its word. -/
theorem Fills.entry {r : Record σ α} {depth : Nat} {draft : σ} {name : String} {field : Field σ}
    {decoder : Decoder β} {value : β} (put : β → σ)
    (known : r.fields.find? (fun field => field.name = name) = some field)
    (missing : field.isSet draft = false)
    (same : field.read draft = fun depth input =>
      (decoder depth input).map fun (value, rest) => (put value, rest))
    (reads : Reads (decoder depth) word value) :
    Fills r depth draft [(name, word)] (put value) := by
  refine .field known missing ?_ (.done _)
  rw [same]
  exact reads.map put

/-- A record is read from an object if its entries make a draft of which the value can be built. -/
theorem Fills.reads {r : Record σ α} {depth : Nat} {entries : List (String × List Char)} {last : σ}
    (fills : Fills r (depth + 1) r.start entries last)
    (built : r.build last = .ok value) :
    Reads (r.decoder (depth + 2)) (objectText entries) value where
  opens := ⟨0x7B, _, encode_objectText _, rfl, by decide⟩
  read := by
    intro rest _
    have close : Utf8.encode ['}'] ++ rest = 0x7D :: rest := rfl
    have open_bracket : ¬ depth + 2 ≤ 1 := by omega
    have not_list : ¬ (0x7B : UInt8) = 0x5B := by decide
    have finish : finishObject (.ok (value, 0x7D :: rest)) = .ok (value, rest) := rfl
    rw [encode_objectText, List.cons_append, Record.decoder, firstByte_cons rfl, Utf8.encode_append,
      List.append_assoc, close]
    simp only [bind, Except.bind, not_list, if_true, if_false, nested, open_bracket]
    rw [Record.readObject, show depth + 2 - 1 = depth + 1 from rfl,
      fills.readEntries rest true (Nat.lt_succ_self _)]
    simp only [built, finish]

end MapSidebar.Json
