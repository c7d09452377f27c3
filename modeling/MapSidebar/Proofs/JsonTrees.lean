import MapSidebar.Proofs.JsonText
import MapSidebar.Proofs.SortedEntries

/-!
# Trees read back

A value is read back from its text whatever it holds, if its numbers are integers that the format can
hold and its brackets are not nested too deep. It denotes itself if the entries of every object in it
are in order.
-/
namespace MapSidebar.Json

mutual

/-- Whether something holds of a value and of every value inside it. -/
def all (p : Json → Bool) : Json → Bool
  | .null => p .null
  | .bool value => p (.bool value)
  | .number value => p (.number value)
  | .string value => p (.string value)
  | .array items => p (.array items) && allItems p items
  | .object entries => p (.object entries) && allEntries p entries

/-- Whether something holds of every value inside a list. -/
def allItems (p : Json → Bool) : List Json → Bool
  | [] => true
  | item :: items => all p item && allItems p items

def allEntries (p : Json → Bool) : List (String × Json) → Bool
  | [] => true
  | (_, value) :: entries => all p value && allEntries p entries

end

mutual

/-- How deep the brackets of a value are nested. -/
def depth : Json → Nat
  | .null => 0
  | .bool _ => 0
  | .number _ => 0
  | .string _ => 0
  | .array items => depthItems items + 1
  | .object entries => depthEntries entries + 1

def depthItems : List Json → Nat
  | [] => 0
  | item :: items => max (depth item) (depthItems items)

def depthEntries : List (String × Json) → Nat
  | [] => 0
  | (_, value) :: entries => max (depth value) (depthEntries entries)

end

/-- Whether a value is no number, or an integer that the format can hold. -/
def isWhole : Json → Bool
  | .number (.int value) => holds value
  | .number (.float _) => false
  | _ => true

/-- Whether a value is no object, or its entries are in order. -/
def isSorted : Json → Bool
  | .object entries => decide (InOrder entries)
  | _ => true

/-- No number with a fraction or an exponent, and none out of range. -/
abbrev Whole (value : Json) : Prop := value.all isWhole = true

/-- The entries of every object are in order. -/
abbrev Sorted (value : Json) : Prop := value.all isSorted = true

variable {p : Json → Bool} {items : List Json} {entries : List (String × Json)}

theorem allItems_iff : allItems p items = true ↔ ∀ item ∈ items, item.all p = true := by
  induction items with
  | nil => simp [allItems]
  | cons item items ih => simp [allItems, ih]

theorem allEntries_iff : allEntries p entries = true ↔ ∀ entry ∈ entries, entry.2.all p = true := by
  induction entries with
  | nil => simp [allEntries]
  | cons entry entries ih => simp [allEntries, ih]

theorem all_array : (array items).all p = true ↔
    p (.array items) = true ∧ ∀ item ∈ items, item.all p = true := by
  rw [all, Bool.and_eq_true, allItems_iff]

theorem all_object : (object entries).all p = true ↔
    p (.object entries) = true ∧ ∀ entry ∈ entries, entry.2.all p = true := by
  rw [all, Bool.and_eq_true, allEntries_iff]

theorem depth_le_items {item : Json} (member : item ∈ items) : item.depth ≤ depthItems items := by
  induction items with
  | nil => cases member
  | cons first items ih =>
    rw [depthItems]
    rcases List.mem_cons.mp member with rfl | later
    · exact Nat.le_max_left _ _
    · exact Nat.le_trans (ih later) (Nat.le_max_right _ _)

theorem depth_le_entries {entry : String × Json} (member : entry ∈ entries) :
    entry.2.depth ≤ depthEntries entries := by
  induction entries with
  | nil => cases member
  | cons first entries ih =>
    rw [depthEntries]
    rcases List.mem_cons.mp member with rfl | later
    · exact Nat.le_max_left _ _
    · exact Nat.le_trans (ih later) (Nat.le_max_right _ _)

/-- What holds of a value whenever it holds of the values inside it holds of every value. -/
@[elab_as_elim]
theorem induct {motive : Json → Prop} (null : motive .null) (bool : ∀ value, motive (.bool value))
    (number : ∀ value, motive (.number value)) (string : ∀ value, motive (.string value))
    (array : ∀ items, (∀ item ∈ items, motive item) → motive (.array items))
    (object : ∀ entries, (∀ entry ∈ entries, motive entry.2) → motive (.object entries)) :
    ∀ value, motive value
  | .null => null
  | .bool value => bool value
  | .number value => number value
  | .string value => string value
  | .array items =>
    array items fun item _ => induct null bool number string array object item
  | .object entries =>
    object entries fun entry _ => induct null bool number string array object entry.2
termination_by value => sizeOf value
decreasing_by
  · have smaller := List.sizeOf_lt_of_mem ‹item ∈ items›
    simp only [Json.array.sizeOf_spec]
    omega
  · have smaller := List.sizeOf_lt_of_mem ‹entry ∈ entries›
    have inside : sizeOf entry.2 < sizeOf entry := by
      cases entry
      simp only [Prod.mk.sizeOf_spec]
      omega
    simp only [Json.object.sizeOf_spec]
    omega

/-! ## Reading -/

theorem readTree_scalar {b : UInt8} (visible : isBlank b = false) (not_list : b ≠ 0x5B)
    (not_object : b ≠ 0x7B) (depth : Nat) (rest : List UInt8) :
    readTree (depth + 1) (b :: rest) = readScalar b rest := by
  simp [readTree, skipBlank_cons visible, not_list, not_object]

theorem readTree_list {depth : Nat} (room : 0 < depth) (rest : List UInt8) :
    readTree (depth + 1) (0x5B :: rest) =
      (readList (readTree depth) rest).map fun (items, rest) => (Json.array items, rest) := by
  have bracket : isBlank 0x5B = false := rfl
  simp [readTree, skipBlank_cons bracket, Nat.ne_of_gt room]

theorem readTree_object {depth : Nat} (room : 0 < depth) (rest : List UInt8) :
    readTree (depth + 1) (0x7B :: rest) =
      (readObject (readTree depth) rest).map fun (entries, rest) => (Json.object entries, rest) := by
  have bracket : isBlank 0x7B = false := rfl
  simp [readTree, skipBlank_cons bracket, Nat.ne_of_gt room]

theorem readScalar_digit {b : UInt8} (digit : isDigit b = true) (rest : List UInt8) :
    readScalar b rest = (readNumber true (b :: rest)).map fun (n, rest) => (Json.number n, rest) := by
  simp [readScalar, digit, ne_of_isDigit digit (c := 0x6E) rfl, ne_of_isDigit digit (c := 0x74) rfl,
    ne_of_isDigit digit (c := 0x66) rfl, ne_of_isDigit digit (c := 0x2D) rfl]

theorem readScalar_minus (rest : List UInt8) :
    readScalar 0x2D rest = (readNumber false rest).map fun (n, rest) => (Json.number n, rest) := rfl

theorem readScalar_quote (rest : List UInt8) :
    readScalar 0x22 rest = (readString rest).map fun (s, rest) => (Json.string s, rest) := rfl

/-- An integer is read back from its digits. -/
theorem reads_tree_int {value : Int} (held : holds value = true) (depth : Nat) :
    Reads (readTree (depth + 1)) (print (.number (.int value))) (.number (.int value)) := by
  rcases readNumber_printed held with ⟨b, tail, written, digit, read⟩ | ⟨tail, written, read⟩
  · have visible := isBlank_of_isDigit digit
    refine ⟨⟨b, tail, written, visible, ne_of_isDigit digit rfl⟩, fun rest ends => ?_⟩
    rw [print, written, List.cons_append, readTree_scalar visible (ne_of_isDigit digit rfl)
      (ne_of_isDigit digit rfl), readScalar_digit digit, read rest ends]
    rfl
  · refine ⟨⟨0x2D, tail, written, rfl, by decide⟩, fun rest ends => ?_⟩
    rw [print, written, List.cons_append, readTree_scalar rfl (by decide) (by decide),
      readScalar_minus, read rest ends]
    rfl

/-- A value is read back from its text. -/
theorem reads_tree (value : Json) (whole : value.Whole) {depth : Nat} (shallow : value.depth < depth) :
    Reads (readTree depth) value.print value := by
  induction value using induct generalizing depth with
  | null =>
    obtain ⟨depth, rfl⟩ := Nat.exists_eq_add_of_lt shallow
    exact ⟨⟨_, _, rfl, rfl, by decide⟩, fun rest _ => rfl⟩
  | bool value =>
    obtain ⟨depth, rfl⟩ := Nat.exists_eq_add_of_lt shallow
    refine ⟨(reads_bool value 0).opens, fun rest _ => ?_⟩
    cases value <;> rfl
  | number value =>
    obtain ⟨depth, rfl⟩ := Nat.exists_eq_add_of_lt shallow
    cases value with
    | float value => simp [Whole, all, isWhole] at whole
    | int value => exact reads_tree_int whole _
  | string value =>
    obtain ⟨depth, rfl⟩ := Nat.exists_eq_add_of_lt shallow
    refine ⟨(reads_string value 0).opens, fun rest _ => ?_⟩
    rw [print, encode_printString, List.cons_append, readTree_scalar rfl (by decide) (by decide),
      readScalar_quote, readString_printed]
    rfl
  | array items ih =>
    obtain ⟨-, inside⟩ := all_array.mp whole
    obtain ⟨depth, rfl⟩ : ∃ n, depth = n + 1 := ⟨depth - 1, by omega⟩
    have room : depthItems items < depth := Nat.lt_of_succ_lt_succ shallow
    rw [print_array]
    refine ⟨⟨0x5B, _, encode_listText _, rfl, by decide⟩, fun rest _ => ?_⟩
    have reads : ∀ item ∈ items, Reads (readTree depth) item.print item := fun item member =>
      ih item member (inside item member) (Nat.lt_of_le_of_lt (depth_le_items member) room)
    rw [encode_listText, List.cons_append, readTree_list (Nat.zero_lt_of_lt room),
      readList_commas reads]
    rfl
  | object entries ih =>
    obtain ⟨-, inside⟩ := all_object.mp whole
    obtain ⟨depth, rfl⟩ : ∃ n, depth = n + 1 := ⟨depth - 1, by omega⟩
    have room : depthEntries entries < depth := Nat.lt_of_succ_lt_succ shallow
    have written : Utf8.encode (print (.object entries)) = 0x7B :: Utf8.encode
        (commas true (entries.map fun entry => entryText (entry.1, entry.2.print)) ++ ['}']) := by
      rw [print, printEntries_eq]
      rfl
    refine ⟨⟨0x7B, _, written, rfl, by decide⟩, fun rest _ => ?_⟩
    have reads : ∀ entry ∈ entries, Reads (readTree depth) entry.2.print entry.2 :=
      fun entry member =>
        ih entry member (inside entry member) (Nat.lt_of_le_of_lt (depth_le_entries member) room)
    rw [written, List.cons_append, readTree_object (Nat.zero_lt_of_lt room),
      readObject_commas reads]
    rfl

/-! ## What a value denotes -/

theorem canonicalItems_eq (items : List Json) : canonicalItems items = items.map canonical := by
  induction items with
  | nil => rfl
  | cons item items ih => rw [canonicalItems, ih, List.map_cons]

theorem canonicalEntries_eq (entries : List (String × Json)) :
    canonicalEntries entries = entries.map fun entry => (entry.1, entry.2.canonical) := by
  induction entries with
  | nil => rfl
  | cons entry entries ih => rw [canonicalEntries, ih, List.map_cons]

/-- A value whose objects are in order denotes itself. -/
theorem canonical_of_sorted (value : Json) (sorted : value.Sorted) : value.canonical = value := by
  induction value using induct with
  | null => rfl
  | bool value => rfl
  | number value => rfl
  | string value => rfl
  | array items ih =>
    obtain ⟨-, inside⟩ := all_array.mp sorted
    rw [canonical, canonicalItems_eq, List.map_congr_left fun item member =>
      ih item member (inside item member), List.map_id']
  | object entries ih =>
    obtain ⟨own, inside⟩ := all_object.mp sorted
    have same : entries.map (fun entry => (entry.1, entry.2.canonical)) = entries := by
      rw [List.map_congr_left fun entry member => by rw [ih entry member (inside entry member)],
        List.map_id']
    rw [canonical, canonicalEntries_eq, same, sortEntries_of_inOrder (of_decide_eq_true own)]

/-- Items whose objects are in order denote themselves. -/
theorem canonicalItems_of_sorted (sorted : ∀ item ∈ items, item.Sorted) :
    canonicalItems items = items := by
  rw [canonicalItems_eq, List.map_congr_left fun item member =>
    canonical_of_sorted item (sorted item member), List.map_id']

/-- Entries in whose values all objects are in order denote themselves. -/
theorem canonicalEntries_of_sorted (sorted : ∀ entry ∈ entries, entry.2.Sorted) :
    canonicalEntries entries = entries := by
  rw [canonicalEntries_eq, List.map_congr_left fun entry member => by
    rw [canonical_of_sorted entry.2 (sorted entry member)], List.map_id']

end MapSidebar.Json
