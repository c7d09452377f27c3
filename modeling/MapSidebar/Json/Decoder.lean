import MapSidebar.Json.Reader
import MapSidebar.Json.Skip

/-!
# Readers of typed values

Readers for text, truth values, numbers, optional values, lists of a fixed length, words of a fixed
set, and records. A record is read from an object or from a list of its fields in order. Unknown
fields of an object are passed over and a repeated known field is a fault; fields that a record can
do without may be missing, in a list only at its end.
-/
namespace MapSidebar.Json

/-- The first byte of a value and what follows it. -/
def firstByte (input : List UInt8) : Except Stop (UInt8 × List UInt8) :=
  match skipBlank input with
  | [] => stopNext .endInValue []
  | b :: rest => .ok (b, rest)

def stringValue : Decoder String := fun _ input => do
  let (b, rest) ← firstByte input
  if b = 0x22 then readString rest else wrongType "a string" b rest

def boolValue : Decoder Bool := fun _ input => do
  let (b, rest) ← firstByte input
  if b = 0x74 then (readWord afterT rest).map (true, ·)
  else if b = 0x66 then (readWord afterF rest).map (false, ·)
  else wrongType "a boolean" b rest

/-- Reads a number and keeps what `accept` makes of it. -/
def numberValue {α : Type} (expected : String) (accept : JsonNumber → Except Cause α) : Decoder α :=
  fun _ input => do
    let (b, rest) ← firstByte input
    let finish : JsonNumber × List UInt8 → Except Stop (α × List UInt8)
      | (value, rest) => match accept value with
        | .ok kept => .ok (kept, rest)
        | .error cause => stopHere cause rest
    if b = 0x2D then finish (← readNumber false rest)
    else if isDigit b then finish (← readNumber true (b :: rest))
    else wrongType expected b rest

/-- The whole number from zero to below `bound` that a number is. -/
def acceptUnsigned (expected : String) (bound : Nat) : JsonNumber → Except Cause Nat
  | .int value =>
    if 0 ≤ value && value < (bound : Int) then .ok value.toNat
    else .error (.invalidValue (.number (.int value)) expected)
  | .float value => .error (.invalidType (.number (.float value)) expected)

def uint32Value : Decoder UInt32 :=
  numberValue "u32" fun value => (acceptUnsigned "u32" UInt32.size value).map UInt32.ofNat

def uint64Value : Decoder UInt64 :=
  numberValue "u64" fun value => (acceptUnsigned "u64" UInt64.size value).map UInt64.ofNat

/-- The double nearest to an integer. -/
def floatOfInt (value : Int) : Float :=
  if value < 0 then -(Float.ofNat value.natAbs) else Float.ofNat value.natAbs

def floatValue : Decoder Float :=
  numberValue "f64" fun
    | .int value => .ok (floatOfInt value)
    | .float value => .ok value

/-- Reads `null` as nothing and any other value with `decoder`. -/
def optionValue {α : Type} (decoder : Decoder α) : Decoder (Option α) := fun depth input =>
  match skipBlank input with
  | 0x6E :: rest => (readWord afterN rest).map (none, ·)
  | rest => (decoder depth rest).map fun (value, rest) => (some value, rest)

/-- Opens a bracket whose content is read by `inside`. -/
def nested {α : Type} (inside : Nat → Reader α) (depth : Nat) (b : UInt8) (rest : List UInt8) :
    Except Stop (α × List UInt8) :=
  if depth ≤ 1 then stopNext .tooDeep (b :: rest) else inside (depth - 1) rest

def listValue {α : Type} (item : Decoder α) : Decoder (List α) := fun depth input => do
  let (b, rest) ← firstByte input
  if b = 0x5B then nested (fun depth => readList (item depth)) depth b rest
  else wrongType "a sequence" b rest

/-- Reads `wanted` more items, of which the next has the given index. -/
def readExactly {α : Type} (expected : String) (item : Reader α) : Nat → Nat → Reader (List α)
  | _, 0, rest => .ok ([], rest)
  | index, wanted + 1, input =>
    match nextItem? (index = 0) input with
    | .error stop => .error stop
    | .ok none => .error (.loose (.invalidLength index expected) input)
    | .ok (some input) =>
      match item input with
      | .error stop => .error stop
      | .ok (value, rest) =>
        (readExactly expected item (index + 1) wanted rest).map fun (values, rest) =>
          (value :: values, rest)

/-- Reads a list of exactly `length` items. -/
def arrayValue {α : Type} (length : Nat) (item : Decoder α) : Decoder (List α) :=
  let expected := "an array of length " ++ toString length
  fun depth input => do
    let (b, rest) ← firstByte input
    if b = 0x5B then
      nested (fun depth input => finishList (readExactly expected (item depth) 0 length input))
        depth b rest
    else wrongType expected b rest

/-- Reads a word of a set, alone or as the only key of an object with the value `null`. -/
def wordValue {α : Type} (choose : String → Except Cause α) : Decoder α :=
  let word : Reader α := fun input => do
    let (name, rest) ← readString input
    match choose name with
    | .ok value => .ok (value, rest)
    | .error cause => stopHere cause rest
  let boxed : Nat → Reader α := fun _ input => do
    let key ← match skipBlank input with
      | [] => stopNext .endInObject []
      | 0x22 :: rest => .ok rest
      | 0x7D :: rest => stopNext .expectedValue (0x7D :: rest)
      | rest => stopNext .keyNotString rest
    let (value, rest) ← word key
    let rest ← readColon rest
    let (b, rest) ← firstByte rest
    let rest ← if b = 0x6E then readWord afterN rest else wrongType "unit" b rest
    match skipBlank rest with
    | [] => stopHere .endInObject []
    | b :: rest => if b = 0x7D then .ok (value, rest) else stopHere .expectedValue (b :: rest)
  fun depth input => do
    let (b, rest) ← firstByte input
    if b = 0x7B then nested boxed depth b rest
    else if b = 0x22 then word rest
    else stopNext .expectedValue (b :: rest)

/-! ## Records -/

/-- One field of a record that is read into a draft `σ`. -/
structure Field (σ : Type) where
  name : String
  /-- Whether the draft has it already. -/
  isSet : σ → Bool
  /-- Reads its value into the draft. -/
  read : σ → Decoder σ

/-- A record: its name, its fields in order, the draft to begin with, and how a draft becomes a
value, or which field it still lacks. -/
structure Record (σ α : Type) where
  name : String
  fields : List (Field σ)
  start : σ
  build : σ → Except String α

namespace Record

variable {σ α : Type}

def label (r : Record σ α) : String := "struct " ++ r.name

/-- What a record that is read from a list is called in messages. -/
def listLabel (r : Record σ α) : String :=
  r.label ++ " with " ++ toString r.fields.length ++
    (if r.fields.length = 1 then " element" else " elements")

def readEntry (r : Record σ α) (depth : Nat) (draft : σ) (key : String) : Reader σ := fun input =>
  match r.fields.find? (fun field => field.name = key) with
  | none => do
    let rest ← readColon input
    (skipValue rest).map (draft, ·)
  | some field =>
    if field.isSet draft then .error (.loose (.duplicateField key) input)
    else do
      let rest ← readColon input
      field.read draft depth rest

def readEntries (r : Record σ α) (depth : Nat) : Nat → Bool → σ → Reader σ
  | 0, _, _, rest => stopHere .endInObject rest
  | fuel + 1, first, draft, input =>
    match nextKey? first input with
    | .error stop => .error stop
    | .ok none => .ok (draft, input)
    | .ok (some input) =>
      match readString input with
      | .error stop => .error stop
      | .ok (key, rest) =>
        match r.readEntry depth draft key rest with
        | .error stop => .error stop
        | .ok (draft, rest) => readEntries r depth fuel false draft rest

def readObject (r : Record σ α) (depth : Nat) : Reader α := fun input =>
  finishObject <|
    match r.readEntries depth (input.length + 1) true r.start input with
    | .error stop => .error stop
    | .ok (draft, rest) =>
      match r.build draft with
      | .ok value => .ok (value, rest)
      | .error name => .error (.loose (.missingField name) rest)

/-- Reads the fields that a list gives, in order. -/
def readFields (depth : Nat) : List (Field σ) → Bool → σ → Reader σ
  | [], _, draft, rest => .ok (draft, rest)
  | field :: fields, first, draft, input =>
    match nextItem? first input with
    | .error stop => .error stop
    | .ok none => .ok (draft, input)
    | .ok (some input) =>
      match field.read draft depth input with
      | .error stop => .error stop
      | .ok (draft, rest) => readFields depth fields false draft rest

def readList (r : Record σ α) (depth : Nat) : Reader α := fun input =>
  finishList <|
    match readFields depth r.fields true r.start input with
    | .error stop => .error stop
    | .ok (draft, rest) =>
      match r.build draft with
      | .ok value => .ok (value, rest)
      | .error name =>
        let index := r.fields.findIdx (fun field => field.name = name)
        .error (.loose (.invalidLength index r.listLabel) rest)

def decoder (r : Record σ α) : Decoder α := fun depth input => do
  let (b, rest) ← firstByte input
  if b = 0x5B then nested r.readList depth b rest
  else if b = 0x7B then nested r.readObject depth b rest
  else wrongType r.label b rest

end Record

end MapSidebar.Json
