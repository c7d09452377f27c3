import MapSidebar.Json.Lexical

/-!
# Lists, objects and whole values

A reader of a list or an object goes from item to item and then closes the bracket. A fault of the
value as a whole (a missing field, say) is placed after the closing bracket, or, where another
byte stands in its place, in front of that. `readTree` reads any value; brackets may be nested 127
deep, and `maxDepth` counts down to the one too many.
-/
namespace MapSidebar.Json

/-- With this many brackets open the next one is too many. -/
def maxDepth : Nat := 128

/-- A reader that knows how many brackets may still be opened, less one. -/
abbrev Decoder (α : Type) := Nat → Reader α

/-- A value that is of no expected form. -/
def wrongType {α : Type} (expected : String) (b : UInt8) (rest : List UInt8) : Except Stop α :=
  let refuse (found : Found) (rest : List UInt8) : Except Stop α :=
    stopHere (.invalidType found expected) rest
  if b = 0x6E then do refuse .null (← readWord afterN rest)
  else if b = 0x74 then do refuse (.bool true) (← readWord afterT rest)
  else if b = 0x66 then do refuse (.bool false) (← readWord afterF rest)
  else if b = 0x2D then do
    let (value, rest) ← readNumber false rest
    refuse (.number value) rest
  else if isDigit b then do
    let (value, rest) ← readNumber true (b :: rest)
    refuse (.number value) rest
  else if b = 0x22 then do
    let (text, rest) ← readString rest
    refuse (.string text) rest
  else if b = 0x5B then refuse .sequence (b :: rest)
  else if b = 0x7B then refuse .map (b :: rest)
  else stopNext .expectedValue (b :: rest)

/-! ## Lists -/

def closeList (input : List UInt8) : Except Stop (List UInt8) :=
  match skipBlank input with
  | [] => stopNext .endInList []
  | b :: rest =>
    if b = 0x5D then .ok rest
    else if b = 0x2C then
      match skipBlank rest with
      | c :: rest => stopNext (if c = 0x5D then .trailingComma else .trailingCharacters) (c :: rest)
      | [] => stopNext .trailingCharacters []
    else stopNext .trailingCharacters (b :: rest)

/-- What is left once closing a list has been tried. -/
def triedList (input : List UInt8) : List UInt8 :=
  match skipBlank input with
  | [] => []
  | b :: rest => if b = 0x5D then rest else if b = 0x2C then skipBlank rest else b :: rest

/-- Closes the list whose content has been read, or places a fault of the list as a whole. -/
def finishList {α : Type} : Except Stop (α × List UInt8) → Except Stop (α × List UInt8)
  | .ok (value, rest) => (closeList rest).map (value, ·)
  | .error (.loose cause rest) => stopHere cause (triedList rest)
  | .error stop => .error stop

/-- Goes to the next item: the input in front of it, or nothing in front of the bracket. -/
def nextItem? (first : Bool) (input : List UInt8) : Except Stop (Option (List UInt8)) :=
  match skipBlank input with
  | [] => stopNext .endInList []
  | b :: rest =>
    if b = 0x5D then .ok none
    else if first then .ok (some (b :: rest))
    else if b = 0x2C then
      match skipBlank rest with
      | [] => stopNext .endInValue []
      | c :: rest => if c = 0x5D then stopNext .trailingComma (c :: rest) else .ok (some (c :: rest))
    else stopNext .expectedListComma (b :: rest)

/-- Reads items up to the bracket; each but the first follows a comma, so their number is bounded by
the length of the input. -/
def readItems {α : Type} (item : Reader α) : Nat → Bool → Reader (List α)
  | 0, _, rest => stopHere .endInList rest
  | fuel + 1, first, input =>
    match nextItem? first input with
    | .error stop => .error stop
    | .ok none => .ok ([], input)
    | .ok (some input) =>
      match item input with
      | .error stop => .error stop
      | .ok (value, rest) =>
        (readItems item fuel false rest).map fun (values, rest) => (value :: values, rest)

def readList {α : Type} (item : Reader α) : Reader (List α) := fun input =>
  finishList (readItems item (input.length + 1) true input)

/-! ## Objects -/

def closeObject (input : List UInt8) : Except Stop (List UInt8) :=
  match skipBlank input with
  | [] => stopNext .endInObject []
  | b :: rest =>
    if b = 0x7D then .ok rest
    else stopNext (if b = 0x2C then .trailingComma else .trailingCharacters) (b :: rest)

/-- What is left once closing an object has been tried. -/
def triedObject (input : List UInt8) : List UInt8 :=
  match skipBlank input with
  | [] => []
  | b :: rest => if b = 0x7D then rest else b :: rest

/-- Closes the object whose content has been read, or places a fault of the object as a whole. -/
def finishObject {α : Type} : Except Stop (α × List UInt8) → Except Stop (α × List UInt8)
  | .ok (value, rest) => (closeObject rest).map (value, ·)
  | .error (.loose cause rest) => stopHere cause (triedObject rest)
  | .error stop => .error stop

/-- Goes to the next key: the input after its first quote, or nothing in front of the bracket. -/
def nextKey? (first : Bool) (input : List UInt8) : Except Stop (Option (List UInt8)) :=
  match skipBlank input with
  | [] => stopNext .endInObject []
  | b :: rest =>
    if b = 0x7D then .ok none
    else if first then
      if b = 0x22 then .ok (some rest) else stopNext .keyNotString (b :: rest)
    else if b = 0x2C then
      match skipBlank rest with
      | [] => stopNext .endInValue []
      | c :: rest =>
        if c = 0x22 then .ok (some rest)
        else stopNext (if c = 0x7D then .trailingComma else .keyNotString) (c :: rest)
    else stopNext .expectedObjectComma (b :: rest)

def readColon (input : List UInt8) : Except Stop (List UInt8) :=
  match skipBlank input with
  | [] => stopNext .endInObject []
  | b :: rest => if b = 0x3A then .ok rest else stopNext .expectedColon (b :: rest)

def readEntries {α : Type} (value : Reader α) : Nat → Bool → Reader (List (String × α))
  | 0, _, rest => stopHere .endInObject rest
  | fuel + 1, first, input =>
    match nextKey? first input with
    | .error stop => .error stop
    | .ok none => .ok ([], input)
    | .ok (some input) =>
      match readString input with
      | .error stop => .error stop
      | .ok (key, rest) =>
        match readColon rest with
        | .error stop => .error stop
        | .ok rest =>
          match value rest with
          | .error stop => .error stop
          | .ok (entry, rest) =>
            (readEntries value fuel false rest).map fun (entries, rest) =>
              ((key, entry) :: entries, rest)

def readObject {α : Type} (value : Reader α) : Reader (List (String × α)) := fun input =>
  finishObject (readEntries value (input.length + 1) true input)

/-! ## Whole values -/

/-- Reads a value that is no bracket and begins with `b`. -/
def readScalar (b : UInt8) (rest : List UInt8) : Except Stop (Json × List UInt8) :=
  if b = 0x6E then (readWord afterN rest).map (Json.null, ·)
  else if b = 0x74 then (readWord afterT rest).map (Json.bool true, ·)
  else if b = 0x66 then (readWord afterF rest).map (Json.bool false, ·)
  else if b = 0x2D then (readNumber false rest).map fun (n, rest) => (Json.number n, rest)
  else if isDigit b then (readNumber true (b :: rest)).map fun (n, rest) => (Json.number n, rest)
  else if b = 0x22 then (readString rest).map fun (s, rest) => (Json.string s, rest)
  else stopNext .expectedValue (b :: rest)

/-- Reads any value as it stands, repeated keys included. -/
def readTree : Decoder Json
  | 0, input => stopHere .tooDeep input
  | depth + 1, input =>
    match skipBlank input with
    | [] => stopNext .endInValue []
    | b :: rest =>
      if b = 0x5B then
        if depth = 0 then stopNext .tooDeep (b :: rest)
        else (readList (readTree depth) rest).map fun (items, rest) => (Json.array items, rest)
      else if b = 0x7B then
        if depth = 0 then stopNext .tooDeep (b :: rest)
        else (readObject (readTree depth) rest).map fun (entries, rest) =>
          (Json.object entries, rest)
      else readScalar b rest

/-- Reads any value as what it denotes. -/
def readValue : Decoder Json := fun depth input =>
  (readTree depth input).map fun (value, rest) => (value.canonical, rest)

/-- Reads a whole input: one value with nothing but blanks after it. -/
def readAll {α : Type} (decoder : Decoder α) (input : List UInt8) : Except Stop α :=
  match decoder maxDepth input with
  | .error stop => .error stop
  | .ok (value, rest) =>
    match skipBlank rest with
    | [] => .ok value
    | b :: rest => stopNext .trailingCharacters (b :: rest)

/-- Reads a whole input, or says why it cannot be read. -/
def decode {α : Type} (decoder : Decoder α) (input : List UInt8) : Except String α :=
  (readAll decoder input).mapError (Stop.message input)

end MapSidebar.Json
