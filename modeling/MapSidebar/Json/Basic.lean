import MapSidebar.Number.Shortest

/-!
# JSON values

A value is a tree; an object keeps its entries in the order in which they stand, repeated keys
included. `canonical` is what a value denotes once it has been read: entries sorted by key, the last
of several with one key kept. `print` writes a value without any blank.
-/
namespace MapSidebar

/-- A JSON number: an integer from -2^63 to 2^64 - 1, or a double. -/
inductive JsonNumber where
  | int (value : Int)
  | float (value : Float)
  deriving Repr, Inhabited

inductive Json where
  | null
  | bool (value : Bool)
  | number (value : JsonNumber)
  | string (value : String)
  | array (items : List Json)
  | object (entries : List (String × Json))
  deriving Repr, Inhabited

namespace Json

/-- Entries with one more, in the order of their keys; it replaces one of the same key. -/
def insertEntry (key : String) (value : Json) : List (String × Json) → List (String × Json)
  | [] => [(key, value)]
  | (k, v) :: rest =>
    if key < k then (key, value) :: (k, v) :: rest
    else if key = k then (key, value) :: rest
    else (k, v) :: insertEntry key value rest

/-- Entries sorted by key; of several with one key the last is kept. -/
def sortEntries (entries : List (String × Json)) : List (String × Json) :=
  entries.foldl (fun sorted entry => insertEntry entry.1 entry.2 sorted) []

mutual

/-- What a value denotes: every object sorted, without repeated keys. -/
def canonical : Json → Json
  | .null => .null
  | .bool value => .bool value
  | .number value => .number value
  | .string value => .string value
  | .array items => .array (canonicalItems items)
  | .object entries => .object (sortEntries (canonicalEntries entries))

def canonicalItems : List Json → List Json
  | [] => []
  | item :: items => canonical item :: canonicalItems items

/-- The entries of an object, not yet sorted. -/
def canonicalEntries : List (String × Json) → List (String × Json)
  | [] => []
  | (key, value) :: entries => (key, canonical value) :: canonicalEntries entries

end

def hexDigit (n : Nat) : Char := Char.ofNat (if n < 10 then 0x30 + n else 0x57 + n)

def escapeChar (c : Char) : List Char :=
  if c = '"' then ['\\', '"']
  else if c = '\\' then ['\\', '\\']
  else if c = '\x08' then ['\\', 'b']
  else if c = '\x0c' then ['\\', 'f']
  else if c = '\n' then ['\\', 'n']
  else if c = '\r' then ['\\', 'r']
  else if c = '\t' then ['\\', 't']
  else if c.toNat < 0x20 then
    ['\\', 'u', '0', '0', hexDigit (c.toNat / 16), hexDigit (c.toNat % 16)]
  else [c]

def printString (s : String) : List Char := '"' :: (s.toList.flatMap escapeChar ++ ['"'])

/-- Doubles are written positionally for exponents from -5 to 15, and a tie goes to the even
decimal. -/
def floatLayout : DecimalLayout := ⟨some (-5, 15), .toEven⟩

/-- A double; what is no number is written `null`. -/
def printFloat (value : Float) : List Char :=
  match BinaryFraction.ofBits floatLayout.tie value.toBits with
  | .finite negative magnitude =>
    if negative then '-' :: floatLayout.write magnitude else floatLayout.write magnitude
  | _ => ['n', 'u', 'l', 'l']

def printNumber : JsonNumber → List Char
  | .int value => (toString value).toList
  | .float value => printFloat value

mutual

/-- A value without any blank. -/
def print : Json → List Char
  | .null => ['n', 'u', 'l', 'l']
  | .bool true => ['t', 'r', 'u', 'e']
  | .bool false => ['f', 'a', 'l', 's', 'e']
  | .number value => printNumber value
  | .string value => printString value
  | .array items => '[' :: (printItems items ++ [']'])
  | .object entries => '{' :: (printEntries entries ++ ['}'])

def printItems : List Json → List Char
  | [] => []
  | [item] => print item
  | item :: next :: items => print item ++ ',' :: printItems (next :: items)

def printEntries : List (String × Json) → List Char
  | [] => []
  | [(key, value)] => printString key ++ ':' :: print value
  | (key, value) :: next :: entries =>
    printString key ++ ':' :: (print value ++ ',' :: printEntries (next :: entries))

end

def ofFloat (value : Float) : Json := .number (.float value)

/-- The entry of an optional field, left out when there is no value. -/
def optionalEntry (name : String) (value : Option Json) : List (String × Json) :=
  match value with
  | some value => [(name, value)]
  | none => []

def text (value : Json) : String := String.ofList value.print

end Json

end MapSidebar
