import MapSidebar.Json.Basic
import MapSidebar.Text.Category

/-!
# Faults of JSON input

A fault is a cause and the place where it shows, kept as the number of bytes that were left there.
The place is told as a line and a column: lines count from one, and the column is the number of
bytes of the line up to the place.
-/
namespace MapSidebar.Json

/-- What was found where something else was expected. -/
inductive Found where
  | null
  | bool (value : Bool)
  | number (value : JsonNumber)
  | string (value : String)
  | sequence
  | map
  deriving Repr

def Found.text : Found → String
  | .null => "null"
  | .bool true => "boolean `true`"
  | .bool false => "boolean `false`"
  | .number (.int value) => "integer `" ++ toString value ++ "`"
  | .number (.float value) => "floating point `" ++ String.ofList (printFloat value) ++ "`"
  | .string value => "string " ++ Quoted.quote value
  | .sequence => "sequence"
  | .map => "map"

inductive Cause where
  | endInList | endInObject | endInString | endInValue
  | expectedColon | expectedListComma | expectedObjectComma
  | expectedWord | expectedValue
  | invalidEscape | invalidNumber | numberOutOfRange | invalidCodePoint
  | controlCharacter | keyNotString | loneSurrogate | unpairedEscape
  | trailingComma | trailingCharacters | tooDeep
  | invalidType (found : Found) (expected : String)
  | invalidValue (found : Found) (expected : String)
  | invalidLength (length : Nat) (expected : String)
  | missingField (name : String)
  | duplicateField (name : String)
  | unknownVariant (name : String) (variants : List String)
  | noVariant (type : String)
  deriving Repr

def variantList (names : List String) : String :=
  ", ".intercalate (names.map fun name => "`" ++ name ++ "`")

def Cause.message : Cause → String
  | .endInList => "EOF while parsing a list"
  | .endInObject => "EOF while parsing an object"
  | .endInString => "EOF while parsing a string"
  | .endInValue => "EOF while parsing a value"
  | .expectedColon => "expected `:`"
  | .expectedListComma => "expected `,` or `]`"
  | .expectedObjectComma => "expected `,` or `\x7d`"
  | .expectedWord => "expected ident"
  | .expectedValue => "expected value"
  | .invalidEscape => "invalid escape"
  | .invalidNumber => "invalid number"
  | .numberOutOfRange => "number out of range"
  | .invalidCodePoint => "invalid unicode code point"
  | .controlCharacter => "control character (\\u0000-\\u001F) found while parsing a string"
  | .keyNotString => "key must be a string"
  | .loneSurrogate => "lone leading surrogate in hex escape"
  | .unpairedEscape => "unexpected end of hex escape"
  | .trailingComma => "trailing comma"
  | .trailingCharacters => "trailing characters"
  | .tooDeep => "recursion limit exceeded"
  | .invalidType found expected => "invalid type: " ++ found.text ++ ", expected " ++ expected
  | .invalidValue found expected => "invalid value: " ++ found.text ++ ", expected " ++ expected
  | .invalidLength length expected =>
    "invalid length " ++ toString length ++ ", expected " ++ expected
  | .missingField name => "missing field `" ++ name ++ "`"
  | .duplicateField name => "duplicate field `" ++ name ++ "`"
  | .unknownVariant name variants =>
    "unknown variant `" ++ name ++ "`, expected one of " ++ variantList variants
  | .noVariant type => "data did not match any variant of untagged enum " ++ type

inductive Stop where
  /-- A fault that shows where `left` bytes are left. -/
  | placed (cause : Cause) (left : Nat)
  /-- A fault of a value as a whole; its place is where the enclosing value has been closed. -/
  | loose (cause : Cause) (rest : List UInt8)
  deriving Repr

/-- The fault shows where the input read so far ends. -/
def stopHere {α : Type} (cause : Cause) (rest : List UInt8) : Except Stop α :=
  .error (.placed cause rest.length)

/-- The fault shows in the next byte, if there is one. -/
def stopNext {α : Type} (cause : Cause) (rest : List UInt8) : Except Stop α :=
  .error (.placed cause (rest.length - 1))

/-- Reads a value from the front of the input and gives what is left. -/
abbrev Reader (α : Type) := List UInt8 → Except Stop (α × List UInt8)

structure Position where
  line : Nat
  column : Nat
  deriving DecidableEq, Repr

def Position.after (before : List UInt8) : Position :=
  before.foldl
    (fun p b => if b = 0x0A then ⟨p.line + 1, 0⟩ else ⟨p.line, p.column + 1⟩) ⟨1, 0⟩

def Stop.message (input : List UInt8) : Stop → String
  | .placed cause left =>
    let p := Position.after (input.take (input.length - left))
    cause.message ++ " at line " ++ toString p.line ++ " column " ++ toString p.column
  | .loose cause _ => cause.message

end MapSidebar.Json
