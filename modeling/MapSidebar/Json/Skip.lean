import MapSidebar.Json.Lexical

/-!
# Values that are passed over

The value of an unknown field is checked for its form only: any depth is allowed, numbers have no
range, and strings may hold any bytes and any escaped surrogates. The open brackets are kept in a
list, the innermost first.
-/
namespace MapSidebar.Json

/-- An open bracket. -/
inductive Frame where
  | list | object
  deriving DecidableEq, Repr

namespace Frame

def closing : Frame → UInt8
  | list => 0x5D
  | object => 0x7D

/-- The fault of input that ends inside. -/
def ended : Frame → Cause
  | list => .endInList
  | object => .endInObject

/-- The fault of a value that neither a comma nor the closing bracket follows. -/
def unseparated : Frame → Cause
  | list => .expectedListComma
  | object => .expectedObjectComma

end Frame

def skipExponent (input : List UInt8) : Except Stop (List UInt8) :=
  let input := match input with
    | 0x2B :: rest => rest
    | 0x2D :: rest => rest
    | rest => rest
  match input with
  | [] => stopHere .invalidNumber []
  | b :: rest => if isDigit b then .ok (skipDigits rest) else stopHere .invalidNumber rest

/-- Passes over an exponent, if there is one. -/
def skipOptionalExponent : List UInt8 → Except Stop (List UInt8)
  | 0x65 :: rest => skipExponent rest
  | 0x45 :: rest => skipExponent rest
  | rest => .ok rest

/-- Passes over what follows the whole digits of a number. -/
def skipFraction : List UInt8 → Except Stop (List UInt8)
  | 0x2E :: [] => stopNext .invalidNumber []
  | 0x2E :: b :: rest =>
    if isDigit b then skipOptionalExponent (skipDigits rest)
    else stopNext .invalidNumber (b :: rest)
  | rest => skipOptionalExponent rest

def skipNumber : List UInt8 → Except Stop (List UInt8)
  | [] => stopHere .invalidNumber []
  | b :: rest =>
    if b = 0x30 then
      match rest with
      | c :: _ => if isDigit c then stopNext .invalidNumber rest else skipFraction rest
      | [] => .ok []
    else if isDigit b then skipFraction (skipDigits rest)
    else stopHere .invalidNumber rest

def skipEscape : List UInt8 → Except Stop (List UInt8)
  | [] => stopHere .endInString []
  | b :: rest =>
    if b = 0x75 then (readHex rest).map Prod.snd
    else match simpleEscape? b with
      | some _ => .ok rest
      | none => stopHere .invalidEscape rest

def skipString : Nat → List UInt8 → Except Stop (List UInt8)
  | 0, rest => stopHere .endInString rest
  | fuel + 1, input =>
    match input.dropWhile (fun b => !endsRun b) with
    | [] => stopHere .endInString []
    | b :: rest =>
      if b = 0x22 then .ok rest
      else if b = 0x5C then
        match skipEscape rest with
        | .error stop => .error stop
        | .ok after => skipString fuel after
      else stopHere .controlCharacter (b :: rest)

/-- Closes brackets up to a comma or, in a bracket just opened, up to its first value. Gives the
bracket that is still open and those around it, or nothing when all have been closed. -/
def closeFrames (frame : Frame) (afterValue : Bool) :
    List Frame → List UInt8 → Except Stop (Option (Frame × List Frame) × List UInt8)
  | outer, input =>
    match skipBlank input with
    | [] => stopNext frame.ended []
    | b :: rest =>
      if afterValue && b = 0x2C then .ok (some (frame, outer), rest)
      else if b = frame.closing then
        match outer with
        | [] => .ok (none, rest)
        | next :: outer => closeFrames next true outer rest
      else if afterValue then stopNext frame.unseparated (b :: rest)
      else .ok (some (frame, outer), b :: rest)

def skipKey (fuel : Nat) (input : List UInt8) : Except Stop (List UInt8) :=
  match skipBlank input with
  | [] => stopNext .endInObject []
  | b :: rest =>
    if b = 0x22 then
      match skipString fuel rest with
      | .error stop => .error stop
      | .ok after =>
        match skipBlank after with
        | [] => stopNext .endInObject []
        | c :: after => if c = 0x3A then .ok after else stopNext .expectedColon (c :: after)
    else stopNext .keyNotString (b :: rest)

/-- Passes over one value that is no bracket. -/
def skipScalar (fuel : Nat) (b : UInt8) (rest : List UInt8) : Except Stop (List UInt8) :=
  if b = 0x6E then readWord afterN rest
  else if b = 0x74 then readWord afterT rest
  else if b = 0x66 then readWord afterF rest
  else if b = 0x2D then skipNumber rest
  else if isDigit b then skipNumber (b :: rest)
  else if b = 0x22 then skipString fuel rest
  else stopNext .expectedValue (b :: rest)

/-- Passes over values until all open brackets are closed; `strings` bounds the parts of a
string. -/
def skipOpen (strings : Nat) : Nat → List Frame → List UInt8 → Except Stop (List UInt8)
  | 0, _, rest => stopHere .endInValue rest
  | fuel + 1, stack, input =>
    let goOn (open? : Option (Frame × List Frame)) (rest : List UInt8) :
        Except Stop (List UInt8) :=
      match open? with
      | none => .ok rest
      | some (.list, outer) => skipOpen strings fuel (.list :: outer) rest
      | some (.object, outer) =>
        match skipKey strings rest with
        | .error stop => .error stop
        | .ok rest => skipOpen strings fuel (.object :: outer) rest
    match skipBlank input with
    | [] => stopNext .endInValue []
    | b :: rest =>
      if b = 0x5B then
        match closeFrames .list false stack rest with
        | .error stop => .error stop
        | .ok (open?, rest) => goOn open? rest
      else if b = 0x7B then
        match closeFrames .object false stack rest with
        | .error stop => .error stop
        | .ok (open?, rest) => goOn open? rest
      else
        match skipScalar strings b rest with
        | .error stop => .error stop
        | .ok rest =>
          match stack with
          | [] => .ok rest
          | frame :: outer =>
            match closeFrames frame true outer rest with
            | .error stop => .error stop
            | .ok (open?, rest) => goOn open? rest

def skipValue (input : List UInt8) : Except Stop (List UInt8) :=
  skipOpen (input.length + 1) (input.length + 1) [] input

end MapSidebar.Json
