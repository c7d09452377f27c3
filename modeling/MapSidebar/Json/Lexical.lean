import MapSidebar.Json.Fault
import MapSidebar.Text.Utf8

/-!
# Words, numbers and strings of JSON input

The leaves of the grammar, read from the front of the input. A number keeps as many digits as fit
in 64 bits; digits beyond them only move the decimal point. A string must be UTF-8, and an escaped
surrogate must be followed by its partner.
-/
namespace MapSidebar.Json

/-- Space, line feed, tab and carriage return. -/
def isBlank (b : UInt8) : Bool := b = 0x20 || b = 0x0A || b = 0x09 || b = 0x0D

def skipBlank (input : List UInt8) : List UInt8 := input.dropWhile isBlank

def isDigit (b : UInt8) : Bool := 0x30 ≤ b && b ≤ 0x39

def digitValue (b : UInt8) : Nat := b.toNat - 0x30

def skipDigits (input : List UInt8) : List UInt8 := input.dropWhile isDigit

def readWord : List UInt8 → List UInt8 → Except Stop (List UInt8)
  | [], rest => .ok rest
  | _ :: _, [] => stopHere .endInValue []
  | expected :: word, b :: rest =>
    if b = expected then readWord word rest else stopHere .expectedWord rest

def afterN : List UInt8 := [0x75, 0x6C, 0x6C]

def afterT : List UInt8 := [0x72, 0x75, 0x65]

def afterF : List UInt8 := [0x61, 0x6C, 0x73, 0x65]

/-! ## Numbers -/

/-- The greatest whole number kept exactly. -/
def maxSignificand : Nat := UInt64.size - 1

def maxExponent : Nat := 0x7FFFFFFF

def powerOfTen (n : Nat) : Float := Float.ofScientific 1 false n

/-- `value · 10^exponent`, by at most `fuel` divisions by 10^308 and one more step; `none` beyond
the doubles. -/
def scaleFloat : Nat → Float → Int → Option Float
  | 0, value, _ => some value
  | fuel + 1, value, exponent =>
    if exponent.natAbs ≤ 308 then
      if 0 ≤ exponent then
        let scaled := value * powerOfTen exponent.natAbs
        if scaled.isInf then none else some scaled
      else some (value / powerOfTen exponent.natAbs)
    else if value == 0 then some value
    else if 0 ≤ exponent then none
    else scaleFloat fuel (value / powerOfTen 308) (exponent + 308)

/-- The double of given digits, exponent and sign. -/
def readScaled (positive : Bool) (significand : Nat) (exponent : Int) : Reader JsonNumber :=
  fun rest =>
    match scaleFloat 4 (Float.ofNat significand) exponent with
    | none => stopHere .numberOutOfRange rest
    | some value => .ok (.float (if positive then value else -value), rest)

/-- Digits of an exponent up to the one that is too many, or all. -/
def exponentDigits : Nat → List UInt8 → Option Nat × List UInt8
  | value, [] => (some value, [])
  | value, b :: rest =>
    if isDigit b then
      if value * 10 + digitValue b ≤ maxExponent then exponentDigits (value * 10 + digitValue b) rest
      else (none, rest)
    else (some value, b :: rest)

def readExponent (positive : Bool) (significand : Nat) (start : Int) : Reader JsonNumber :=
  fun input =>
    let (up, input) := match input with
      | 0x2B :: rest => (true, rest)
      | 0x2D :: rest => (false, rest)
      | rest => (true, rest)
    match input with
    | [] => stopHere .endInValue []
    | b :: rest =>
      if isDigit b then
        match exponentDigits (digitValue b) rest with
        | (some exponent, rest) =>
          readScaled positive significand (if up then start + exponent else start - exponent) rest
        | (none, rest) =>
          if significand ≠ 0 && up then stopHere .numberOutOfRange rest
          else .ok (.float (if positive then 0.0 else -0.0), skipDigits rest)
      else stopHere .invalidNumber rest

/-- Reads an exponent, if there is one, and makes the number. -/
def readMagnitude (positive : Bool) (significand : Nat) (exponent : Int) : Reader JsonNumber
  | 0x65 :: rest => readExponent positive significand exponent rest
  | 0x45 :: rest => readExponent positive significand exponent rest
  | rest => readScaled positive significand exponent rest

/-- Appends digits as long as they fit: the digits, how many were taken, whether one did not fit,
and the rest. -/
def takeDigits : Nat → Nat → List UInt8 → Nat × Nat × Bool × List UInt8
  | value, count, [] => (value, count, false, [])
  | value, count, b :: rest =>
    if isDigit b then
      if value * 10 + digitValue b ≤ maxSignificand then
        takeDigits (value * 10 + digitValue b) (count + 1) rest
      else (value, count, true, b :: rest)
    else (value, count, false, b :: rest)

def readFraction (positive : Bool) (significand : Nat) (exponent : Int) : Reader JsonNumber :=
  fun input =>
    let (value, count, full, rest) := takeDigits significand 0 input
    if full then readMagnitude positive value (exponent - count) (skipDigits rest)
    else if count = 0 then
      match rest with
      | [] => stopNext .endInValue []
      | rest => stopNext .invalidNumber rest
    else readMagnitude positive value (exponent - count) rest

/-- An integer of either sign; the negative zero and negative numbers below -2^63 are doubles. -/
def integerNumber (positive : Bool) (significand : Nat) : JsonNumber :=
  if positive then .int significand
  else if significand = 0 || 0x8000000000000000 < significand then .float (-(Float.ofNat significand))
  else .int (-(significand : Int))

/-- Reads what follows the digits before the point; `extra` of them did not fit. -/
def readAfterDigits (positive : Bool) (significand extra : Nat) (full : Bool) : Reader JsonNumber
  | 0x2E :: rest => readFraction positive significand extra rest
  | 0x65 :: rest => readExponent positive significand extra rest
  | 0x45 :: rest => readExponent positive significand extra rest
  | rest =>
    if full then readScaled positive significand extra rest
    else .ok (integerNumber positive significand, rest)

def readNumber (positive : Bool) : Reader JsonNumber
  | [] => stopHere .endInValue []
  | b :: rest =>
    if b = 0x30 then
      match rest with
      | c :: _ => if isDigit c then stopNext .invalidNumber rest else readAfterDigits positive 0 0 false rest
      | [] => readAfterDigits positive 0 0 false []
    else if isDigit b then
      let (value, _, full, rest) := takeDigits (digitValue b) 0 rest
      if full then
        let after := skipDigits rest
        readAfterDigits positive value (rest.length - after.length) true after
      else readAfterDigits positive value 0 false rest
    else stopHere .invalidNumber rest

/-! ## Strings -/

def hexValue? (b : UInt8) : Option Nat :=
  if isDigit b then some (digitValue b)
  else if 0x41 ≤ b && b ≤ 0x46 then some (b.toNat - 0x37)
  else if 0x61 ≤ b && b ≤ 0x66 then some (b.toNat - 0x57)
  else none

def readHex : Reader Nat
  | a :: b :: c :: d :: rest =>
    match hexValue? a, hexValue? b, hexValue? c, hexValue? d with
    | some w, some x, some y, some z => .ok (((w * 16 + x) * 16 + y) * 16 + z, rest)
    | _, _, _, _ => stopHere .invalidEscape rest
  | _ => stopHere .endInString []

/-- What a one-letter escape stands for. -/
def simpleEscape? (b : UInt8) : Option UInt8 :=
  if b = 0x22 then some 0x22
  else if b = 0x5C then some 0x5C
  else if b = 0x2F then some 0x2F
  else if b = 0x62 then some 0x08
  else if b = 0x66 then some 0x0C
  else if b = 0x6E then some 0x0A
  else if b = 0x72 then some 0x0D
  else if b = 0x74 then some 0x09
  else none

/-- Reads the second half of a surrogate pair that begins with `high`. -/
def readPartner (high : Nat) : Reader Char
  | [] => stopHere .endInString []
  | 0x5C :: [] => stopHere .endInString []
  | 0x5C :: 0x75 :: rest =>
    match readHex rest with
    | .error stop => .error stop
    | .ok (low, rest) =>
      if 0xDC00 ≤ low && low ≤ 0xDFFF then
        .ok (Char.ofNat ((high - 0xD800) * 0x400 + (low - 0xDC00) + 0x10000), rest)
      else stopHere .loneSurrogate rest
  | 0x5C :: _ :: rest => stopHere .unpairedEscape rest
  | _ :: rest => stopHere .unpairedEscape rest

/-- Reads the digits after `\u`, and the partner of a leading surrogate. -/
def readUnicodeEscape : Reader Char := fun input =>
  match readHex input with
  | .error stop => .error stop
  | .ok (n, rest) =>
    if 0xDC00 ≤ n && n ≤ 0xDFFF then stopHere .loneSurrogate rest
    else if 0xD800 ≤ n && n ≤ 0xDBFF then readPartner n rest
    else .ok (Char.ofNat n, rest)

/-- Reads what follows a backslash, as the bytes it stands for. -/
def readEscape : Reader (List UInt8)
  | [] => stopHere .endInString []
  | b :: rest =>
    if b = 0x75 then (readUnicodeEscape rest).map fun (c, rest) => (String.utf8EncodeChar c, rest)
    else match simpleEscape? b with
      | some byte => .ok ([byte], rest)
      | none => stopHere .invalidEscape rest

/-- Whether a string stops at this byte: a quote, a backslash or a control character. -/
def endsRun (b : UInt8) : Bool := b = 0x22 || b = 0x5C || b < 0x20

/-- Reads a string after its first quote, as the bytes that it stands for. -/
def readBytes : Nat → Reader (List UInt8)
  | 0, rest => stopHere .endInString rest
  | fuel + 1, input =>
    let run := input.takeWhile fun b => !endsRun b
    match input.dropWhile (fun b => !endsRun b) with
    | [] => stopHere .endInString []
    | b :: rest =>
      if b = 0x22 then .ok (run, rest)
      else if b = 0x5C then
        match readEscape rest with
        | .error stop => .error stop
        | .ok (bytes, after) =>
          (readBytes fuel after).map fun (others, rest) => (run ++ bytes ++ others, rest)
      else stopHere .controlCharacter rest

/-- Reads a string after its first quote. Bytes that are no text are placed as many bytes before the
end of the string as the string has from there on. -/
def readString : Reader String := fun input =>
  match readBytes (input.length + 1) input with
  | .error stop => .error stop
  | .ok (bytes, rest) =>
    match Utf8.decode bytes with
    | .ok text => .ok (text, rest)
    | .error fault => .error (.placed .invalidCodePoint (rest.length + (bytes.length - fault.index)))

end MapSidebar.Json
