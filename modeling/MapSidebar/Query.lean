import MapSidebar.Text.Split
import MapSidebar.Text.Utf8

/-!
# Name-value pairs in a query

A query or a form body holds pairs as `name=value`, with `&` between them. In a component a space
is written `+`, letters, digits and `*-._` stand for themselves and every other byte of the UTF-8
text is written `%XX`. Reading takes any text: a percent sign without two hex digits stands for
itself, and bytes that are no UTF-8 read as U+FFFD.
-/
namespace MapSidebar.Query

/-- A hexadecimal digit, in upper case. -/
def hexDigit (n : Nat) : Char := Char.ofNat (if n < 10 then 0x30 + n else 0x37 + n)

def hexValue? (b : UInt8) : Option UInt8 :=
  if 0x30 ≤ b && b ≤ 0x39 then some (b - 0x30)
  else if 0x41 ≤ b && b ≤ 0x46 then some (b - 0x37)
  else if 0x61 ≤ b && b ≤ 0x66 then some (b - 0x57)
  else none

/-- A byte as a percent sign and two digits. -/
def percentByte (b : UInt8) : List Char := ['%', hexDigit (b.toNat / 16), hexDigit (b.toNat % 16)]

/-- Bytes that stand for themselves in a component. -/
def isPlain (b : UInt8) : Bool :=
  (0x30 ≤ b && b ≤ 0x39) || (0x41 ≤ b && b ≤ 0x5A) || (0x61 ≤ b && b ≤ 0x7A)
    || b = 0x2A || b = 0x2D || b = 0x2E || b = 0x5F

def encodeByte (b : UInt8) : List Char :=
  if b = 0x20 then ['+'] else if isPlain b then [Char.ofNat b.toNat] else percentByte b

/-- The written form of a name or a value. -/
def encodeComponent (text : String) : List Char := (Utf8.bytes text).flatMap encodeByte

def encodePair (pair : String × String) : List Char :=
  encodeComponent pair.1 ++ '=' :: encodeComponent pair.2

def encodePairs : List (String × String) → List Char
  | [] => []
  | [pair] => encodePair pair
  | pair :: pairs => encodePair pair ++ '&' :: encodePairs pairs

def encode (pairs : List (String × String)) : String := String.ofList (encodePairs pairs)

/-- Bytes with every `%XX` replaced by the byte it stands for. -/
def percentDecode : List UInt8 → List UInt8
  | 0x25 :: hi :: lo :: rest =>
    match hexValue? hi, hexValue? lo with
    | some h, some l => (h * 16 + l) :: percentDecode rest
    | _, _ => 0x25 :: percentDecode (hi :: lo :: rest)
  | b :: rest => b :: percentDecode rest
  | [] => []

def plusToSpace (b : UInt8) : UInt8 := if b = 0x2B then 0x20 else b

/-- The text that a written component stands for. -/
def decodeComponent (component : List UInt8) : String :=
  Utf8.decodeLossy (percentDecode (component.map plusToSpace))

/-- The pair that a written pair stands for; a missing `=` leaves the value empty. -/
def decodePair (pair : List UInt8) : String × String :=
  match Text.cutFirst 0x3D pair with
  | some (name, value) => (decodeComponent name, decodeComponent value)
  | none => (decodeComponent pair, "")

/-- The pairs that a written list of pairs stands for; nothing between two `&` is no pair. -/
def decodeBytes (query : List UInt8) : List (String × String) :=
  ((Text.splitAt 0x26 query).filter (fun pair => !pair.isEmpty)).map decodePair

def decode (query : String) : List (String × String) := decodeBytes (Utf8.bytes query)

end MapSidebar.Query
