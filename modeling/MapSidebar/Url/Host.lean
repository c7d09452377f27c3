import MapSidebar.Number.Unsigned
import MapSidebar.Query
import MapSidebar.Url.Domain

/-!
# Hosts

A host is a domain name, an address of four or of sixteen bytes, or, in URLs of unknown schemes, any
text without delimiters. A domain name whose last label is a number is an address of four bytes, and
its parts may be written in decimal, octal or hexadecimal digits.
-/
namespace MapSidebar

inductive UrlError where
  | relativeWithoutBase
  | relativeWithOpaqueBase
  | emptyHost
  | invalidDomain
  | invalidDomainCharacter
  | invalidPort
  | invalidIpv4
  | invalidIpv6
  deriving DecidableEq, Repr

def UrlError.message : UrlError → String
  | .relativeWithoutBase => "relative URL without a base"
  | .relativeWithOpaqueBase => "relative URL with a cannot-be-a-base base"
  | .emptyHost => "empty host"
  | .invalidDomain => "invalid international domain name"
  | .invalidDomainCharacter => "invalid domain character"
  | .invalidPort => "invalid port number"
  | .invalidIpv4 => "invalid IPv4 address"
  | .invalidIpv6 => "invalid IPv6 address"

inductive Host where
  /-- A domain name, or a text in a URL of an unknown scheme; it may be empty there. -/
  | name (text : List Char)
  | ipv4 (address : Nat)
  /-- Eight numbers below 2^16. -/
  | ipv6 (pieces : List Nat)
  deriving DecidableEq, Repr

namespace Host

/-! ## Percent signs -/

/-- Bytes that are always written with a percent sign: controls and those beyond ASCII. -/
def isControl (b : UInt8) : Bool := b < 0x20 || 0x7F ≤ b

/-- Text in which the bytes of a class are written with percent signs. -/
def percentEncode (encoded : UInt8 → Bool) (text : List Char) : List Char :=
  (Utf8.encode text).flatMap fun b =>
    if encoded b then Query.percentByte b else [Char.ofNat b.toNat]

/-! ## Addresses of four bytes -/

/-- The number that a part of an address writes. -/
def ipv4Number? : List Char → Option Nat
  | [] => none
  | '0' :: 'x' :: digits => Digits.read? 16 digits
  | '0' :: 'X' :: digits => Digits.read? 16 digits
  | '0' :: d :: digits => Digits.read? 8 (d :: digits)
  | digits => Digits.read? 10 digits

/-- Whether a name is meant as an address: its last label, a final full stop apart, is a number. -/
def endsInNumber (name : List Char) : Bool :=
  let parts := (Text.splitAt '.' name).reverse
  let last? := match parts with
    | [] :: rest => rest.head?
    | parts => parts.head?
  match last? with
  | none => false
  | some last => (!last.isEmpty && last.all Char.isDigit) || (ipv4Number? last).isSome

/-- The value of the parts of an address; the last one fills all bytes that are left. -/
def ipv4Value? : Nat → List Nat → Option Nat
  | _, [] => none
  | bytes, [last] => if last < Nat.pow 256 bytes then some last else none
  | 0, _ => none
  | bytes + 1, part :: parts =>
    if part < 256 then (ipv4Value? bytes parts).map (part * Nat.pow 256 bytes + ·) else none

def readIpv4 (name : List Char) : Except UrlError Host :=
  let parts := Text.splitAt '.' name
  let parts := if parts.getLast? = some [] then parts.dropLast else parts
  if 4 < parts.length then .error .invalidIpv4
  else match (parts.mapM ipv4Number?).bind (ipv4Value? 4) with
    | some address => .ok (.ipv4 address)
    | none => .error .invalidIpv4

/-! ## Addresses of sixteen bytes -/

/-- Reads up to four hexadecimal digits: their value, how many there are, and the rest. -/
def readPiece : Nat → Nat → Nat → List Char → Nat × Nat × List Char
  | 0, value, count, rest => (value, count, rest)
  | _ + 1, value, count, [] => (value, count, [])
  | left + 1, value, count, c :: rest =>
    match Digits.value? 16 c with
    | some d => readPiece left (value * 16 + d) (count + 1) rest
    | none => (value, count, c :: rest)

/-- Reads one part of the four-byte address that may end an address: up to three digits without a
leading zero. -/
def readByte? (digits : List Char) : Option Nat :=
  match digits with
  | [] => none
  | ['0'] => some 0
  | '0' :: _ => none
  | digits => (Digits.read? 10 digits).filter (· < 256)

/-- The two pieces that a four-byte address in decimal digits stands for. -/
def readTail? (text : List Char) : Option (List Nat) :=
  match (Text.splitAt '.' text).mapM readByte? with
  | some [a, b, c, d] => some [a * 256 + b, c * 256 + d]
  | _ => none

/-- Reads pieces: those before the double colon, if there has been one, and those since. -/
def readPieces : Nat → Option (List Nat) → List Nat → List Char → Option (Option (List Nat) × List Nat)
  | 0, _, _, _ => none
  | _ + 1, before, pieces, [] => some (before, pieces)
  | fuel + 1, before, pieces, input =>
    if 8 ≤ (before.getD []).length + pieces.length then none
    else match input with
    | ':' :: rest =>
      match before with
      | some _ => none
      | none => readPieces fuel (some pieces) [] rest
    | input =>
      let (value, count, rest) := readPiece 4 0 0 input
      match rest with
      | '.' :: _ =>
        if count = 0 || 6 < (before.getD []).length + pieces.length then none
        else (readTail? input).map fun tail => (before, pieces ++ tail)
      | [] => some (before, pieces ++ [value])
      | ':' :: [] => none
      | ':' :: rest => readPieces fuel before (pieces ++ [value]) rest
      | _ => none

/-- Reads an address of sixteen bytes, written in pieces between colons; a double colon stands for
pieces that are zero. -/
def readIpv6 (text : List Char) : Except UrlError Host :=
  let start := match text with
    | ':' :: ':' :: rest => readPieces (text.length + 1) (some []) [] rest
    | ':' :: _ => none
    | text => readPieces (text.length + 1) none [] text
  match start with
  | some (none, pieces) => if pieces.length = 8 then .ok (.ipv6 pieces) else .error .invalidIpv6
  | some (some before, after) =>
    let missing := 8 - (before.length + after.length)
    if missing = 0 then .error .invalidIpv6
    else .ok (.ipv6 (before ++ List.replicate missing 0 ++ after))
  | none => .error .invalidIpv6

/-! ## Hosts -/

def readBracketed (text : List Char) : Except UrlError Host :=
  match Text.dropLast? ']' text with
  | some address => readIpv6 address
  | none => .error .invalidIpv6

/-- Reads the host of a URL of a known scheme. -/
def read : List Char → Except UrlError Host
  | '[' :: text => readBracketed text
  | text =>
    match Domain.toAscii? (Query.percentDecode (Utf8.encode text)) with
    | none => .error .invalidDomain
    | some [] => .error .emptyHost
    | some domain => if endsInNumber domain then readIpv4 domain else .ok (.name domain)

/-- Delimiters, which no host of an unknown scheme holds. -/
def isDelimiter (c : Char) : Bool :=
  c = '\x00' || c = '\t' || c = '\n' || c = '\r' || " #/:<>?@[\\]^|".toList.contains c

/-- Reads the host of a URL of an unknown scheme. -/
def readOpaque : List Char → Except UrlError Host
  | '[' :: text => readBracketed text
  | text =>
    if text.any isDelimiter then .error .invalidDomainCharacter
    else .ok (.name (percentEncode isControl text))

def isEmpty : Host → Bool
  | .name [] => true
  | _ => false

def leadingZeros (pieces : List Nat) : Nat := (pieces.takeWhile (· = 0)).length

/-- The first longest run of zeros, from its place on: its place and its length. -/
def longestZeros : Nat → List Nat → Nat × Nat
  | index, [] => (index, 0)
  | index, piece :: pieces =>
    let rest := longestZeros (index + 1) pieces
    let here := leadingZeros (piece :: pieces)
    if rest.2 ≤ here then (index, here) else rest

def joinPieces (pieces : List Nat) : List Char :=
  (":".intercalate (pieces.map fun piece => String.ofList (Nat.toDigits 16 piece))).toList

def text : Host → List Char
  | .name chars => chars
  | .ipv4 address =>
    (".".intercalate [toString (address / 0x1000000), toString (address / 0x10000 % 256),
      toString (address / 256 % 256), toString (address % 256)]).toList
  | .ipv6 pieces =>
    let (place, length) := longestZeros 0 pieces
    if length < 2 then '[' :: (joinPieces pieces ++ [']'])
    else
      '[' :: (joinPieces (pieces.take place) ++ ':' :: ':'
        :: (joinPieces (pieces.drop (place + length)) ++ [']']))

end Host

end MapSidebar
