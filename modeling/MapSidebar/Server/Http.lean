import MapSidebar.Number.Unsigned
import MapSidebar.Server.Basic

/-!
# Messages and replies as bytes

The form in which a message goes over a connection that is used once, and the reply that is read
from all bytes that come back. The body of a reply ends with its announced length, with its last
chunk, or with the connection.
-/
namespace MapSidebar

namespace Base64

/-- The character of six bits. -/
def digit (n : Nat) : Char :=
  if n < 26 then Char.ofNat (0x41 + n)
  else if n < 52 then Char.ofNat (0x61 + (n - 26))
  else if n < 62 then Char.ofNat (0x30 + (n - 52))
  else if n = 62 then '+'
  else '/'

/-- The written form of bytes: three bytes are four characters, and a last group of one or two bytes is
filled up with equals signs. -/
def encode : List UInt8 → List Char
  | [] => []
  | [a] => [digit (a.toNat / 4), digit (a.toNat % 4 * 16), '=', '=']
  | [a, b] =>
    [digit (a.toNat / 4), digit (a.toNat % 4 * 16 + b.toNat / 16), digit (b.toNat % 16 * 4), '=']
  | a :: b :: c :: rest =>
    digit (a.toNat / 4) :: digit (a.toNat % 4 * 16 + b.toNat / 16)
      :: digit (b.toNat % 16 * 4 + c.toNat / 64) :: digit (c.toNat % 64) :: encode rest

end Base64

namespace ServerMessage

/-- The host and the port, unless it goes without saying. -/
def hostText (m : ServerMessage) : List Char :=
  match m.url.authority with
  | some a => a.host.text ++ (a.port.map fun port => ':' :: (toString port).toList).getD []
  | none => []

def headers (m : ServerMessage) : List (String × List Char) :=
  [("host", m.hostText), ("accept", "*/*".toList), ("connection", "close".toList)]
    ++ (m.credentials.map fun (name, password) =>
        ("authorization", "Basic ".toList
          ++ Base64.encode (Utf8.bytes (name ++ ":" ++ password.getD "")))).toList
    ++ (match m.contentType with
        | some contentType => [("content-type", contentType.toList),
            ("content-length", (toString m.body.length).toList)]
        | none => [])

def bytes (m : ServerMessage) : List UInt8 :=
  let line : List Char := m.method.text.toList ++ ' ' :: (m.url.target ++ " HTTP/1.1\r\n".toList)
  let headers := m.headers.flatMap fun (name, value) => name.toList ++ ':' :: ' ' :: value ++ ['\r', '\n']
  Utf8.encode (line ++ headers ++ ['\r', '\n']) ++ m.body

end ServerMessage

namespace ServerReply

/-- Cuts a text of bytes after its first line end; the line comes without it. -/
def cutLine? (input : List UInt8) : Option (List UInt8 × List UInt8) :=
  (Text.cutFirst 0x0A input).map fun (line, rest) =>
    ((Text.dropLast? 0x0D line).getD line, rest)

/-- Bytes as text, each as one character. -/
def asChars (bytes : List UInt8) : List Char := bytes.map fun b => Char.ofNat b.toNat

def isBlank (b : UInt8) : Bool := b = 0x20 || b = 0x09

def trim (bytes : List UInt8) : List UInt8 :=
  ((bytes.dropWhile isBlank).reverse.dropWhile isBlank).reverse

def status? (line : List UInt8) : Option Nat :=
  match Text.splitAt ' ' (asChars line) with
  | version :: code :: _ =>
    if "HTTP/1.".toList.isPrefixOf version && code.length = 3 then Digits.read? 10 code else none
  | _ => none

/-- The name of a header in small letters, and its value. -/
def header? (line : List UInt8) : Option (List Char × List UInt8) :=
  (Text.cutFirst 0x3A line).map fun (name, value) => ((asChars name).map Char.toLower, trim value)

/-- Reads header lines up to the empty line, at most `fuel` of them. -/
def readHeaders : Nat → List UInt8 → Option (List (List Char × List UInt8) × List UInt8)
  | 0, _ => none
  | fuel + 1, input =>
    match cutLine? input with
    | none => none
    | some ([], rest) => some ([], rest)
    | some (line, rest) =>
      match header? line, readHeaders fuel rest with
      | some header, some (headers, rest) => some (header :: headers, rest)
      | _, _ => none

/-- The chunks of a body, at most `fuel` of them, or nothing if the last one is missing. -/
def readChunks : Nat → List UInt8 → Option (List UInt8)
  | 0, _ => none
  | fuel + 1, input =>
    match cutLine? input with
    | none => none
    | some (line, rest) =>
      match Digits.read? 16 ((asChars line).takeWhile (Digits.isDigit 16)) with
      | none => none
      | some size =>
        if size = 0 then some []
        else if rest.length < size then none
        else (readChunks fuel ((rest.drop size).dropWhile fun b => b = 0x0D || b = 0x0A)).map
          (rest.take size ++ ·)

/-- The body that follows the headers, or nothing if it is cut short. -/
def readBody (status : Nat) (headers : List (List Char × List UInt8)) (rest : List UInt8) :
    Option (List UInt8) :=
  if status = 204 || status = 304 then some []
  else if (headers.lookup "transfer-encoding".toList).isSome then readChunks (rest.length + 1) rest
  else
    match headers.lookup "content-length".toList with
    | some size =>
      match Digits.read? 10 (asChars size) with
      | some size => if rest.length < size then none else some (rest.take size)
      | none => none
    | none => some rest

/-- The reply that is read from all bytes of a connection. -/
def ofBytes (input : List UInt8) : ServerReply :=
  match cutLine? input with
  | none => .hangup
  | some (line, rest) =>
    match status? line, readHeaders (rest.length + 1) rest with
    | some status, some (headers, rest) =>
      match readBody status headers rest with
      | some body => .response status (headers.lookup "content-type".toList) body
      | none => .short
    | _, _ => .hangup

end ServerReply

end MapSidebar
