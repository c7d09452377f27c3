/-!
# Bytes as text

`pieces` reads bytes as UTF-8 and gives one piece per character and one per maximal part that no
character can be read from. Strict reading (`decode`) asks for characters only and names the first
part that is none; lossy reading (`decodeLossy`) shows each such part as U+FFFD.
-/
namespace MapSidebar.Utf8

def encode (text : List Char) : List UInt8 := text.flatMap String.utf8EncodeChar

def bytes (text : String) : List UInt8 := encode text.toList

/-- Why no character starts here. -/
inductive Defect where
  /-- So many bytes begin no character. -/
  | invalid (length : Nat)
  /-- The bytes end inside a character. -/
  | incomplete
  deriving DecidableEq, Repr

/-- What is read at one place. -/
inductive Piece where
  | char (c : Char)
  | bad (defect : Defect)
  deriving DecidableEq, Repr

/-- A character whose first bytes have been read: the bits they give, how many they were, how many
are still owed, and between which bounds the next one lies. -/
structure Open where
  bits : Nat
  seen : Nat := 1
  owed : Nat
  low : UInt8 := 0x80
  high : UInt8 := 0xBF
  deriving DecidableEq, Repr

/-- What a first byte gives: a piece of its own, or the start of a character. The bounds on the
second byte keep out overlong forms, surrogates and code points above U+10FFFF. -/
def opening (b : UInt8) : Piece ⊕ Open :=
  if b ≤ 0x7F then .inl (.char (Char.ofNat b.toNat))
  else if b < 0xC2 then .inl (.bad (.invalid 1))
  else if b ≤ 0xDF then .inr { bits := b.toNat % 32, owed := 1 }
  else if b = 0xE0 then .inr { bits := 0, owed := 2, low := 0xA0 }
  else if b = 0xED then .inr { bits := 13, owed := 2, high := 0x9F }
  else if b ≤ 0xEF then .inr { bits := b.toNat % 16, owed := 2 }
  else if b = 0xF0 then .inr { bits := 0, owed := 3, low := 0x90 }
  else if b ≤ 0xF3 then .inr { bits := b.toNat % 8, owed := 3 }
  else if b = 0xF4 then .inr { bits := 4, owed := 3, high := 0x8F }
  else .inl (.bad (.invalid 1))

/-- Whether `b` continues the character. -/
def Open.accepts (o : Open) (b : UInt8) : Bool := o.low ≤ b && b ≤ o.high

/-- The character with one more byte. -/
def Open.push (o : Open) (b : UInt8) : Open :=
  { bits := o.bits * 64 + b.toNat % 64, seen := o.seen + 1, owed := o.owed - 1 }

/-- Reads on, with at most one character open. -/
def scan : Option Open → List UInt8 → List Piece
  | none, [] => []
  | some _, [] => [.bad .incomplete]
  | none, b :: rest =>
    match opening b with
    | .inl piece => piece :: scan none rest
    | .inr o => scan (some o) rest
  | some o, b :: rest =>
    if o.accepts b then
      if (o.push b).owed = 0 then .char (Char.ofNat (o.push b).bits) :: scan none rest
      else scan (some (o.push b)) rest
    else
      .bad (.invalid o.seen) ::
        match opening b with
        | .inl piece => piece :: scan none rest
        | .inr fresh => scan (some fresh) rest

/-- The characters and the maximal invalid parts of a byte sequence, in order. -/
def pieces (input : List UInt8) : List Piece := scan none input

/-- The first place where bytes are no text. -/
structure Fault where
  index : Nat
  defect : Defect
  deriving DecidableEq, Repr

def Fault.message (f : Fault) : String :=
  match f.defect with
  | .invalid length =>
    "invalid utf-8 sequence of " ++ toString length ++ " bytes from index " ++ toString f.index
  | .incomplete => "incomplete utf-8 byte sequence from index " ++ toString f.index

/-- The characters of a sequence of pieces; `index` bytes stand before them. -/
def strict : Nat → List Piece → Except Fault (List Char)
  | _, [] => .ok []
  | index, .char c :: rest => (strict (index + c.utf8Size) rest).map (c :: ·)
  | index, .bad defect :: _ => .error ⟨index, defect⟩

/-- The text that bytes hold, or the first place where they hold none. -/
def decodeChars (input : List UInt8) : Except Fault (List Char) := strict 0 (pieces input)

/-- The text that bytes hold, or the first place where they hold none. -/
def decode (input : List UInt8) : Except Fault String := (decodeChars input).map String.ofList

def Piece.shown : Piece → Char
  | .char c => c
  | .bad _ => '\uFFFD'

/-- The text that bytes hold, with U+FFFD for each maximal invalid part. -/
def decodeLossy (input : List UInt8) : String := String.ofList ((pieces input).map Piece.shown)

end MapSidebar.Utf8
