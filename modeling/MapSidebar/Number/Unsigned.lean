/-!
# Digits and unsigned numbers

Digits are those of a base up to sixteen, in either case. An unsigned decimal number is read from left
to right, up to the first fault: a character that is no digit, or the digit with which the number leaves
the range. One leading `+` is allowed; no number at all is a fault of its own, but a sign alone is a
character that is no digit.
-/
namespace MapSidebar

namespace Digits

/-- The value of a digit of a base up to sixteen. -/
def value? (base : Nat) (c : Char) : Option Nat :=
  let n := c.toNat
  let value := if 0x30 ≤ n && n ≤ 0x39 then n - 0x30
    else if 0x41 ≤ n && n ≤ 0x46 then n - 0x37
    else if 0x61 ≤ n && n ≤ 0x66 then n - 0x57
    else 16
  if value < base then some value else none

/-- Whether a character is a digit of a base up to sixteen. -/
def isDigit (base : Nat) (c : Char) : Bool := (value? base c).isSome

/-- The number that digits of a base write; no digits write zero. -/
def read? (base : Nat) (digits : List Char) : Option Nat :=
  digits.foldlM (fun value c => (value? base c).map (value * base + ·)) 0

/-- The decimal digits of a number, with zeros in front up to a width. -/
def padded (width n : Nat) : List Char :=
  let digits := Nat.toDigits 10 n
  List.replicate (width - digits.length) '0' ++ digits

end Digits

/-- Why a text is no number of the wanted range. -/
inductive NumberError where
  | empty | invalidDigit | overflow
  deriving DecidableEq, Repr

def NumberError.message : NumberError → String
  | .empty => "cannot parse integer from empty string"
  | .invalidDigit => "invalid digit found in string"
  | .overflow => "number too large to fit in target type"

namespace Unsigned

def digit? (c : Char) : Option Nat := if c.isDigit then some (c.toNat - '0'.toNat) else none

/-- Appends digits to `value`, which must stay at most `limit`. -/
def readDigits (limit : Nat) : Nat → List Char → Except NumberError Nat
  | value, [] => .ok value
  | value, c :: rest =>
    match digit? c with
    | none => .error .invalidDigit
    | some d =>
      if value * 10 + d ≤ limit then readDigits limit (value * 10 + d) rest else .error .overflow

/-- The number that `text` writes, at most `limit`. -/
def read (limit : Nat) (text : List Char) : Except NumberError Nat :=
  match text with
  | [] => .error .empty
  | ['+'] => .error .invalidDigit
  | '+' :: digits => readDigits limit 0 digits
  | digits => readDigits limit 0 digits

end Unsigned

def readUInt32 (text : String) : Except NumberError UInt32 :=
  (Unsigned.read (UInt32.size - 1) text.toList).map UInt32.ofNat

def readUInt64 (text : String) : Except NumberError UInt64 :=
  (Unsigned.read (UInt64.size - 1) text.toList).map UInt64.ofNat

end MapSidebar
