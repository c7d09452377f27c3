/-!
# The shortest decimal that reads back

A finite binary fraction stands for all reals that round to it. `shortest` gives, of the decimals in
that interval, one with the fewest digits, and of those the nearest to the fraction. The search
tries one digit, then two, and so on: on each decimal grid it looks at the two neighbours of the
fraction, for if any point of a grid lies in the interval then one of these does. When both are
equally near, a `Tie` decides.
-/
namespace MapSidebar

/-- A decimal number `digits · 10^exponent`. -/
structure Decimal where
  digits : Nat
  exponent : Int
  deriving DecidableEq, Repr

/-- Which of two neighbours is taken when both are equally near. -/
inductive Tie where
  /-- The one whose last digit is even. -/
  | toEven
  /-- The greater one. -/
  | up
  deriving DecidableEq, Repr

/-- Whether the lower of two neighbours is taken when both are equally near. -/
def Tie.takesLower (tie : Tie) (lower : Nat) : Bool :=
  match tie with
  | toEven => lower % 2 = 0
  | up => false

namespace Shortest

/-- A positive value with the interval of reals that round to it, all over one denominator. -/
structure Interval where
  low : Nat
  value : Nat
  high : Nat
  denominator : Nat
  /-- Whether the ends round to the value, too. -/
  closed : Bool

/-- The interval of `mantissa · 2^exponent`; below a power of two the grid is twice as fine. -/
def Interval.ofBinary (mantissa : Nat) (exponent : Int) (atPower : Bool) : Interval :=
  let low := if atPower then 4 * mantissa - 1 else 4 * mantissa - 2
  let up := Nat.pow 2 (exponent - 2).toNat
  { low := low * up
    value := 4 * mantissa * up
    high := (4 * mantissa + 2) * up
    denominator := Nat.pow 2 (2 - exponent).toNat
    closed := mantissa % 2 = 0 }

/-- Whether `digits · 10^exponent` rounds to the value. -/
def Interval.contains (i : Interval) (digits : Nat) (exponent : Int) : Bool :=
  let point := digits * Nat.pow 10 exponent.toNat * i.denominator
  let scale := Nat.pow 10 (-exponent).toNat
  if i.closed then i.low * scale ≤ point && point ≤ i.high * scale
  else i.low * scale < point && point < i.high * scale

/-- The exponent of the first decimal digit of a positive fraction below 10^400 and above
10^-400. -/
def leadingExponent (numerator denominator : Nat) : Int :=
  if denominator ≤ numerator then ((Nat.toDigits 10 (numerator / denominator)).length : Int) - 1
  else
    match (List.range 400).find? (fun j => denominator ≤ numerator * Nat.pow 10 j) with
    | some j => -(j : Int)
    | none => -400

/-- The point of the grid of step 10^exponent that lies in the interval and is nearest to the
value. -/
def Interval.nearest? (tie : Tie) (i : Interval) (exponent : Int) : Option Nat :=
  let value := i.value * Nat.pow 10 (-exponent).toNat
  let step := i.denominator * Nat.pow 10 exponent.toNat
  let below := value / step
  let rest := value % step
  match i.contains below exponent, i.contains (below + 1) exponent with
  | true, true =>
    if 2 * rest < step || (2 * rest = step && tie.takesLower below) then some below
    else some (below + 1)
  | true, false => some below
  | false, true => some (below + 1)
  | false, false => none

/-- Without zeros at the end; `fuel` is at least the number of digits. -/
def trimZeros : Nat → Nat → Int → Decimal
  | 0, digits, exponent => ⟨digits, exponent⟩
  | fuel + 1, digits, exponent =>
    if digits ≠ 0 && digits % 10 = 0 then trimZeros fuel (digits / 10) (exponent + 1)
    else ⟨digits, exponent⟩

/-- The first grid, from one digit to seventeen, that has a point in the interval. -/
def Interval.shortest (tie : Tie) (i : Interval) : Decimal :=
  let first := leadingExponent i.value i.denominator
  let grids := (List.range 17).map (fun (n : Nat) => first - (n : Int))
  match grids.findSome? (fun exponent => (i.nearest? tie exponent).map (·, exponent)) with
  | some (digits, exponent) => trimZeros 20 digits exponent
  | none => ⟨i.value / i.denominator, 0⟩

end Shortest

/-- A binary fraction as its sign and what it stands for. -/
inductive BinaryFraction where
  | nan
  | infinite (negative : Bool)
  | finite (negative : Bool) (magnitude : Decimal)
  deriving DecidableEq, Repr

/-- Reads the 64 bits of a double: sign, eleven bits of exponent, 52 of mantissa. -/
def BinaryFraction.ofBits (tie : Tie) (bits : UInt64) : BinaryFraction :=
  let negative := decide (bits >>> 63 = 1)
  let exponent : Nat := (bits >>> 52 &&& 0x7FF).toNat
  let mantissa : Nat := (bits &&& 0xFFFFFFFFFFFFF).toNat
  if exponent = 2047 then if mantissa = 0 then .infinite negative else .nan
  else if exponent = 0 then
    if mantissa = 0 then .finite negative ⟨0, 0⟩
    else .finite negative ((Shortest.Interval.ofBinary mantissa (-1074) false).shortest tie)
  else
    .finite negative ((Shortest.Interval.ofBinary (0x10000000000000 + mantissa)
      ((exponent : Int) - 1075) (decide (mantissa = 0) && decide (1 < exponent))).shortest tie)

/-- How decimals are laid out as text. -/
structure DecimalLayout where
  /-- Exponents of the first digit for which digits and point are written without an exponent;
  `none` for all of them. -/
  plain : Option (Int × Int)
  /-- Which of two equally near decimals is taken. -/
  tie : Tie
  deriving Repr

namespace DecimalLayout

def digitsOf (n : Nat) : List Char := Nat.toDigits 10 n

/-- Digits and point without an exponent, with at least one digit on both sides. -/
def writePlain (d : Decimal) : List Char :=
  let digits := digitsOf d.digits
  if 0 ≤ d.exponent then digits ++ List.replicate d.exponent.toNat '0' ++ ['.', '0']
  else
    let places := (-d.exponent).toNat
    if places < digits.length then
      digits.take (digits.length - places) ++ '.' :: digits.drop (digits.length - places)
    else '0' :: '.' :: (List.replicate (places - digits.length) '0' ++ digits)

/-- One digit, the others after a point if there are any, and the exponent with its sign. -/
def writeScientific (d : Decimal) (exponent : Int) : List Char :=
  let point := match digitsOf d.digits with
    | first :: second :: rest => first :: '.' :: second :: rest
    | digits => digits
  let sign := if exponent < 0 then '-' else '+'
  point ++ 'e' :: sign :: digitsOf exponent.natAbs

def write (layout : DecimalLayout) (d : Decimal) : List Char :=
  let first := d.exponent + (digitsOf d.digits).length - 1
  match layout.plain with
  | none => writePlain d
  | some (low, high) =>
    if d.digits = 0 || (low ≤ first && first ≤ high) then writePlain d
    else writeScientific d first

end DecimalLayout

/-! ## The double nearest to a decimal -/

/-- The double nearest to a decimal. Decimals beyond the doubles are infinite, and those too small for
them are zero; both are told by the exponent of the first digit, so no power of ten is taken that is not
needed. -/
def Decimal.nearest (d : Decimal) : Float :=
  let first := d.exponent + (Nat.toDigits 10 d.digits).length
  if d.digits = 0 || first < -400 then 0.0
  else if 400 < first then 1.0 / 0.0
  else if 0 ≤ d.exponent then Float.ofScientific d.digits false d.exponent.toNat
  else Float.ofScientific d.digits true (-d.exponent).toNat

end MapSidebar
