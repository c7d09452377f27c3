/-!
# Labels beyond ASCII

A label of a domain name that holds characters beyond ASCII travels as ASCII: its ASCII characters,
a hyphen, and the other characters as distances, each written in digits of base 36 whose thresholds
adapt to what has been written. `encode?` writes a label and `decode?` reads one; both have a limit,
for their time grows with the square of the length.
-/
namespace MapSidebar.Punycode

def maxLength : Nat := 1000

/-- The greatest length of an ASCII form that is read. -/
def maxFormLength : Nat := 2000

def maxDistance : Nat := 0xFFFFFFFF

def digitChar (d : Nat) : Char := Char.ofNat (if d < 26 then 0x61 + d else 0x30 + d - 26)

def digitValue? (c : Char) : Option Nat :=
  let n := c.toNat
  if 0x61 ≤ n && n ≤ 0x7A then some (n - 0x61)
  else if 0x41 ≤ n && n ≤ 0x5A then some (n - 0x41)
  else if 0x30 ≤ n && n ≤ 0x39 then some (n - 0x30 + 26)
  else none

/-- The threshold of the digit at position `k`, which counts in steps of 36 from 36 on. -/
def threshold (k bias : Nat) : Nat :=
  if k ≤ bias then 1 else if bias + 26 ≤ k then 26 else k - bias

/-- Divides by 35 down to 455, and counts the steps. -/
def shrink (delta k : Nat) : Nat × Nat :=
  if 455 < delta then shrink (delta / 35) (k + 36) else (delta, k)
termination_by delta
decreasing_by exact Nat.div_lt_self (by omega) (by omega)

def adapt (delta points : Nat) (first : Bool) : Nat :=
  let scaled := if first then delta / 700 else delta / 2
  let (delta, k) := shrink (scaled + scaled / points) 0
  k + 36 * delta / (delta + 38)

def writeDelta (bias : Nat) : Nat → Nat → Nat → List Char
  | 0, _, q => [digitChar q]
  | fuel + 1, k, q =>
    let t := threshold k bias
    if q < t then [digitChar q]
    else digitChar (t + (q - t) % (36 - t)) :: writeDelta bias fuel (k + 36) ((q - t) / (36 - t))

structure Writer where
  out : List Char
  delta : Nat
  bias : Nat
  handled : Nat

/-- Takes one character into account while those of number `n` are written. -/
def Writer.scan (basic n : Nat) (w : Writer) (c : Char) : Writer :=
  if c.toNat < n then { w with delta := w.delta + 1 }
  else if c.toNat = n then
    { out := w.out ++ writeDelta w.bias 40 36 w.delta
      delta := 0
      bias := adapt w.delta (w.handled + 1) (w.handled = basic)
      handled := w.handled + 1 }
  else w

/-- Writes the characters of the numbers given, which increase from `next` on. -/
def writeAll (input : List Char) (basic : Nat) : List Nat → Nat → Writer → Writer
  | [], _, w => w
  | n :: numbers, next, w =>
    let start := { w with delta := w.delta + (n - next) * (w.handled + 1) }
    let done := input.foldl (Writer.scan basic n) start
    writeAll input basic numbers (n + 1) { done with delta := done.delta + 1 }

/-- Inserts a number into an increasing list, once. -/
def insertNumber (n : Nat) : List Nat → List Nat
  | [] => [n]
  | m :: rest => if n < m then n :: m :: rest else if n = m then m :: rest else m :: insertNumber n rest

def encode (label : List Char) : List Char :=
  let basic := label.filter (fun c => c.toNat < 0x80)
  let others := (label.filter (fun c => 0x80 ≤ c.toNat)).map Char.toNat
  let numbers := others.foldl (fun sorted n => insertNumber n sorted) []
  let written := writeAll label basic.length numbers 128 ⟨[], 0, 72, basic.length⟩
  (if basic.isEmpty then [] else basic ++ ['-']) ++ written.out

/-- A label as ASCII, unless it is too long. -/
def encode? (label : List Char) : Option (List Char) :=
  if label.length ≤ maxLength then some (encode label) else none

/-- Reads the digits of a distance and adds it to `i`. -/
def readDelta (bias : Nat) : List Char → Nat → Nat → Nat → Option (Nat × List Char)
  | [], _, _, _ => none
  | c :: rest, k, weight, i =>
    match digitValue? c with
    | none => none
    | some d =>
      let next := weight * (36 - threshold k bias)
      if maxDistance < i + d * weight then none
      else if d < threshold k bias then some (i + d * weight, rest)
      else if maxDistance < next then none
      else readDelta bias rest (k + 36) next (i + d * weight)

/-- Reads distances and puts their characters in place; each distance takes one character at
least. -/
def readAll : Nat → Nat → Nat → Nat → List Char → List Char → Option (List Char)
  | _, _, _, _, out, [] => some out
  | 0, _, _, _, _, _ => none
  | fuel + 1, bias, n, i, out, input =>
    match readDelta bias input 36 1 i with
    | none => none
    | some (j, rest) =>
      let points := out.length + 1
      let number := n + j / points
      let place := j % points
      if number < 0xD800 || (0xDFFF < number && number < 0x110000) then
        readAll fuel (adapt (j - i) points (i = 0)) number (place + 1)
          (out.take place ++ Char.ofNat number :: out.drop place) rest
      else none

/-- The label that ASCII text stands for. -/
def decode? (text : List Char) : Option (List Char) :=
  let tail := (text.reverse.takeWhile (· ≠ '-')).reverse
  let basic := text.take (text.length - tail.length - 1)
  if text.any (fun c => 0x80 ≤ c.toNat) || maxFormLength < text.length then none
  else if text.head? = some '-' && basic.isEmpty then none
  else readAll tail.length 72 128 0 basic tail

end MapSidebar.Punycode
