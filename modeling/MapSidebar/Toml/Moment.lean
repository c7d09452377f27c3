import MapSidebar.Number.Unsigned

/-!
# Dates and times

A moment is a day, a time of day, or a day with a time and perhaps its distance from universal time.
Days exist in the calendar, and a minute may have a sixty-first second. Of a fraction of a second
nine digits are kept.
-/
namespace MapSidebar

structure CalendarDate where
  year : Nat
  month : Nat
  day : Nat
  deriving DecidableEq, Repr

structure ClockTime where
  hour : Nat
  minute : Nat
  second : Nat
  nanosecond : Nat
  deriving DecidableEq, Repr

/-- The distance from universal time. -/
inductive TimeOffset where
  | zulu
  | minutes (negative : Bool) (count : Nat)
  deriving DecidableEq, Repr

/-- A date, a time, or both. -/
inductive Moment where
  | day (date : CalendarDate)
  | time (time : ClockTime)
  | instant (date : CalendarDate) (time : ClockTime) (offset : Option TimeOffset)
  deriving DecidableEq, Repr

namespace CalendarDate

def isLeap (year : Nat) : Bool := year % 4 = 0 && (year % 100 ≠ 0 || year % 400 = 0)

def daysIn (year month : Nat) : Nat :=
  if month = 2 then if isLeap year then 29 else 28
  else if [4, 6, 9, 11].contains month then 30
  else 31

def text (d : CalendarDate) : List Char :=
  Digits.padded 4 d.year ++ '-' :: (Digits.padded 2 d.month ++ '-' :: Digits.padded 2 d.day)

end CalendarDate

namespace ClockTime

/-- The written form; zeros at the end of the fraction are left out. -/
def text (t : ClockTime) : List Char :=
  let fraction := (Digits.padded 9 t.nanosecond).reverse.dropWhile (· = '0')
  Digits.padded 2 t.hour ++ ':' :: (Digits.padded 2 t.minute ++ ':' ::
    (Digits.padded 2 t.second ++ if fraction.isEmpty then [] else '.' :: fraction.reverse))

end ClockTime

namespace TimeOffset

def text : TimeOffset → List Char
  | zulu => ['Z']
  | minutes negative count =>
    (if negative && count ≠ 0 then '-' else '+') ::
      (Digits.padded 2 (count / 60) ++ ':' :: Digits.padded 2 (count % 60))

end TimeOffset

namespace Moment

def text : Moment → List Char
  | day date => date.text
  | time t => t.text
  | instant date t offset => date.text ++ 'T' :: (t.text ++ (offset.map TimeOffset.text).getD [])

/-- Reads exactly `count` digits that write a number from `low` to `high`. -/
def readNumber (count low high : Nat) (input : List Char) : Option (Nat × List Char) :=
  let digits := input.take count
  match Digits.read? 10 digits with
  | some n =>
    if digits.length = count && low ≤ n && n ≤ high then some (n, input.drop count) else none
  | none => none

def skip (c : Char) : List Char → Option (List Char)
  | d :: rest => if c = d then some rest else none
  | [] => none

def readDate (input : List Char) : Option (CalendarDate × List Char) := do
  let (year, rest) ← readNumber 4 0 9999 input
  let rest ← skip '-' rest
  let (month, rest) ← readNumber 2 1 12 rest
  let rest ← skip '-' rest
  let (monthDay, rest) ← readNumber 2 1 (CalendarDate.daysIn year month) rest
  some (⟨year, month, monthDay⟩, rest)

/-- The nanoseconds that the digits of a fraction write. -/
def nanoseconds (digits : List Char) : Nat :=
  let kept := digits.take 9
  ((Digits.read? 10 kept).getD 0) * Nat.pow 10 (9 - kept.length)

def readFraction (input : List Char) : Nat × List Char :=
  match input with
  | '.' :: rest =>
    let digits := rest.takeWhile Char.isDigit
    if digits.isEmpty then (0, input) else (nanoseconds digits, rest.drop digits.length)
  | _ => (0, input)

def readTime (input : List Char) : Option (ClockTime × List Char) := do
  let (hour, rest) ← readNumber 2 0 23 input
  let rest ← skip ':' rest
  let (minute, rest) ← readNumber 2 0 59 rest
  let rest ← skip ':' rest
  let (second, rest) ← readNumber 2 0 60 rest
  let (nanosecond, rest) := readFraction rest
  some (⟨hour, minute, second, nanosecond⟩, rest)

/-- Hours and minutes that an offset may have. -/
abbrev OffsetBound := Nat → Nat → Bool

/-- As a clock shows them. -/
def OffsetBound.clock : OffsetBound := fun hour minute => hour ≤ 23 && minute ≤ 59

/-- Up to a day, the minutes counted on their own. -/
def OffsetBound.wholeDay : OffsetBound := fun hour minute => hour * 60 + minute ≤ 24 * 60

def readMinutes (bound : OffsetBound) (negative : Bool) (input : List Char) :
    Option (TimeOffset × List Char) := do
  let (hour, rest) ← readNumber 2 0 99 input
  let rest ← skip ':' rest
  let (minute, rest) ← readNumber 2 0 99 rest
  if bound hour minute then some (.minutes negative (hour * 60 + minute), rest) else none

def readOffset (bound : OffsetBound) : List Char → Option (TimeOffset × List Char)
  | 'Z' :: rest => some (.zulu, rest)
  | 'z' :: rest => some (.zulu, rest)
  | '+' :: rest => readMinutes bound false rest
  | '-' :: rest => readMinutes bound true rest
  | _ => none

/-- Whether a character stands between a day and a time. -/
def isDelimiter (c : Char) : Bool := c = 'T' || c = 't' || c = ' '

/-- Reads what may follow a day: a time, and what may follow that. -/
def readAfterDate (bound : OffsetBound) (date : CalendarDate) (input : List Char) :
    Moment × List Char :=
  match input with
  | c :: rest =>
    if isDelimiter c then
      match readTime rest with
      | some (t, rest) =>
        match readOffset bound rest with
        | some (offset, rest) => (.instant date t (some offset), rest)
        | none => (.instant date t none, rest)
      | none => (.day date, input)
    else (.day date, input)
  | [] => (.day date, input)

def read (bound : OffsetBound) (input : List Char) : Option (Moment × List Char) :=
  match readDate input with
  | some (date, rest) => some (readAfterDate bound date rest)
  | none => (readTime input).map fun (t, rest) => (.time t, rest)

def parse? (input : List Char) : Option Moment :=
  match read .wholeDay input with
  | some (m, []) => some m
  | _ => none

end Moment

end MapSidebar
