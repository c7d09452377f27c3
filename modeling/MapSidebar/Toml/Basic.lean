import MapSidebar.Number.Shortest
import MapSidebar.Toml.Moment

/-!
# TOML values

A value is a scalar, an array or a table. `print` writes a value on one line: tables are written
inline, the entries of each in the order of their keys. A table whose first key is `momentKey` is
one more way to write a moment.
-/
namespace MapSidebar

inductive Toml where
  | string (text : String)
  | integer (value : Int)
  | float (value : Float)
  | bool (value : Bool)
  | moment (value : Moment)
  | array (items : List Toml)
  | table (entries : List (String × Toml))
  deriving Repr, Inhabited

namespace Toml

/-! ## The order of entries -/

def insertEntry (entry : String × Toml) : List (String × Toml) → List (String × Toml)
  | [] => [entry]
  | first :: rest =>
    if entry.1 < first.1 then entry :: first :: rest else first :: insertEntry entry rest

/-- Entries in the order of their keys. -/
def sortEntries (entries : List (String × Toml)) : List (String × Toml) :=
  entries.foldr insertEntry []

mutual

/-- A value with the entries of its tables in the order of their keys. -/
def arranged : Toml → Toml
  | .string text => .string text
  | .integer value => .integer value
  | .float value => .float value
  | .bool value => .bool value
  | .moment value => .moment value
  | .array items => .array (arrangedItems items)
  | .table entries => .table (sortEntries (arrangedEntries entries))

def arrangedItems : List Toml → List Toml
  | [] => []
  | item :: items => arranged item :: arrangedItems items

/-- The entries of a table, not yet sorted. -/
def arrangedEntries : List (String × Toml) → List (String × Toml)
  | [] => []
  | (key, value) :: entries => (key, arranged value) :: arrangedEntries entries

end

/-! ## Strings -/

/-- How a string is quoted: with escapes or as it stands, on one line or on several. -/
inductive Quoting where
  | basic | literal | basicLines | literalLines
  deriving DecidableEq, Repr

/-- Whether a character can only be written as an escape: controls except tabs and line ends. -/
def needsEscape (c : Char) : Bool :=
  (c.toNat < 0x20 && c ≠ '\t' && c ≠ '\n') || c.toNat = 0x7F

/-- The length of the longest run of a character; `run` of them stand before. -/
def longestRun (mark : Char) : Nat → List Char → Nat
  | run, [] => run
  | run, c :: rest =>
    if c = mark then longestRun mark (run + 1) rest else max run (longestRun mark 0 rest)

/-- The quoting of a string: the first that needs no escape, or else one that has them. -/
def quotingOf (text : List Char) : Quoting :=
  let controls := text.any needsEscape
  let backslash := text.contains '\\'
  let lines := text.contains '\n'
  if !controls && !backslash && !lines && !text.contains '"' then .basic
  else if !controls && !lines && !text.contains '\'' then .literal
  else if !controls && !backslash && longestRun '"' 0 text ≤ 2 then .basicLines
  else if !controls && longestRun '\'' 0 text ≤ 2 then .literalLines
  else if lines then .basicLines
  else .basic

/-- The quoting of a key, which stands on one line. -/
def keyQuotingOf (key : List Char) : Quoting :=
  let controls := key.any fun c => needsEscape c || c = '\n'
  if !controls && !key.contains '\\' && !key.contains '"' then .basic
  else if !controls && !key.contains '\'' then .literal
  else .basic

/-- A hexadecimal digit, in upper case. -/
def hexDigit (n : Nat) : Char := Char.ofNat (if n < 10 then 0x30 + n else 0x37 + n)

/-- One character other than a quotation mark, between quotation marks. -/
def escapeChar (lines : Bool) (c : Char) : List Char :=
  if c = '\x08' then ['\\', 'b']
  else if c = '\t' then ['\\', 't']
  else if c = '\n' then if lines then ['\n'] else ['\\', 'n']
  else if c = '\x0c' then ['\\', 'f']
  else if c = '\r' then ['\\', 'r']
  else if c = '\\' then ['\\', '\\']
  else if needsEscape c then
    ['\\', 'u', '0', '0', hexDigit (c.toNat / 16), hexDigit (c.toNat % 16)]
  else [c]

/-- A text between quotation marks, of which `marks` stand before it; no mark may stand for itself
on one line, and two in a row may on several. -/
def escape (lines : Bool) : Nat → List Char → List Char
  | _, [] => []
  | marks, c :: rest =>
    if c = '"' then
      if (if lines then 2 else 0) ≤ marks then '\\' :: '"' :: escape lines 0 rest
      else '"' :: escape lines (marks + 1) rest
    else escapeChar lines c ++ escape lines 0 rest

/-- A text between three marks on each side; one of several lines begins on a line of its own. -/
def enclose (mark : Char) (text content : List Char) : List Char :=
  let marks := [mark, mark, mark]
  marks ++ (if text.contains '\n' then '\n' :: content else content) ++ marks

def quote (quoting : Quoting) (text : List Char) : List Char :=
  match quoting with
  | .basic => '"' :: (escape false 0 text ++ ['"'])
  | .literal => '\'' :: (text ++ ['\''])
  | .basicLines => enclose '"' text (escape true 0 text)
  | .literalLines => enclose '\'' text text

/-- Whether a character may stand in a key without quotes. -/
def isBare (c : Char) : Bool := c.isAlphanum || c = '_' || c = '-'

def printKey (key : String) : List Char :=
  let text := key.toList
  if !text.isEmpty && text.all isBare then text else quote (keyQuotingOf text) text

/-! ## Values -/

/-- Doubles are written without an exponent, and a tie goes away from zero. -/
def floatLayout : DecimalLayout := ⟨none, .up⟩

def printFloat (value : Float) : List Char :=
  match BinaryFraction.ofBits floatLayout.tie value.toBits with
  | .nan => "nan".toList
  | .infinite negative => if negative then "-inf".toList else "inf".toList
  | .finite negative magnitude =>
    let digits := floatLayout.write magnitude
    if negative then '-' :: digits else digits

mutual

def print : Toml → List Char
  | .string text => quote (quotingOf text.toList) text.toList
  | .integer value => (toString value).toList
  | .float value => printFloat value
  | .bool value => (if value then "true" else "false").toList
  | .moment value => value.text
  | .array items => '[' :: (printItems items ++ [']'])
  | .table [] => ['\x7b', '\x7d']
  | .table entries => '\x7b' :: ' ' :: (printEntries entries ++ [' ', '\x7d'])

def printItems : List Toml → List Char
  | [] => []
  | [item] => print item
  | item :: next :: items => print item ++ ',' :: ' ' :: printItems (next :: items)

def printEntries : List (String × Toml) → List Char
  | [] => []
  | [(key, value)] => printKey key ++ ' ' :: '=' :: ' ' :: print value
  | (key, value) :: next :: entries =>
    printKey key ++ ' ' :: '=' :: ' ' :: (print value ++ ',' :: ' ' :: printEntries (next :: entries))

end

/-! ## Moments as tables -/

/-- The key of the table that writes a moment. -/
def momentKey : String := "$__toml_private_datetime"

/-- The moment that the entries of a table write, if the first of them has the key for that: it must
be a string that holds a moment, and the entries after it do not count. -/
def momentOf? : List (String × Toml) → Option (Option Moment)
  | [] => none
  | (key, value) :: _ =>
    if key = momentKey then
      match value with
      | .string text => some (Moment.parse? text.toList)
      | _ => some none
    else none

mutual

/-- A value with moments in the place of the tables that write them. -/
def withMoments? : Toml → Option Toml
  | .string text => some (.string text)
  | .integer value => some (.integer value)
  | .float value => some (.float value)
  | .bool value => some (.bool value)
  | .moment value => some (.moment value)
  | .array items => (itemsWithMoments? items).map .array
  | .table entries =>
    match momentOf? entries with
    | some found => found.map .moment
    | none => (entriesWithMoments? entries).map .table

def itemsWithMoments? : List Toml → Option (List Toml)
  | [] => some []
  | item :: items =>
    match withMoments? item, itemsWithMoments? items with
    | some item, some items => some (item :: items)
    | _, _ => none

def entriesWithMoments? : List (String × Toml) → Option (List (String × Toml))
  | [] => some []
  | (key, value) :: entries =>
    match withMoments? value, entriesWithMoments? entries with
    | some value, some entries => some ((key, value) :: entries)
    | _, _ => none

end

/-- A value as the text of a setting: a string as it is, and any other value in its written form. A
moment is written as a table. -/
def plainText : Toml → String
  | .string text => text
  | .moment value => String.ofList (print (.table [(momentKey, .string (String.ofList value.text))]))
  | value => String.ofList (print (arranged value))

end Toml

end MapSidebar
