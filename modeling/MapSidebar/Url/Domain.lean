import MapSidebar.Text.Split
import MapSidebar.Text.Utf8
import MapSidebar.Url.Direction
import MapSidebar.Url.DomainChar
import MapSidebar.Url.Joiner
import MapSidebar.Url.Punycode

/-!
# Domain names

A domain name is compared and sent in small ASCII letters; labels with other characters are written
in their ASCII form. `toAscii?` brings a name to that form, or refuses it: no name holds a character
that delimits the parts of a URL, no label begins with a mark, joiners stand only where they make a
difference, and a name with letters written from right to left keeps to the rule for directions.
-/
namespace MapSidebar.Domain

/-- ASCII characters that no domain name holds: controls, the space and delimiters. -/
def isForbidden (c : Char) : Bool :=
  c.toNat ≤ 0x20 || c.toNat = 0x7F || "%#/:<>?@[\\]^|".toList.contains c

def isAscii (c : Char) : Bool := c.toNat < 0x80

/-- Whether a label in its normal form is well formed. -/
def isWellFormed (label : List Char) : Bool :=
  !label.any isForbidden && !label.head?.any Category.isMark && Joiner.allFit [] label

/-- A label as it is read, and as it is sent. -/
structure Label where
  shown : List Char
  sent : List Char

def asciiMark : List Char := "xn--".toList

/-- The label that an ASCII form stands for: it is in its normal form and is not all ASCII. -/
def readAsciiForm? (form : List Char) : Option Label :=
  match Punycode.decode? form with
  | some shown =>
    if !shown.all isAscii && DomainChar.normalize? shown = some shown && isWellFormed shown then
      some ⟨shown, asciiMark ++ form⟩
    else none
  | none => none

def readLabel? (label : List Char) : Option Label :=
  if asciiMark.isPrefixOf label then readAsciiForm? (label.drop asciiMark.length)
  else if !isWellFormed label then none
  else if label.all isAscii then some ⟨label, label⟩
  else (Punycode.encode? label).map fun form => ⟨label, asciiMark ++ form⟩

def joinLabels : List (List Char) → List Char
  | [] => []
  | [label] => label
  | label :: labels => label ++ '.' :: joinLabels labels

/-- A name in the form in which it is sent. -/
def toAscii? (name : List UInt8) : Option (List Char) := do
  let text ← (Utf8.decodeChars name).toOption
  let labels ← (Text.splitAt '.' (← DomainChar.normalize? text)).mapM readLabel?
  if labels.any (fun label => Direction.isMixed label.shown)
      && !labels.all (fun label => Direction.isKept label.shown) then none
  else some (joinLabels (labels.map Label.sent))

end MapSidebar.Domain
