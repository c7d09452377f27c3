import MapSidebar.Number.Shortest
import MapSidebar.Toml.Outline

/-!
# Reading TOML values

A reader takes a value from the front of a text and gives it with the rest, or nothing when the text
breaks a rule. Arrays may go over several lines and hold comments, tables in braces may not. Arrays
and tables are nested less than eighty deep, and a dotted key has less than eighty parts.
-/
namespace MapSidebar.Toml

abbrev Reader (α : Type) := List Char → Option (α × List Char)

/-- So many levels, or parts of a key, are too many. -/
def depthLimit : Nat := 80

/-! ## Blanks and comments -/

def isSpace (c : Char) : Bool := c = ' ' || c = '\t'

/-- Characters that may stand for themselves: all but controls, of which the tab may. -/
def isPlain (c : Char) : Bool := c = '\t' || (0x20 ≤ c.toNat && c.toNat ≠ 0x7F)

def skipSpace (input : List Char) : List Char := input.dropWhile isSpace

def lineEnd? : List Char → Option (List Char)
  | '\n' :: rest => some rest
  | '\r' :: '\n' :: rest => some rest
  | _ => none

/-- Passes over what may follow on a line: blanks and a comment, up to the end of the line or of the
text. -/
def finishLine (input : List Char) : Option (List Char) :=
  let rest := match skipSpace input with
    | '#' :: rest => rest.dropWhile isPlain
    | rest => rest
  if rest.isEmpty then some [] else lineEnd? rest

/-- Passes over blanks, line ends and comments; `comment` says whether one has begun. -/
def skipLines (comment : Bool) : List Char → List Char
  | '\n' :: rest => skipLines false rest
  | '\r' :: '\n' :: rest => skipLines false rest
  | c :: rest =>
    if comment && isPlain c then skipLines true rest
    else if !comment && isSpace c then skipLines false rest
    else if !comment && c = '#' then skipLines true rest
    else c :: rest
  | [] => []

def skipBlank : List Char → List Char
  | '\n' :: rest => skipBlank rest
  | '\r' :: '\n' :: rest => skipBlank rest
  | c :: rest => if isSpace c then skipBlank rest else c :: rest
  | [] => []

/-! ## Strings -/

def readCode (count : Nat) (input : List Char) : Option (Char × List Char) :=
  let digits := input.take count
  match Digits.read? 16 digits with
  | some code =>
    if digits.length = count && code.isValidChar then some (Char.ofNat code, input.drop count)
    else none
  | none => none

def readEscape : Reader Char
  | 'b' :: rest => some ('\x08', rest)
  | 't' :: rest => some ('\t', rest)
  | 'n' :: rest => some ('\n', rest)
  | 'f' :: rest => some ('\x0c', rest)
  | 'r' :: rest => some ('\r', rest)
  | '"' :: rest => some ('"', rest)
  | '\\' :: rest => some ('\\', rest)
  | 'u' :: rest => readCode 4 rest
  | 'U' :: rest => readCode 8 rest
  | _ => none

/-- Reads a string of one line after its first mark; between quotation marks a backslash begins an
escape. -/
def readLine (mark : Char) : Nat → Reader (List Char)
  | 0, _ => none
  | _ + 1, [] => none
  | fuel + 1, c :: rest =>
    if c = mark then some ([], rest)
    else if c = '\\' && mark = '"' then
      match readEscape rest with
      | some (c, rest) => (readLine mark fuel rest).map fun (text, rest) => (c :: text, rest)
      | none => none
    else if isPlain c then (readLine mark fuel rest).map fun (text, rest) => (c :: text, rest)
    else none

/-- Reads a string of several lines after its first marks. Three marks end it, of up to five in a
row the last three; a backslash at the end of a line takes away all blanks that follow. -/
def readParagraph (mark : Char) : Nat → Reader (List Char)
  | 0, _ => none
  | _ + 1, [] => none
  | fuel + 1, c :: rest =>
    if c = mark then
      let marks := ((c :: rest).takeWhile (· = mark)).length
      let rest := (c :: rest).drop marks
      if marks < 3 then
        (readParagraph mark fuel rest).map fun (text, rest) =>
          (List.replicate marks mark ++ text, rest)
      else if marks ≤ 5 then some (List.replicate (marks - 3) mark, rest)
      else none
    else if c = '\\' && mark = '"' then
      match lineEnd? (skipSpace rest) with
      | some rest => readParagraph mark fuel (skipBlank rest)
      | none =>
        match readEscape rest with
        | some (c, rest) => (readParagraph mark fuel rest).map fun (text, rest) => (c :: text, rest)
        | none => none
    else
      match lineEnd? (c :: rest) with
      | some rest => (readParagraph mark fuel rest).map fun (text, rest) => ('\n' :: text, rest)
      | none =>
        if isPlain c then
          (readParagraph mark fuel rest).map fun (text, rest) => (c :: text, rest)
        else none

/-- Reads a string of one line that begins with `mark`. -/
def readShort (mark : Char) (rest : List Char) : Option (String × List Char) :=
  (readLine mark (rest.length + 1) rest).map fun (text, rest) => (String.ofList text, rest)

/-- Reads a string that begins with `mark`. A line end after three marks is passed over. -/
def readString (mark : Char) (rest : List Char) : Option (String × List Char) :=
  match rest with
  | c :: d :: body =>
    if c = mark && d = mark then
      (readParagraph mark (body.length + 1) ((lineEnd? body).getD body)).map fun (text, rest) =>
        (String.ofList text, rest)
    else readShort mark rest
  | rest => readShort mark rest

/-! ## Numbers -/

/-- Takes digits with single underscores between them. -/
def moreDigits (base : Nat) : List Char → List Char × List Char
  | '_' :: d :: rest =>
    if Digits.isDigit base d then
      let (digits, rest) := moreDigits base rest
      (d :: digits, rest)
    else ([], '_' :: d :: rest)
  | c :: rest =>
    if Digits.isDigit base c then
      let (digits, rest) := moreDigits base rest
      (c :: digits, rest)
    else ([], c :: rest)
  | [] => ([], [])

/-- Takes digits, of which there must be one before any underscore. -/
def readDigits (base : Nat) : Reader (List Char)
  | c :: rest =>
    if Digits.isDigit base c then some (moreDigits base (c :: rest)) else none
  | [] => none

/-- Takes a sign, if there is one, and says whether it is negative. -/
def readSign : List Char → Bool × List Char
  | '+' :: rest => (false, rest)
  | '-' :: rest => (true, rest)
  | rest => (false, rest)

/-- Takes the digits of a whole number, which has no zero in front. -/
def readWhole : Reader (List Char)
  | '0' :: rest => some (['0'], rest)
  | rest => readDigits 10 rest

def readFraction (input : List Char) : List Char × List Char :=
  match input with
  | '.' :: rest => (readDigits 10 rest).getD ([], input)
  | _ => ([], input)

def readExponent (input : List Char) : Option Int × List Char :=
  match input with
  | [] => (none, [])
  | c :: rest =>
    if c = 'e' || c = 'E' then
      let (negative, rest) := readSign rest
      match readDigits 10 rest with
      | some (digits, rest) =>
        let size : Nat := (Digits.read? 10 digits).getD 0
        (some (if negative then -(size : Int) else size), rest)
      | none => (none, input)
    else (none, input)

/-- The integer of given digits, if it has 64 bits. -/
def integer? (negative : Bool) (base : Nat) (digits : List Char) : Option Toml :=
  let size : Int := (Digits.read? base digits).getD 0
  let value := if negative then -size else size
  if -0x8000000000000000 ≤ value && value < 0x8000000000000000 then some (.integer value) else none

/-- The double nearest to a decimal, unless it is above all doubles. -/
def float? (negative : Bool) (digits : List Char) (exponent : Int) : Option Toml :=
  let size := Decimal.nearest ⟨(Digits.read? 10 digits).getD 0, exponent⟩
  if negative then some (.float (-size)) else if size.isInf then none else some (.float size)

def readDecimal : Reader Toml := fun input => do
  let (negative, rest) := readSign input
  let (whole, rest) ← readWhole rest
  let (fraction, rest) := readFraction rest
  let (exponent, rest) := readExponent rest
  let value ← if fraction.isEmpty && exponent.isNone then integer? negative 10 whole
    else float? negative (whole ++ fraction) (exponent.getD 0 - fraction.length)
  some (value, rest)

/-- Reads an integer of another base. -/
def readBased (base : Nat) (rest : List Char) : Option (Toml × List Char) := do
  let (digits, rest) ← readDigits base rest
  let value ← integer? false base digits
  some (value, rest)

/-- Reads what is no number, or is beyond all numbers. -/
def readUnbounded : Reader Toml := fun input =>
  let (negative, rest) := readSign input
  match rest with
  | 'i' :: 'n' :: 'f' :: rest => some (.float (if negative then -(1.0 / 0.0) else 1.0 / 0.0), rest)
  | 'n' :: 'a' :: 'n' :: rest => some (.float (0.0 / 0.0), rest)
  | _ => none

/-- Reads a value that begins with a digit or a sign. -/
def readNumber : Reader Toml := fun input =>
  match Moment.read .clock input with
  | some (m, rest) => some (.moment m, rest)
  | none =>
    match input with
    | '0' :: 'x' :: rest => readBased 16 rest
    | '0' :: 'o' :: rest => readBased 8 rest
    | '0' :: 'b' :: rest => readBased 2 rest
    | input => (readDecimal input).or (readUnbounded input)

/-! ## Keys -/

def readKeyPart : Reader String
  | '"' :: rest => readShort '"' rest
  | '\'' :: rest => readShort '\'' rest
  | rest =>
    let name := rest.takeWhile isBare
    if name.isEmpty then none else some (String.ofList name, rest.drop name.length)

/-- Reads the parts of a key, at most `fuel` of them. -/
def readKeyParts : Nat → Reader (List String)
  | 0, _ => none
  | fuel + 1, input =>
    match readKeyPart (skipSpace input) with
    | none => none
    | some (name, rest) =>
      match skipSpace rest with
      | '.' :: rest => (readKeyParts fuel rest).map fun (names, rest) => (name :: names, rest)
      | rest => some ([name], rest)

/-- Reads a key: the parts before its last one, and that. -/
def readKey : Reader (List String × String) := fun input =>
  match readKeyParts (depthLimit - 1) input with
  | some (names, rest) => names.getLast?.map fun last => ((names.dropLast, last), rest)
  | none => none

def readKeyAndSign : Reader (List String × String) := fun input =>
  match readKey input with
  | some (key, '=' :: rest) => some (key, skipSpace rest)
  | _ => none

/-! ## Values -/

mutual

def readValueAt : Nat → Nat → Reader Toml
  | 0, _, _ => none
  | _ + 1, _, [] => none
  | fuel + 1, depth, c :: rest =>
    if c = '"' || c = '\'' then
      (readString c rest).map fun (text, rest) => (.string text, rest)
    else if c = '[' then
      if depthLimit ≤ depth + 1 then none
      else (readItems fuel (depth + 1) rest).map fun (items, rest) => (.array items, rest)
    else if c = '\x7b' then
      if depthLimit ≤ depth + 1 then none
      else
        match skipSpace rest with
        | '\x7d' :: rest => some (.table [], rest)
        | rest => (readPairs fuel (depth + 1) [] rest).map fun (entries, rest) =>
          (.table (Outline.completeEntries entries), rest)
    else if c = '+' || c = '-' || c.isDigit then readNumber (c :: rest)
    else
      match c :: rest with
      | 't' :: 'r' :: 'u' :: 'e' :: rest => some (.bool true, rest)
      | 'f' :: 'a' :: 'l' :: 's' :: 'e' :: rest => some (.bool false, rest)
      | rest => readUnbounded rest

/-- Reads the items of an array up to its end; a comma may stand before that. -/
def readItems : Nat → Nat → Reader (List Toml)
  | 0, _, _ => none
  | fuel + 1, depth, input =>
    match skipLines false input with
    | ']' :: rest => some ([], rest)
    | input =>
      match readValueAt fuel depth input with
      | none => none
      | some (item, rest) =>
        match skipLines false rest with
        | ',' :: rest => (readItems fuel depth rest).map fun (items, rest) => (item :: items, rest)
        | ']' :: rest => some ([item], rest)
        | _ => none

/-- Reads the entries of a table in braces up to its end and adds them to those before. -/
def readPairs : Nat → Nat → List (String × Outline) → Reader (List (String × Outline))
  | 0, _, _, _ => none
  | fuel + 1, depth, entries, input =>
    match readKeyAndSign input with
    | none => none
    | some ((path, key), rest) =>
      match readValueAt fuel depth rest with
      | none => none
      | some (value, rest) =>
        match Outline.addValue path key value entries with
        | none => none
        | some entries =>
          match skipSpace rest with
          | ',' :: rest => readPairs fuel depth entries rest
          | '\x7d' :: rest => some (entries, rest)
          | _ => none

end

/-- Reads a value; every step into it takes at least one character. -/
def readValue : Reader Toml := fun input => readValueAt (2 * input.length + 2) 0 input

end MapSidebar.Toml
