import MapSidebar.Toml.Reader

/-!
# TOML documents

A document is a sequence of lines: entries, headers that say where the entries after them go, blank
lines and comments. `Toml.parse?` gives the entries of the document, with a moment in the place of
each table that writes one.
-/
namespace MapSidebar.Toml

/-- The part of a document that has been read. -/
structure Document where
  entries : List (String × Outline) := []
  /-- Where entries go. -/
  place : List String := []
  deriving Repr

namespace Document

/-- Adds an entry at the place of the last header. -/
def addEntry (d : Document) (path : List String) (key : String) (v : Toml) : Option Document :=
  (Outline.within .implied (fun _ inner => Outline.addValue path key v inner) d.place .header
    d.entries).map fun entries => { d with entries }

def readHeader (d : Document) (input : List Char) : Option (Document × List Char) := do
  let ((path, key), rest) ← readKey input
  let rest ← match rest with
    | ']' :: rest => finishLine rest
    | _ => none
  let entries ← Outline.openTable path key d.entries
  some (⟨entries, path ++ [key]⟩, rest)

/-- Reads what follows the two brackets of the header of one more table of an array. -/
def readSeriesHeader (d : Document) (input : List Char) : Option (Document × List Char) := do
  let ((path, key), rest) ← readKey input
  let rest ← match rest with
    | ']' :: ']' :: rest => finishLine rest
    | _ => none
  let entries ← Outline.openSeries path key d.entries
  some (⟨entries, path ++ [key]⟩, rest)

def readEntry (d : Document) (input : List Char) : Option (Document × List Char) := do
  let ((path, key), rest) ← readKeyAndSign input
  let (value, rest) ← readValue rest
  let rest ← finishLine rest
  let d ← d.addEntry path key value
  some (d, rest)

/-- Reads one line or, of an array or a string, several. -/
def readLine (d : Document) (input : List Char) : Option (Document × List Char) :=
  match skipSpace input with
  | '[' :: '[' :: rest => d.readSeriesHeader rest
  | '[' :: rest => d.readHeader rest
  | rest =>
    match finishLine rest with
    | some rest => some (d, rest)
    | none => d.readEntry rest

/-- Reads lines up to the end, at most `fuel` of them. -/
def readLines : Nat → Document → List Char → Option Document
  | _, d, [] => some d
  | 0, _, _ => none
  | fuel + 1, d, input =>
    match d.readLine input with
    | some (d, rest) => readLines fuel d rest
    | none => none

end Document

/-- A text without the mark that may stand at its front to tell the order of bytes. -/
def withoutMark : List Char → List Char
  | '\uFEFF' :: rest => rest
  | text => text

/-- The entries of a document, if the text is one. -/
def parse? (text : String) : Option (List (String × Toml)) :=
  let input := withoutMark text.toList
  (Document.readLines input.length {} input).bind fun d =>
    entriesWithMoments? (Outline.completeEntries d.entries)

end MapSidebar.Toml
