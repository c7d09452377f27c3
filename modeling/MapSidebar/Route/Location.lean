import MapSidebar.Url.Basic

/-!
# Where a URL leads

A navigated URL is taken apart into path, query and fragment. An absolute URL with a host is read by
the rules for URLs, which bring it to normal form; any other text is cut at its first `#` and, before
that, at its first `?`, and its parts are kept as they stand.
-/
namespace MapSidebar

/-- A navigated URL in its parts. -/
structure Location where
  path : String
  query : Option String
  fragment : Option String
  deriving DecidableEq, Repr

namespace Location

/-- Cuts a text at a separator, and gives nothing for what would follow a missing one. -/
def cut (sep : Char) (text : List Char) : List Char × Option (List Char) :=
  match Text.cutFirst sep text with
  | some (before, after) => (before, some after)
  | none => (text, none)

/-- The parts of a text that is cut as it stands. -/
def ofText (text : List Char) : Location :=
  let (rest, fragment) := cut '#' text
  let (path, query) := cut '?' rest
  ⟨String.ofList path, query.map String.ofList, fragment.map String.ofList⟩

def ofUrl (u : Url) : Location :=
  ⟨String.ofList u.path, u.query.map String.ofList, u.fragment.map String.ofList⟩

/-- The URL with a host that a text writes, if it does. -/
def absolute? (text : String) : Option Url :=
  match Url.parse text with
  | .ok u => if u.hasHost then some u else none
  | .error _ => none

def parse (text : String) : Location :=
  match absolute? text with
  | some u => ofUrl u
  | none => ofText text.toList

end Location

end MapSidebar
