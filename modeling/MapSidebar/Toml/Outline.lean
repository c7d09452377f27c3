import MapSidebar.Toml.Basic

/-!
# Tables under construction

Entries come one at a time, each at a path of keys, and the tables on the way come to be when they
are first needed. How a table came to be decides what may still be added to it: a table that was
written out as a whole takes no dotted key from outside, and a key is given a value only once.
-/
namespace MapSidebar.Toml

/-- How a table came to be. -/
inductive TableOrigin where
  /-- It has a header of its own. -/
  | header
  /-- It lies on the way to a table with a header. -/
  | implied
  /-- It lies on the way to a dotted key. -/
  | dotted
  deriving DecidableEq, Repr

/-- What a key stands for so far. -/
inductive Outline where
  /-- A value that is complete. -/
  | value (v : Toml)
  | table (origin : TableOrigin) (entries : List (String × Outline))
  /-- An array of tables with headers, of which the last is open. -/
  | series (tables : List (List (String × Outline)))
  deriving Repr

namespace Outline

mutual

def complete : Outline → Toml
  | .value v => v
  | .table _ entries => .table (completeEntries entries)
  | .series tables => .array (completeTables tables)

def completeEntries : List (String × Outline) → List (String × Toml)
  | [] => []
  | (key, outline) :: entries => (key, complete outline) :: completeEntries entries

def completeTables : List (List (String × Outline)) → List Toml
  | [] => []
  | entries :: tables => .table (completeEntries entries) :: completeTables tables

end

/-- Puts an outline in the place of the one under a key, or at the end. -/
def put (key : String) (outline : Outline) : List (String × Outline) → List (String × Outline)
  | [] => [(key, outline)]
  | (k, old) :: entries =>
    if k = key then (key, outline) :: entries else (k, old) :: put key outline entries

/-- Changes the entries of the table at a path. The tables on the way that are not there come to be
as `fresh` ones; a way of dotted keys must not lead through a table with a header. -/
def within (fresh : TableOrigin)
    (change : TableOrigin → List (String × Outline) → Option (List (String × Outline))) :
    List String → TableOrigin → List (String × Outline) → Option (List (String × Outline))
  | [], origin, entries => change origin entries
  | key :: path, _, entries =>
    match entries.lookup key with
    | none =>
      (within fresh change path fresh []).map fun inner => put key (.table fresh inner) entries
    | some (.value _) => none
    | some (.table origin inner) =>
      if fresh = .dotted && origin = .header then none
      else (within fresh change path origin inner).map fun inner =>
        put key (.table origin inner) entries
    | some (.series tables) =>
      match tables.getLast? with
      | none => none
      | some last => (within fresh change path .header last).map fun last =>
        put key (.series (tables.dropLast ++ [last])) entries

/-- Adds a value under a dotted key, whose last part is `key`, to the entries of a table. -/
def addValue (path : List String) (key : String) (v : Toml) (entries : List (String × Outline)) :
    Option (List (String × Outline)) :=
  within .dotted
    (fun origin inner =>
      if (path.isEmpty || origin = .dotted) && (inner.lookup key).isNone then
        some (put key (.value v) inner)
      else none)
    path .header entries

/-- Opens the table of a header, whose last part is `key`. A table that was only on the way to others
moves to the end. -/
def openTable (path : List String) (key : String) (entries : List (String × Outline)) :
    Option (List (String × Outline)) :=
  within .implied
    (fun _ inner =>
      match inner.lookup key with
      | none => some (put key (.table .header []) inner)
      | some (.table .implied children) =>
        some (inner.filter (fun entry => entry.1 ≠ key) ++ [(key, .table .header children)])
      | _ => none)
    path .header entries

/-- Opens one more table of the array of a header, whose last part is `key`. -/
def openSeries (path : List String) (key : String) (entries : List (String × Outline)) :
    Option (List (String × Outline)) :=
  within .implied
    (fun _ inner =>
      match inner.lookup key with
      | none => some (put key (.series [[]]) inner)
      | some (.series tables) => some (put key (.series (tables ++ [[]])) inner)
      | _ => none)
    path .header entries

end Outline

end MapSidebar.Toml
