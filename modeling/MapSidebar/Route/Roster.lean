import MapSidebar.Controller
import MapSidebar.Route.Router

/-!
# Targets that only keep their state

A roster holds targets that are merely loaded or idle, so that a router can be driven without any
content. Each call on a target is remembered.
-/
namespace MapSidebar

/-- A target that only keeps its state. -/
structure RosterEntry where
  id : String
  name : String
  /-- Whether calls on it are remembered. -/
  recorded : Bool
  state : ControllerState := .idle
  deriving DecidableEq, Repr

/-- A router over targets that only keep their state; the last target is the fallback. -/
structure Roster where
  entries : List RosterEntry
  router : Router Nat
  log : List (Call Nat) := []

namespace Roster

/-- The name of the target that takes what no other does. -/
def idleName : String := "index"

/-- A roster of targets. The fallback is one of them, or else a target of its own, which stands
after all of them. -/
def new (entries : List RosterEntry) (fallback : Option String) : Roster :=
  let index := match fallback with
    | some id => entries.findIdx fun entry => entry.id = id
    | none => entries.length
  { entries := entries ++ [{ id := "", name := idleName, recorded := false }]
    router := { fallback := index } }

/-- The place of the target of an id. -/
def find? (r : Roster) (id : String) : Option Nat :=
  r.entries.dropLast.findIdx? fun entry => entry.id = id

def register (r : Roster) (pattern : String) (target : Nat) : Except RouteError Roster :=
  let name := match r.entries[target]? with
    | some entry => entry.name
    | none => idleName
  (r.router.register pattern name target).map fun router => { r with router }

def call (r : Roster) (c : Call Nat) : Roster :=
  let (target, state) := match c with
    | .load target _ => (target, ControllerState.loaded)
    | .unload target => (target, ControllerState.idle)
  let recorded := (r.entries[target]?).any (·.recorded)
  { r with
    entries := r.entries.modify target fun entry => { entry with state }
    log := if recorded then r.log ++ [c] else r.log }

def dispatch (r : Roster) (url : String) : Roster × Dispatch :=
  let (router, outcome, calls) := r.router.dispatch url
  (calls.foldl call { r with router }, outcome)

def leave (r : Roster) : Roster :=
  let (router, calls) := r.router.leave
  calls.foldl call { r with router }

def active? (r : Roster) : Option RosterEntry :=
  r.router.active.bind fun target => r.entries[target]?

end Roster

end MapSidebar
