import MapSidebar.Request
import MapSidebar.Route.Location

/-!
# Routing

A router keeps routes in the order in which they were registered; the first whose pattern matches a
path wins, and a fallback takes what none matches. One target is active at a time: a dispatch loads
the target that it finds and, if that is another one than the active one, unloads that first. The
router only says which calls are to be made.
-/
namespace MapSidebar

inductive Call (κ : Type) where
  | load (target : κ) (visit : Visit)
  | unload (target : κ)
  deriving DecidableEq, Repr

structure Route (κ : Type) where
  name : String
  pattern : Pattern
  target : κ
  deriving Repr

structure Dispatch where
  /-- The name of the route, unless the fallback took over. -/
  route : Option String
  groups : Groups
  /-- Whether another target was active before, or none. -/
  changed : Bool
  deriving DecidableEq, Repr

/-- Routes, a fallback and the active target. -/
structure Router (κ : Type) where
  routes : List (Route κ) := []
  fallback : κ
  active : Option κ := none
  deriving Repr

namespace Router

variable {κ : Type} [DecidableEq κ]

def isRegistered (r : Router κ) (text : String) : Bool :=
  r.routes.any fun route => route.pattern.text = text

/-- Registers a pattern for a target of a given name. -/
def register (r : Router κ) (pattern : String) (name : String) (target : κ) :
    Except RouteError (Router κ) := do
  let pattern ← Pattern.parse pattern
  if r.isRegistered pattern.text then .error (.duplicateRoute pattern.text)
  else .ok { r with routes := r.routes ++ [⟨name, pattern, target⟩] }

/-- The first route whose pattern matches a path, with what it captures. -/
def resolve (r : Router κ) (path : String) : Option (Route κ × Groups) :=
  r.routes.findSome? fun route => (route.pattern.match? path).map (route, ·)

/-- The calls that make `target` the active one and load a visit in it. -/
def calls (active : Option κ) (target : κ) (visit : Visit) : List (Call κ) :=
  match active with
  | some previous =>
    if previous = target then [.load target visit] else [.unload previous, .load target visit]
  | none => [.load target visit]

def dispatch (r : Router κ) (url : String) : Router κ × Dispatch × List (Call κ) :=
  let location := Location.parse url
  let (name, groups, target) := match r.resolve location.path with
    | some (route, groups) => (some route.name, groups, route.target)
    | none => (none, [], r.fallback)
  let visit : Visit := ⟨groups, location.query, location.fragment⟩
  ({ r with active := some target }, ⟨name, groups, r.active ≠ some target⟩,
    calls r.active target visit)

def leave (r : Router κ) : Router κ × List (Call κ) :=
  match r.active with
  | some previous => ({ r with active := none }, [.unload previous])
  | none => (r, [])

end Router

end MapSidebar
