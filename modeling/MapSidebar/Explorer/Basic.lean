import MapSidebar.Route.Router
import MapSidebar.Route.Standard
import MapSidebar.Stage.Basic

/-!
# The sidebar of the map

The standard routes over one stage: a router whose targets are the controllers of the stage, with
plain map browsing as the fallback, which shows nothing and fetches nothing.
-/
namespace MapSidebar

/-- What a URL can lead to. -/
inductive Target where
  /-- Plain map browsing. -/
  | browsing
  /-- A controller of the stage. -/
  | controller (index : Nat)
  deriving DecidableEq, Repr

/-- The sidebar of the map. -/
structure Explorer where
  stage : Stage
  router : Router Target
  /-- The state of plain map browsing. -/
  browsing : ControllerState := .idle

namespace Explorer

/-- Registers the standard routes, each for the controller of its place. -/
def standardRouter : Except RouteError (Router Target) :=
  StandardRoute.all.zipIdx.foldlM
    (fun router (route, index) => router.register route.pattern route.name (.controller index))
    { fallback := .browsing }

/-- The sidebar with the standard routes; with a list, its container is the first of the screen. -/
def new (settings : Settings) (withList : Bool) : Except RouteError Explorer :=
  standardRouter.map fun router =>
    let container := if withList then some 0 else none
    { stage :=
        { screen := { containers := if withList then [{}] else [] }
          controllers := StandardRoute.all.map fun route =>
            { spec := route.spec settings container } }
      router }

def call (e : Explorer) : Call Target → Explorer
  | .load .browsing _ => { e with browsing := .loaded }
  | .unload .browsing => { e with browsing := .idle }
  | .load (.controller index) visit => { e with stage := e.stage.load index visit }
  | .unload (.controller index) => { e with stage := e.stage.unload index }

def dispatch (e : Explorer) (url : String) : Explorer × Dispatch :=
  let (router, outcome, calls) := e.router.dispatch url
  (calls.foldl call { e with router }, outcome)

def leave (e : Explorer) : Explorer :=
  let (router, calls) := e.router.leave
  calls.foldl call { e with router }

def targetState (e : Explorer) : Target → Option (String × ControllerState)
  | .browsing => some ("index", e.browsing)
  | .controller index => e.stage.controllers[index]?.map fun c => (c.spec.name, c.state)

def active? (e : Explorer) : Option (String × ControllerState) :=
  e.router.active.bind e.targetState

/-- The routes whose controllers are not idle, in order, with their states. -/
def busy (e : Explorer) : List (String × ControllerState) :=
  e.router.routes.filterMap fun route =>
    match e.targetState route.target with
    | some (_, state) => if state = .idle then none else some (route.name, state)
    | none => none

def answer (e : Explorer) (request : Nat) (a : Answer) : Explorer × Delivery :=
  let (schedule, delivery) := e.stage.schedule.answer request a
  ({ e with stage := { e.stage with schedule } }, delivery)

/-- Runs jobs until none has anything to do. -/
def settle (e : Explorer) : Explorer := { e with stage := e.stage.settle }

def step (e : Explorer) : Explorer := { e with stage := e.stage.step }

/-- A call, or a happening from outside. -/
inductive Action where
  | dispatch (url : String)
  | leave
  | answer (request : Nat) (a : Answer)
  /-- The first job of the agenda runs. -/
  | step

def perform (e : Explorer) : Action → Explorer
  | .dispatch url => (e.dispatch url).1
  | .leave => e.leave
  | .answer request a => (e.answer request a).1
  | .step => e.step

end Explorer

end MapSidebar
