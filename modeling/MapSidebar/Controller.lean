import MapSidebar.Pager.Basic

/-!
# Controllers

A controller fetches the content of a visit and shows it in the sidebar. It is made with the URL it
fetches for a visit and with what it does when content has been shown: highlight geometry, write
more to the sidebar, or mount pagers, which it owns from then on. `Controller.issue`,
`Controller.answered?` and `Controller.unloaded` are its steps; what it writes is returned.
-/
namespace MapSidebar

/-- The states of a controller. There is a fourth, for the time in which an unload clears the surfaces; it
is over within that step, so nobody sees it. -/
inductive ControllerState where
  | idle | loading | loaded
  deriving DecidableEq, Repr

def ControllerState.text : ControllerState → String
  | idle => "Idle"
  | loading => "Loading"
  | loaded => "Loaded"

/-- Whether nothing is being loaded. -/
def ControllerState.isSettled (s : ControllerState) : Bool := s ≠ .loading

/-- What a controller does once content has been shown. -/
inductive ReadyAction where
  | write (w : ScreenWrite)
  /-- Mounts a pager on a container. -/
  | mount (container : Nat) (options : PagerOptions)

structure ControllerSpec where
  name : String
  endpoint : Visit → String
  onReady : Visit → PartialContent → List ReadyAction

structure Controller where
  spec : ControllerSpec
  state : ControllerState := .idle
  sequence : Sequence := {}
  /-- The job of the fetch whose answer is awaited. -/
  task : Option Nat := none
  /-- The pagers mounted in the content on display. -/
  nested : List Nat := []

namespace Controller

def requestFor (c : Controller) (visit : Visit) : Request := { url := c.spec.endpoint visit }

def nextTicket (c : Controller) : Ticket := c.sequence.issue.2

/-- The controller, owning neither a fetch nor a pager, once `job` has been started. -/
def issue (c : Controller) (job : Nat) : Controller :=
  { c with sequence := c.sequence.issue.1, task := some job, nested := [], state := .loading }

def unloaded (c : Controller) : Controller :=
  { c with sequence := c.sequence.invalidate, task := none, nested := [], state := .idle }

/-- The writes that leave nothing of the content; an idle controller does not own the surfaces and
leaves them alone. -/
def unloadWrites (c : Controller) : List ScreenWrite :=
  if c.state = .idle then [] else [.sidebar .clear, .focus none]

/-- What is shown when content could not be had. -/
def failureMarkup (e : FetchError) : String :=
  Markup.errorFragment ("Failed to load content: " ++ e.message)

def showWrites : Except FetchError PartialContent → List ScreenWrite
  | .ok content => [.sidebar (.replace content.markup), .focus none]
  | .error e =>
    if e.isCancellation then [] else [.focus none, .sidebar (.replace (failureMarkup e))]

def settled (c : Controller) : Controller := { c with task := none, state := .loaded }

def contentOf (answer : Answer) : Except FetchError PartialContent := do
  let response ← answer
  PartialContent.ofResponse response

end Controller

end MapSidebar
