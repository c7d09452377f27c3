import MapSidebar.Explorer.Basic
import MapSidebar.Log

/-!
# Tours

A tour visits URLs one after another and shows after each what has come to stand on the screen. A
sidebar without a list sends at most one request for a URL, so a visit is over when that has its
answer. What a visit logs comes before what it shows.
-/
namespace MapSidebar

/-- What a controller logs of the result of a fetch. -/
def Controller.resultLog (c : Controller) (ticket : Ticket) :
    Except FetchError PartialContent → List LogLine
  | .ok _ => []
  | .error e => if e.isCancellation then [] else [.contentFailed c.spec.name ticket.value e.message]

/-- What is logged when a request is answered: a controller that still waits for the answer reads its
content. -/
def Stage.answerLog (s : Stage) (request : Nat) (a : Answer) : List LogLine :=
  match s.schedule.sent[request]?.bind fun sent => s.schedule.jobs[sent.job]? with
  | some { task := .content index ticket _ _, .. } =>
    match s.controllers[index]? with
    | some c =>
      if c.sequence.isCurrent ticket then c.resultLog ticket (Controller.contentOf a) else []
    | none => []
  | _ => []

namespace Explorer

/-- The request that waits, with its number, if one does. -/
def waiting? (e : Explorer) : Option (Nat × Request) := do
  let id ← e.stage.schedule.live.head?
  let sent ← e.stage.schedule.sent[id]?
  some (id, sent.request)

/-- Lets `serve` answer the request that waits, if one does, and gives what is logged of it. -/
def serveWaiting {m : Type → Type} [Monad m] (serve : Request → m Answer) (e : Explorer) :
    m (Explorer × List LogLine) :=
  match e.waiting? with
  | none => pure (e, [])
  | some (id, request) => do
    let a ← serve request
    pure ((e.answer id a).1.settle, e.stage.answerLog id a)

/-- What is logged of a dispatch that led from `e` to `led`; the first one leaves nothing. -/
def dispatchLog (e led : Explorer) (outcome : Dispatch) : List LogLine :=
  match e.active?, led.active? with
  | some (previous, _), some (next, _) =>
    if outcome.changed then [.switching previous next] else []
  | _, _ => []

/-- What is shown of a visit: a header that names the route, the sidebar, and the geometry if there
is any. -/
def block (url : String) (outcome : Dispatch) (screen : Screen) : String :=
  "== " ++ url ++ " -> " ++ outcome.route.getD "index" ++ "\n" ++ screen.sidebar ++ "\n"
    ++ match screen.focus with
      | some data => "focus: " ++ data.json.text ++ "\n"
      | none => ""

/-- Visits a URL and gives what is logged and what is shown of it. -/
def visit {m : Type → Type} [Monad m] (serve : Request → m Answer) (e : Explorer) (url : String) :
    m (Explorer × List LogLine × String) := do
  let (led, outcome) := e.dispatch url
  let (done, log) ← led.settle.serveWaiting serve
  pure (done, e.dispatchLog led outcome ++ log, block url outcome done.stage.screen)

/-- Visits URLs in order and hands what is logged of each to `note` and what is shown to `output`. -/
def tour {m : Type → Type} [Monad m] (serve : Request → m Answer) (note : LogLine → m Unit)
    (output : String → m Unit) : Explorer → List String → m Unit
  | _, [] => pure ()
  | e, url :: urls => do
    let (e, log, shown) ← e.visit serve url
    log.forM note
    output shown
    tour serve note output e urls

end Explorer

end MapSidebar
