import MapSidebar.Controller
import MapSidebar.Schedule

/-!
# Controllers and pagers on one screen

A stage holds everything that runs together: the screen, the controllers, all pagers ever mounted
and their jobs. `perform` carries out one call or one happening from outside, and `step` runs the job
that is first on the agenda; every run is a sequence of these. `settle` runs jobs until none has
anything to do.
-/
namespace MapSidebar

/-- What a job is for, with the ticket that it was issued under and the request that it sends. -/
inductive StageTask where
  /-- To fetch the content of a visit for a controller. -/
  | content (controller : Nat) (ticket : Ticket) (visit : Visit) (request : Request)
  /-- To fetch a page for a pager. -/
  | page (pager : Nat) (ticket : Ticket) (request : Request)
  deriving Repr

def StageTask.request : StageTask → Request
  | .content _ _ _ request => request
  | .page _ _ request => request

/-- What can be seen of a run. -/
inductive StageEvent where
  | write (w : ScreenWrite)
  /-- A controller has shown content. -/
  | ready (controller : Nat) (visit : Visit) (structured : Bool)
  /-- The hook of a pager has been called, with the items as they were. -/
  | hook (pager : Nat) (items : String)
  deriving Repr

/-- Everything that runs together. -/
structure Stage where
  screen : Screen := {}
  controllers : List Controller := []
  pagers : List Pager := []
  schedule : Schedule StageTask := {}
  /-- What has happened, the latest last. -/
  log : List StageEvent := []

namespace Stage

def note (s : Stage) (e : StageEvent) : Stage := { s with log := s.log ++ [e] }

def write (s : Stage) (w : ScreenWrite) : Stage :=
  { s with screen := w.apply s.screen, log := s.log ++ [.write w] }

def writeAll (s : Stage) (ws : List ScreenWrite) : Stage := ws.foldl write s

def writeContainer (s : Stage) (container : Nat) (ws : List ContainerWrite) : Stage :=
  s.writeAll (ws.map (.container container))

/-- Aborts a job, if there is one. -/
def abort (s : Stage) (task : Option Nat) : Stage :=
  match task with
  | some job => { s with schedule := s.schedule.abort job }
  | none => s

def start (s : Stage) (task : StageTask) : Stage := { s with schedule := s.schedule.start task }

def setPager (s : Stage) (index : Nat) (p : Pager) : Stage :=
  { s with pagers := s.pagers.set index p }

def setController (s : Stage) (index : Nat) (c : Controller) : Stage :=
  { s with controllers := s.controllers.set index c }

/-! ## Pagers -/

def issuePage (s : Stage) (index : Nat) (p : Pager) (target : PageTarget) : Stage :=
  let s := s.abort p.task
  (s.setPager index (p.issue target s.schedule.nextJob)).start
    (.page index p.nextTicket (p.requestFor target))

/-- Mounts a pager on a container and asks for its first page. -/
def mount (s : Stage) (container : Nat) (options : PagerOptions) : Stage :=
  let p : Pager := { container, options }
  issuePage { s with pagers := s.pagers ++ [p] } s.pagers.length p options.mode.first

/-- Moves a pager, and says whether the move was accepted. -/
def move (s : Stage) (index : Nat) (m : PageMove) : Except PageOverflow (Stage × Bool) :=
  match s.pagers[index]? with
  | none => .ok (s, false)
  | some p =>
    (p.request? m).map fun
      | some target => (s.issuePage index p target, true)
      | none => (s, false)

def unmount (s : Stage) (index : Nat) : Stage :=
  match s.pagers[index]? with
  | none => s
  | some p =>
    ((s.abort p.task).setPager index p.unmounted).writeContainer p.container Pager.unmountWrites

def runHook (s : Stage) (index : Nat) (p : Pager) : Stage :=
  match p.options.hook with
  | none => s
  | some hook =>
    let items := (s.screen.container p.container).items
    (s.note (.hook index items)).writeContainer p.container ((hook items).map .items)

def applyPage (s : Stage) (index : Nat) (ticket : Ticket) (a : Answer) : Stage :=
  match s.pagers[index]? with
  | none => s
  | some p =>
    match p.answered? ticket (Pager.pageOf a) with
    | none => s
    | some (next, writes, shown) =>
      let s := (s.setPager index next).writeContainer p.container writes
      if shown then s.runHook index p else s

/-! ## Controllers -/

/-- Stops the fetch of a controller and takes away the pagers that it owns. -/
def release (s : Stage) (c : Controller) : Stage :=
  c.nested.foldl unmount (s.abort c.task)

/-- Lets a controller fetch the content of a visit. -/
def load (s : Stage) (index : Nat) (visit : Visit) : Stage :=
  match s.controllers[index]? with
  | none => s
  | some c =>
    let s := s.release c
    (s.setController index (c.issue s.schedule.nextJob)).start
      (.content index c.nextTicket visit (c.requestFor visit))

/-- Lets a controller let go of everything. -/
def unload (s : Stage) (index : Nat) : Stage :=
  match s.controllers[index]? with
  | none => s
  | some c => ((s.release c).setController index c.unloaded).writeAll c.unloadWrites

/-- Gives a mounted pager to a controller. -/
def attach (s : Stage) (index : Nat) (pager : Nat) : Stage :=
  { s with controllers := s.controllers.modify index fun c => { c with nested := c.nested ++ [pager] } }

/-- Carries out what a controller does once content has been shown. -/
def act (index : Nat) (s : Stage) : ReadyAction → Stage
  | .write w => s.write w
  | .mount container options => (s.mount container options).attach index s.pagers.length

def applyContent (s : Stage) (index : Nat) (ticket : Ticket) (visit : Visit) (a : Answer) : Stage :=
  match s.controllers[index]? with
  | none => s
  | some c =>
    if c.sequence.isCurrent ticket then
      let result := Controller.contentOf a
      let s := (s.setController index c.settled).writeAll (Controller.showWrites result)
      match result with
      | .error _ => s
      | .ok content =>
        let s := s.note (.ready index visit content.payload?.isSome)
        (c.spec.onReady visit content).foldl (act index) s
    else s

/-! ## Running -/

def applyTask (s : Stage) (a : Answer) : StageTask → Stage
  | .content controller ticket visit _ => s.applyContent controller ticket visit a
  | .page pager ticket _ => s.applyPage pager ticket a

/-- Runs a job once: a new one sends its request, and one that has its answer uses it. -/
def runJob (s : Stage) (job : Nat) : Stage :=
  match s.schedule.jobs[job]? with
  | none => s
  | some j =>
    if j.aborted then { s with schedule := s.schedule.setPhase job .ended }
    else match j.phase with
      | .queued => { s with schedule := s.schedule.send job j.task.request }
      | .answered a => applyTask { s with schedule := s.schedule.setPhase job .ended } a j.task
      | .waiting => s
      | .ended => s

/-- Runs the job that is first on the agenda. -/
def step (s : Stage) : Stage :=
  match s.schedule.next? with
  | none => s
  | some (job, schedule) => runJob { s with schedule } job

/-- Runs as many jobs as are on the agenda now. -/
def round (s : Stage) : Stage := s.schedule.agenda.foldl (fun s _ => s.step) s

/-- Runs jobs until none has anything to do. Jobs that are started in the first round only send
their requests in the second. -/
def settle (s : Stage) : Stage := s.round.round

/-- A call, or a happening from outside. -/
inductive Action where
  | load (controller : Nat) (visit : Visit)
  | unload (controller : Nat)
  | mount (container : Nat) (options : PagerOptions)
  | move (pager : Nat) (m : PageMove)
  | unmount (pager : Nat)
  | answer (request : Nat) (a : Answer)
  /-- The first job of the agenda runs. -/
  | step

/-- The stage after an action. A move that overflows changes nothing. -/
def perform (s : Stage) : Action → Stage
  | .load controller visit => s.load controller visit
  | .unload controller => s.unload controller
  | .mount container options => s.mount container options
  | .move pager m => match s.move pager m with
    | .ok (s, _) => s
    | .error _ => s
  | .unmount pager => s.unmount pager
  | .answer request a => { s with schedule := (s.schedule.answer request a).1 }
  | .step => s.step

end Stage

end MapSidebar
