import MapSidebar.Request
import MapSidebar.Response

/-!
# Jobs and their requests

A job is started at one time and runs at another: when it first runs it sends a request, and when
the answer has come it runs once more and ends. Jobs that have something to do stand on the agenda
and run in the order in which they came to stand there. A job that is aborted does nothing any
more, but until it comes up on the agenda its request stays out and takes an answer.

`Schedule` keeps the jobs, the agenda and the requests that have been sent; what a job does when it
runs is the owner's business, so `Schedule` only moves jobs from phase to phase.
-/
namespace MapSidebar

/-- How far a job has come. -/
inductive Phase where
  /-- It has not run yet. -/
  | queued
  /-- Its request is out. -/
  | waiting
  /-- The answer has come. -/
  | answered (answer : Answer)
  | ended
  deriving Repr

/-- A job for its owner to run. -/
structure Job (κ : Type) where
  task : κ
  phase : Phase := .queued
  aborted : Bool := false
  deriving Repr

structure Sent where
  job : Nat
  request : Request
  /-- Whether an answer has been given, wanted or not. -/
  answered : Bool := false
  deriving Repr

/-- The jobs ever started, those with something to do, and the requests ever sent. -/
structure Schedule (κ : Type) where
  jobs : List (Job κ) := []
  agenda : List Nat := []
  sent : List Sent := []
  deriving Repr

/-- What became of an answer. -/
inductive Delivery where
  /-- Its request still waited. -/
  | delivered
  /-- Nobody waited for it any more. -/
  | unwanted
  /-- There was no such request, or it had been answered. -/
  | noRequest
  deriving DecidableEq, Repr

namespace Phase

/-- Whether a request is out and no answer has come. -/
def isWaiting : Phase → Bool
  | waiting => true
  | _ => false

/-- Whether nothing is left to do. -/
def isEnded : Phase → Bool
  | ended => true
  | _ => false

end Phase

namespace Schedule

variable {κ : Type}

/-- Puts a job on the agenda, unless it stands there. -/
def wake (s : Schedule κ) (job : Nat) : Schedule κ :=
  if s.agenda.contains job then s else { s with agenda := s.agenda ++ [job] }

def nextJob (s : Schedule κ) : Nat := s.jobs.length

def start (s : Schedule κ) (task : κ) : Schedule κ :=
  { s with jobs := s.jobs ++ [{ task }], agenda := s.agenda ++ [s.nextJob] }

/-- Aborts a job that has not ended; it takes notice when it comes up on the agenda. -/
def abort (s : Schedule κ) (job : Nat) : Schedule κ :=
  match s.jobs[job]? with
  | none => s
  | some j =>
    if j.phase.isEnded then s
    else wake { s with jobs := s.jobs.set job { j with aborted := true } } job

def setPhase (s : Schedule κ) (job : Nat) (phase : Phase) : Schedule κ :=
  match s.jobs[job]? with
  | none => s
  | some j => { s with jobs := s.jobs.set job { j with phase } }

/-- Sends the request of a job, which then waits. -/
def send (s : Schedule κ) (job : Nat) (request : Request) : Schedule κ :=
  let s := s.setPhase job .waiting
  { s with sent := s.sent ++ [{ job, request }] }

/-- Whether a request waits for its answer. -/
def isLive (s : Schedule κ) (sent : Sent) : Bool :=
  match s.jobs[sent.job]? with
  | some j => j.phase.isWaiting
  | none => false

/-- The numbers of the requests that wait for their answers, in the order in which they were
sent. -/
def live (s : Schedule κ) : List Nat :=
  (s.sent.zipIdx.filter fun (sent, _) => s.isLive sent).map Prod.snd

def answer (s : Schedule κ) (request : Nat) (a : Answer) : Schedule κ × Delivery :=
  match s.sent[request]? with
  | none => (s, .noRequest)
  | some sent =>
    if sent.answered then (s, .noRequest)
    else
      let closed := { s with sent := s.sent.set request { sent with answered := true } }
      if s.isLive sent then ((closed.setPhase sent.job (.answered a)).wake sent.job, .delivered)
      else (closed, .unwanted)

/-- Takes the first job off the agenda. -/
def next? (s : Schedule κ) : Option (Nat × Schedule κ) :=
  match s.agenda with
  | [] => none
  | job :: agenda => some (job, { s with agenda })

end Schedule

end MapSidebar
