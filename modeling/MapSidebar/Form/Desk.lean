import MapSidebar.Form.Submission
import MapSidebar.Schedule

/-!
# Submissions of one form

A desk holds a form, its panel and all submissions of it, each a job. One submission runs at a time:
it holds the guard from its start to its end, however it ends, and when it lets go of the guard the
submit control is enabled. A submission that starts while another holds the guard is ignored.
-/
namespace MapSidebar

/-- A form, its panel and its submissions, which have the numbers of their jobs. -/
structure FormDesk where
  form : Form
  panel : FormPanel := {}
  /-- Whether a submission holds the guard. -/
  inFlight : Bool := false
  schedule : Schedule Unit := {}
  /-- The outcomes of the submissions that have one. -/
  outcomes : List (Option SubmitOutcome) := []
  /-- What has happened, the latest last. -/
  log : List FormEvent := []

inductive SubmissionStatus where
  | pending
  | aborted
  | ended (outcome : SubmitOutcome)
  deriving Repr

namespace FormDesk

def emit (d : FormDesk) (e : FormEvent) : FormDesk :=
  let panel := match e with
    | .panel w => w.apply d.panel
    | .success _ _ => d.panel
  { d with panel, log := d.log ++ [e] }

def emitAll (d : FormDesk) (es : List FormEvent) : FormDesk := es.foldl emit d

def setField (d : FormDesk) (name value : String) : FormDesk :=
  { d with form := { d.form with fields := d.form.fields.set name value } }

/-- Configures the form, once; says whether this was the first time. -/
def configure (d : FormDesk) (handler : FormHandler) : FormDesk × Bool :=
  match d.form.handler with
  | some _ => (d, false)
  | none => ({ d with form := { d.form with handler := some handler } }, true)

def submit (d : FormDesk) : FormDesk :=
  { d with schedule := d.schedule.start (), outcomes := d.outcomes ++ [none] }

def status? (d : FormDesk) (submission : Nat) : Option SubmissionStatus :=
  match d.outcomes[submission]?, d.schedule.jobs[submission]? with
  | some (some outcome), _ => some (.ended outcome)
  | some none, some job => some (if job.aborted then .aborted else .pending)
  | _, _ => none

def statuses (d : FormDesk) : List SubmissionStatus :=
  (List.range d.outcomes.length).filterMap d.status?

/-- Whether a submission still has to run, be it only to end as an aborted one. -/
def isUnfinished (d : FormDesk) (submission : Nat) : Bool :=
  (d.schedule.jobs[submission]?).any fun job => !job.phase.isEnded

/-- Aborts a submission, and says whether it was unfinished. -/
def abort (d : FormDesk) (submission : Nat) : FormDesk × Bool :=
  if d.isUnfinished submission then ({ d with schedule := d.schedule.abort submission }, true)
  else (d, false)

def answer (d : FormDesk) (request : Nat) (a : Answer) : FormDesk × Delivery :=
  let (schedule, delivery) := d.schedule.answer request a
  ({ d with schedule }, delivery)

/-- Ends a submission that got as far as an outcome. -/
def finish (d : FormDesk) (submission : Nat) (outcome : SubmitOutcome) : FormDesk :=
  { d with
    schedule := d.schedule.setPhase submission .ended
    outcomes := d.outcomes.set submission (some outcome) }

def releaseGuard (d : FormDesk) : FormDesk :=
  { d with inFlight := false }.emit (.panel (.enable true))

def runFirst (d : FormDesk) (submission : Nat) : FormDesk :=
  match d.form.handler with
  | none => d.finish submission .native
  | some handler =>
    if d.inFlight then d.finish submission .ignored
    else
      let (events, next) := Submission.begin d.form handler
      let d := { d with inFlight := true }.emitAll events
      match next with
      | .inl outcome => (d.finish submission outcome).releaseGuard
      | .inr request => { d with schedule := d.schedule.send submission request }

def runAnswered (d : FormDesk) (submission : Nat) (a : Answer) : FormDesk :=
  let receiver := (d.form.handler.map (·.receiver)).getD ""
  let (events, outcome) := Submission.conclude receiver a
  ((d.emitAll events).finish submission outcome).releaseGuard

/-- Ends a submission that was aborted; it holds the guard if it has been started. -/
def runAborted (d : FormDesk) (submission : Nat) (phase : Phase) : FormDesk :=
  let d := { d with schedule := d.schedule.setPhase submission .ended }
  match phase with
  | .waiting => d.releaseGuard
  | .answered _ => d.releaseGuard
  | .queued => d
  | .ended => d

def runJob (d : FormDesk) (submission : Nat) : FormDesk :=
  match d.schedule.jobs[submission]? with
  | none => d
  | some j =>
    if j.aborted then d.runAborted submission j.phase
    else match j.phase with
      | .queued => d.runFirst submission
      | .answered a => d.runAnswered submission a
      | .waiting => d
      | .ended => d

def step (d : FormDesk) : FormDesk :=
  match d.schedule.next? with
  | none => d
  | some (submission, schedule) => runJob { d with schedule } submission

/-- Runs submissions until none has anything to do; none starts another. -/
def settle (d : FormDesk) : FormDesk := d.schedule.agenda.foldl (fun d _ => d.step) d

/-- A call, or a happening from outside. -/
inductive Action where
  | setField (name value : String)
  | configure (handler : FormHandler)
  | submit
  | abort (submission : Nat)
  | answer (request : Nat) (a : Answer)
  /-- The first submission of the agenda runs. -/
  | step

def perform (d : FormDesk) : Action → FormDesk
  | .setField name value => d.setField name value
  | .configure handler => (d.configure handler).1
  | .submit => d.submit
  | .abort submission => (d.abort submission).1
  | .answer request a => (d.answer request a).1
  | .step => d.step

end FormDesk

end MapSidebar
