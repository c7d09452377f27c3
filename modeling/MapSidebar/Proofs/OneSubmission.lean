import MapSidebar.Form.Desk
import MapSidebar.Proofs.Phases

/-!
# One submission at a time

A run of a desk is any list of actions and of turns, which submissions are given in any order; in a
turn a submission goes on until it waits for its answer or ends. `Turned` says all that a turn can
come to, and `Called` what every other happening leaves alone. After every run at most one submission
runs, and it is the one that holds the guard, has a request and keeps the submit control disabled
(`Guarded`). One that comes to its first turn meanwhile is ignored and leaves everything as it is; once
none runs, the next is accepted.
-/
namespace MapSidebar

/-- The panel after an event. -/
def FormEvent.apply (p : FormPanel) : FormEvent → FormPanel
  | .panel w => w.apply p
  | .success _ _ => p

namespace FormDesk

/-! ## Runs -/

/-- Gives a submission its turn, wherever it stands on the agenda. -/
def turn (d : FormDesk) (n : Nat) : FormDesk := runJob { d with schedule := d.schedule.pick n } n

/-- Something that happens to a desk. -/
inductive Happening where
  | action (a : Action)
  | turn (submission : Nat)

def happen (d : FormDesk) : Happening → FormDesk
  | .action a => d.perform a
  | .turn n => d.turn n

def run (d : FormDesk) (history : List Happening) : FormDesk := history.foldl happen d

/-- The desk of a form nobody has submitted yet, with the messages that its panel shows. -/
def opened (form : Form) (messages : List FormMessage) : FormDesk := { form, panel := { messages } }

/-- What every happening keeps holds after every run. -/
theorem run_induction {motive : FormDesk → Prop} {d : FormDesk} (start : motive d)
    (kept : ∀ (t : FormDesk) (h : Happening), motive t → motive (t.happen h))
    (history : List Happening) : motive (d.run history) :=
  List.foldlRecOn history happen start fun t ht h _ => kept t h ht

/-- A step is the turn of the submission that is first on the agenda. -/
theorem step_cases (d : FormDesk) : d.step = d ∨ ∃ n, d.step = d.turn n := by
  cases h : d.schedule.agenda with
  | nil => exact .inl (by simp [step, Schedule.next?, h])
  | cons n rest => exact .inr ⟨n, by simp [step, Schedule.next?, h, turn, Schedule.pick]⟩

theorem emitAll_eq (d : FormDesk) (events : List FormEvent) :
    d.emitAll events =
      { d with panel := events.foldl FormEvent.apply d.panel, log := d.log ++ events } := by
  induction events generalizing d with
  | nil => simp [emitAll]
  | cons e rest ih =>
    have first : d.emit e = { d with panel := e.apply d.panel, log := d.log ++ [e] } := by
      cases e <;> rfl
    rw [emitAll, List.foldl_cons, ← emitAll, ih, first]
    simp

/-! ## Turns -/

/-- A submission has begun and has not ended. -/
def Runs (d : FormDesk) (n : Nat) : Prop := d.schedule.Runs n

/-- A submission has not begun and has not been aborted. -/
def Awaits (d : FormDesk) (n : Nat) : Prop :=
  d.schedule.jobs[n]? = some { task := (), phase := .queued, aborted := false }

/-- A submission has its answer and has not been aborted. -/
def HasAnswer (d : FormDesk) (n : Nat) (a : Answer) : Prop :=
  d.schedule.jobs[n]? = some { task := (), phase := .answered a, aborted := false }

/-- The desk once a submission that does not hold the guard is over. -/
def gone (d : FormDesk) (n : Nat) : FormDesk :=
  { d with schedule := (d.schedule.pick n).setPhase n .ended }

/-- The desk once a submission that never held the guard has ended with an outcome. -/
def turnAway (d : FormDesk) (n : Nat) (outcome : SubmitOutcome) : FormDesk :=
  { d.gone n with outcomes := d.outcomes.set n (some outcome) }

/-- The desk once the submission that holds the guard is over without an outcome. -/
def dropped (d : FormDesk) (n : Nat) : FormDesk :=
  { d.gone n with
    panel := { d.panel with submitEnabled := true }
    inFlight := false
    log := d.log ++ [.panel (.enable true)] }

/-- The desk once the submission that holds the guard has ended with an outcome, after some
events. -/
def endAfter (d : FormDesk) (n : Nat) (events : List FormEvent) (outcome : SubmitOutcome) :
    FormDesk :=
  { d.turnAway n outcome with
    panel := { events.foldl FormEvent.apply d.panel with submitEnabled := true }
    inFlight := false
    log := d.log ++ events ++ [.panel (.enable true)] }

/-- The desk once a submission that has taken the guard has sent its request, after some events. -/
def sendAfter (d : FormDesk) (n : Nat) (events : List FormEvent) (request : Request) : FormDesk :=
  { d with
    panel := events.foldl FormEvent.apply d.panel
    inFlight := true
    schedule := (d.schedule.pick n).send n request
    log := d.log ++ events }

/-- What the turn of a submission can come to. -/
inductive Turned (d : FormDesk) (n : Nat) : FormDesk → Prop where
  /-- It has nothing to do. -/
  | idle : (∀ j, d.schedule.jobs[n]? = some j →
      j.phase = .ended ∨ j.phase = .waiting ∧ j.aborted = false) →
    Turned d n { d with schedule := d.schedule.pick n }
  /-- It was aborted before it began. -/
  | withdrawn : d.schedule.phases[n]? = some .queued → Turned d n (d.gone n)
  /-- It was aborted while it ran. -/
  | dropped : d.Runs n → Turned d n (d.dropped n)
  /-- The form is not configured. -/
  | native : d.Awaits n → d.form.handler = none → Turned d n (d.turnAway n .native)
  /-- Another submission holds the guard. -/
  | ignored : d.Awaits n → d.inFlight = true → Turned d n (d.turnAway n .ignored)
  /-- It ends before a request. -/
  | refused {handler : FormHandler} {events : List FormEvent} {outcome : SubmitOutcome} :
    d.Awaits n → d.form.handler = some handler → d.inFlight = false →
    Submission.begin d.form handler = (events, .inl outcome) →
    Turned d n (d.endAfter n events outcome)
  /-- It sends its request. -/
  | sent {handler : FormHandler} {events : List FormEvent} {request : Request} :
    d.Awaits n → d.form.handler = some handler → d.inFlight = false →
    Submission.begin d.form handler = (events, .inr request) →
    Turned d n (d.sendAfter n events request)
  /-- It has its answer. -/
  | concluded {a : Answer} {events : List FormEvent} {outcome : SubmitOutcome} :
    d.HasAnswer n a →
    Submission.conclude ((d.form.handler.map (·.receiver)).getD "") a = (events, outcome) →
    Turned d n (d.endAfter n events outcome)

variable {d t : FormDesk} {n m : Nat}

theorem Awaits.queued (awaits : d.Awaits n) : d.schedule.phases[n]? = some .queued :=
  Schedule.phase_of_job awaits

theorem Awaits.not_runs (awaits : d.Awaits n) : ¬ d.Runs n := Schedule.not_in awaits.queued rfl

theorem HasAnswer.runs {a : Answer} (answered : d.HasAnswer n a) : d.Runs n :=
  ⟨_, Schedule.phase_of_job answered, rfl⟩

theorem phases_gone (d : FormDesk) (n : Nat) :
    (d.gone n).schedule.phases = d.schedule.phases.set n .ended :=
  Schedule.phases_setPhase (d.schedule.pick n) n .ended

theorem phases_sendAfter (d : FormDesk) (n : Nat) (events : List FormEvent) (request : Request) :
    (d.sendAfter n events request).schedule.phases = d.schedule.phases.set n .waiting :=
  Schedule.phases_send (d.schedule.pick n) n request

/-- The first turn of a submission that finds the guard taken. -/
theorem turn_ignored (awaits : d.Awaits n) {handler : FormHandler}
    (configured : d.form.handler = some handler) (taken : d.inFlight = true) :
    d.turn n = d.turnAway n .ignored := by
  have at_n : d.schedule.jobs[n]? = some ⟨(), .queued, false⟩ := awaits
  simp [turn, runJob, at_n, runFirst, configured, taken, finish, turnAway, gone]

/-- The first turn of a submission that finds the guard free. -/
theorem turn_accepted (awaits : d.Awaits n) {handler : FormHandler}
    (configured : d.form.handler = some handler) (free : d.inFlight = false) :
    d.turn n = match Submission.begin d.form handler with
      | (events, .inl outcome) => d.endAfter n events outcome
      | (events, .inr request) => d.sendAfter n events request := by
  have at_n : d.schedule.jobs[n]? = some ⟨(), .queued, false⟩ := awaits
  simp only [turn, runJob, Schedule.pick_jobs, at_n, runFirst, configured, free,
    Bool.false_eq_true, if_false]
  rcases Submission.begin d.form handler with ⟨events, outcome | request⟩
  · simp [emitAll_eq, finish, releaseGuard, emit, PanelWrite.apply, endAfter, turnAway, gone]
  · simp [emitAll_eq, sendAfter]

/-- The last turn of a submission. -/
theorem turn_answered {a : Answer} (answered : d.HasAnswer n a) :
    d.turn n =
      let (events, outcome) := Submission.conclude ((d.form.handler.map (·.receiver)).getD "") a
      d.endAfter n events outcome := by
  have at_n : d.schedule.jobs[n]? = some ⟨(), .answered a, false⟩ := answered
  simp [turn, runJob, at_n, runAnswered, emitAll_eq, finish, releaseGuard, emit, PanelWrite.apply,
    endAfter, turnAway, gone]

theorem turn_aborted {j : Job Unit} (at_n : d.schedule.jobs[n]? = some j)
    (aborted : j.aborted = true) :
    d.turn n = if j.phase.isRunning then d.dropped n else d.gone n := by
  obtain ⟨⟨⟩, phase, flag⟩ := j
  obtain rfl : flag = true := aborted
  cases phase <;>
    simp [turn, runJob, at_n, runAborted, releaseGuard, emit, PanelWrite.apply, dropped, gone,
      Phase.isRunning]

theorem gone_of_ended {j : Job Unit} (at_n : d.schedule.jobs[n]? = some j)
    (ended : j.phase = .ended) : d.gone n = { d with schedule := d.schedule.pick n } := by
  obtain ⟨bound, rfl⟩ := List.getElem?_eq_some_iff.mp at_n
  have same : { d.schedule.jobs[n] with phase := .ended } = d.schedule.jobs[n] := by rw [← ended]
  rw [gone, Schedule.setPhase_eq (s := d.schedule.pick n) at_n, same]
  simp [Schedule.pick]

theorem turn_cases (d : FormDesk) (n : Nat) : d.Turned n (d.turn n) := by
  cases at_n : d.schedule.jobs[n]? with
  | none =>
    have same : d.turn n = { d with schedule := d.schedule.pick n } := by
      simp [turn, runJob, at_n]
    exact same ▸ .idle (by simp [at_n])
  | some j =>
    obtain ⟨⟨⟩, phase, aborted⟩ := j
    cases aborted with
    | true =>
      rw [turn_aborted at_n rfl]
      cases phase with
      | queued => exact .withdrawn (Schedule.phase_of_job at_n)
      | waiting => exact .dropped ⟨_, Schedule.phase_of_job at_n, rfl⟩
      | answered a => exact .dropped ⟨_, Schedule.phase_of_job at_n, rfl⟩
      | ended =>
        simp only [Phase.isRunning, Bool.false_eq_true, if_false, gone_of_ended at_n rfl]
        exact .idle (by simp [at_n])
    | false =>
      cases phase with
      | queued =>
        cases configured : d.form.handler with
        | none =>
          have same : d.turn n = d.turnAway n .native := by
            simp [turn, runJob, at_n, runFirst, configured, finish, turnAway, gone]
          exact same ▸ .native at_n configured
        | some handler =>
          cases guard : d.inFlight with
          | true => exact turn_ignored at_n configured guard ▸ .ignored at_n guard
          | false =>
            rw [turn_accepted at_n configured guard]
            split
            next events outcome begins => exact .refused at_n configured guard begins
            next events request begins => exact .sent at_n configured guard begins
      | waiting =>
        have same : d.turn n = { d with schedule := d.schedule.pick n } := by
          simp [turn, runJob, at_n]
        exact same ▸ .idle (by simp [at_n])
      | ended =>
        have same : d.turn n = { d with schedule := d.schedule.pick n } := by
          simp [turn, runJob, at_n]
        exact same ▸ .idle (by simp [at_n])
      | answered a =>
        rw [turn_answered at_n]
        exact .concluded at_n rfl

/-- What calls leave alone: they write nothing, send nothing, let no submission begin or end, and do
not take back a configuration. -/
structure Called (d t : FormDesk) : Prop where
  log : t.log = d.log
  panel : t.panel = d.panel
  flag : t.inFlight = d.inFlight
  calls : d.schedule.Calls t.schedule
  handler : ∀ handler, d.form.handler = some handler → t.form.handler = some handler
  counted : d.outcomes.length = d.schedule.phases.length →
    t.outcomes.length = t.schedule.phases.length

theorem called_edit {form : Form}
    (kept : ∀ handler, d.form.handler = some handler → form.handler = some handler) :
    d.Called { d with form } :=
  ⟨rfl, rfl, rfl, .refl, kept, id⟩

theorem called_submit (d : FormDesk) : d.Called d.submit :=
  ⟨rfl, rfl, rfl, .start () .refl, fun _ same => same, fun counted => by simp [submit, counted]⟩

/-- A happening is a turn of some submission or leaves alone what calls do. -/
theorem happen_cases (d : FormDesk) (h : Happening) :
    (∃ n, d.Turned n (d.happen h)) ∨ d.Called (d.happen h) := by
  have same : d.Called d := called_edit fun _ same => same
  cases h with
  | turn n => exact .inl ⟨n, turn_cases d n⟩
  | action a =>
    cases a with
    | setField name value => exact .inr (called_edit fun _ same => same)
    | configure handler =>
      simp only [happen, perform, configure]
      split
      · exact .inr same
      next none => exact .inr (called_edit fun _ some => by simp [none] at some)
    | submit => exact .inr (called_submit d)
    | abort n =>
      simp only [happen, perform, abort]
      split
      · exact .inr ⟨rfl, rfl, rfl, .abort n .refl, fun _ same => same, fun counted => by
          simp [counted]⟩
      · exact .inr same
    | answer request a =>
      exact .inr ⟨rfl, rfl, rfl, .answer request a .refl, fun _ same => same, fun counted =>
        counted.trans (Schedule.length_answer _ request a).symm⟩
    | step =>
      rcases step_cases d with idle | ⟨n, turned⟩
      · simp only [happen, perform, idle]
        exact .inr same
      · simp only [happen, perform, turned]
        exact .inl ⟨n, turn_cases d n⟩

/-! ## The guard -/

/-- While the request is out the submit control is disabled. -/
theorem disabled_of_begin {form : Form} {handler : FormHandler} {events : List FormEvent}
    {request : Request} (begins : Submission.begin form handler = (events, .inr request))
    (p : FormPanel) : (events.foldl FormEvent.apply p).submitEnabled = false := by
  unfold Submission.begin at begins
  split at begins
  · simp [Submission.fail] at begins
  · dsimp only at begins
    split at begins
    · simp at begins
    · simp only [Prod.mk.injEq, Sum.inr.injEq] at begins
      rw [← begins.1]
      simp [FormEvent.apply, PanelWrite.apply]

/-- What holds of a desk after every run: the guard is held by the only submission that runs, and as
long as it is held the submit control is disabled. -/
structure Guarded (d : FormDesk) : Prop where
  posted : d.schedule.Posted
  alone : ∀ n m, d.Runs n → d.Runs m → n = m
  flag : d.inFlight = true ↔ ∃ n, d.Runs n
  control : d.panel.submitEnabled = !d.inFlight
  configured : ∀ n, d.Runs n → ∃ handler, d.form.handler = some handler
  counted : d.outcomes.length = d.schedule.phases.length

namespace Guarded

theorem not_runs (guarded : d.Guarded) (free : d.inFlight = false) (m : Nat) : ¬ d.Runs m :=
  fun runs => by simp [guarded.flag.mpr ⟨m, runs⟩] at free

theorem free (guarded : d.Guarded) (idle : ∀ m, ¬ d.Runs m) : d.inFlight = false :=
  Bool.eq_false_iff.mpr fun taken => by
    obtain ⟨m, runs⟩ := guarded.flag.mp taken
    exact idle m runs

/-- Nobody holds the guard when nobody runs. -/
theorem of_idle (posted : t.schedule.Posted) (idle : ∀ m, ¬ t.Runs m) (flag : t.inFlight = false)
    (control : t.panel.submitEnabled = true)
    (counted : t.outcomes.length = t.schedule.phases.length) : t.Guarded where
  posted := posted
  alone n m hn := absurd hn (idle n)
  flag := by simp [flag, idle]
  control := by rw [control, flag]; rfl
  configured n hn := absurd hn (idle n)
  counted := counted

theorem opened (form : Form) (messages : List FormMessage) : (opened form messages).Guarded :=
  of_idle .empty (fun m => by simp [Runs, Schedule.In, FormDesk.opened, Schedule.phases])
    rfl rfl rfl

/-- Nothing changes as long as the same submissions run. -/
theorem kept (guarded : d.Guarded) (posted : t.schedule.Posted) (runs : ∀ m, t.Runs m ↔ d.Runs m)
    (flag : t.inFlight = d.inFlight) (panel : t.panel = d.panel)
    (handler : ∀ handler, d.form.handler = some handler → t.form.handler = some handler)
    (counted : t.outcomes.length = t.schedule.phases.length) : t.Guarded where
  posted := posted
  alone n m hn hm := guarded.alone n m ((runs n).mp hn) ((runs m).mp hm)
  flag := by simp only [flag, guarded.flag, runs]
  control := by rw [panel, flag, guarded.control]
  configured n hn := by
    obtain ⟨found, same⟩ := guarded.configured n ((runs n).mp hn)
    exact ⟨found, handler found same⟩
  counted := counted

theorem called (guarded : d.Guarded) (called : d.Called t) : t.Guarded :=
  guarded.kept (guarded.posted.calls called.calls) called.calls.runs_iff called.flag called.panel
    called.handler (called.counted guarded.counted)

theorem posted_gone (guarded : d.Guarded) {ph : Phase} (known : d.schedule.phases[n]? = some ph) :
    (d.gone n).schedule.Posted :=
  guarded.posted.replace known (phases_gone d n) (Schedule.sent_setPhase _ _ _) rfl
    (by simp [Phase.isRunning]) rfl

theorem counted_gone (guarded : d.Guarded) (n : Nat) :
    d.outcomes.length = (d.gone n).schedule.phases.length := by
  rw [phases_gone, List.length_set, guarded.counted]

/-- A submission that has not begun may be over at any time. -/
theorem gone (guarded : d.Guarded) (queued : d.schedule.phases[n]? = some .queued) :
    (d.gone n).Guarded := by
  refine guarded.kept (guarded.posted_gone queued) (fun m => ?_) rfl rfl (fun _ same => same)
    (guarded.counted_gone n)
  rw [Runs, Schedule.Runs, Schedule.in_set queued (phases_gone d n)]
  split
  next equal => simp [Runs, Schedule.In, equal, queued, Phase.isRunning]
  next => rfl

theorem turnAway (guarded : d.Guarded) (awaits : d.Awaits n) (outcome : SubmitOutcome) :
    (d.turnAway n outcome).Guarded := by
  have gone := guarded.gone awaits.queued
  exact gone.kept gone.posted (fun _ => Iff.rfl) rfl rfl (fun _ same => same)
    ((List.length_set ..).trans (guarded.counted_gone n))

/-- When the only submission that may run is over, nobody runs. -/
theorem idle_gone {ph : Phase} (known : d.schedule.phases[n]? = some ph)
    (only : ∀ m, d.Runs m → m = n) (m : Nat) : ¬ (d.gone n).Runs m := by
  rw [Runs, Schedule.Runs, Schedule.in_set known (phases_gone d n)]
  split
  · simp [Phase.isRunning]
  next other => exact fun runs => other (only m runs)

theorem dropped (guarded : d.Guarded) (runs : d.Runs n) : (d.dropped n).Guarded := by
  have only : ∀ m, d.Runs m → m = n := fun m hm => guarded.alone m n hm runs
  obtain ⟨ph, known, -⟩ := runs
  exact of_idle (guarded.posted_gone known) (idle_gone known only) rfl rfl (guarded.counted_gone n)

theorem endAfter (guarded : d.Guarded) {ph : Phase} (known : d.schedule.phases[n]? = some ph)
    (only : ∀ m, d.Runs m → m = n) (events : List FormEvent) (outcome : SubmitOutcome) :
    (d.endAfter n events outcome).Guarded :=
  of_idle (guarded.posted_gone known) (idle_gone known only) rfl rfl
    ((List.length_set ..).trans (guarded.counted_gone n))

theorem sendAfter (guarded : d.Guarded) (awaits : d.Awaits n) (free : d.inFlight = false)
    {handler : FormHandler} (configured : d.form.handler = some handler) {events : List FormEvent}
    (request : Request)
    (disabled : (events.foldl FormEvent.apply d.panel).submitEnabled = false) :
    (d.sendAfter n events request).Guarded := by
  have phases := phases_sendAfter d n events request
  have runs : ∀ m, (d.sendAfter n events request).Runs m ↔ m = n := by
    intro m
    rw [Runs, Schedule.Runs, Schedule.in_set awaits.queued phases]
    split
    next equal => simp [equal, Phase.isRunning]
    next other =>
      exact ⟨fun runs => absurd runs (guarded.not_runs free m), fun same => absurd same other⟩
  refine ⟨guarded.posted.send awaits.queued phases (Schedule.sent_send _ _ _), ?_, ?_, ?_,
    fun _ _ => ⟨handler, configured⟩, ?_⟩
  · intro k m hk hm
    rw [(runs k).mp hk, (runs m).mp hm]
  · simp only [runs, exists_eq, iff_true]
    rfl
  · exact disabled
  · simp [FormDesk.sendAfter, guarded.counted]

theorem turned (guarded : d.Guarded) (turned : d.Turned n t) : t.Guarded := by
  cases turned with
  | idle =>
    exact guarded.kept (guarded.posted.of_eq rfl rfl) (fun _ => Iff.rfl) rfl rfl
      (fun _ same => same) guarded.counted
  | withdrawn queued => exact guarded.gone queued
  | dropped runs => exact guarded.dropped runs
  | native awaits => exact guarded.turnAway awaits .native
  | ignored awaits => exact guarded.turnAway awaits .ignored
  | refused awaits configured free =>
    exact guarded.endAfter awaits.queued (fun m hm => absurd hm (guarded.not_runs free m)) _ _
  | sent awaits configured free begins =>
    exact guarded.sendAfter awaits free configured _ (disabled_of_begin begins d.panel)
  | concluded answered =>
    exact guarded.endAfter (Schedule.phase_of_job answered)
      (fun m hm => guarded.alone m n hm answered.runs) _ _

theorem happen (guarded : d.Guarded) (h : Happening) : (d.happen h).Guarded := by
  rcases happen_cases d h with ⟨n, turned⟩ | called
  · exact guarded.turned turned
  · exact guarded.called called

theorem run (guarded : d.Guarded) (history : List Happening) : (d.run history).Guarded :=
  run_induction guarded (fun _ h kept => kept.happen h) history

end Guarded

/-! ## What a caller can rely on -/

theorem isUnfinished_iff :
    d.isUnfinished n = true ↔ d.schedule.In n fun ph => !ph.isEnded := by
  cases at_n : d.schedule.jobs[n]? with
  | none => simp [isUnfinished, Schedule.In, Schedule.phases, at_n]
  | some j => simp [isUnfinished, Schedule.In, Schedule.phases, at_n]

/-- A submission runs when it has begun and is unfinished. -/
theorem runs_iff : d.Runs n ↔ d.schedule.HasBegun n ∧ d.isUnfinished n = true := by
  rw [isUnfinished_iff]
  constructor
  · rintro ⟨ph, at_n, runs⟩
    exact ⟨⟨ph, at_n, by cases ph <;> simp_all [Phase.isRunning, Phase.hasBegun]⟩,
      ph, at_n, by cases ph <;> simp_all [Phase.isRunning]⟩
  · rintro ⟨⟨ph, at_n, begun⟩, same, at_same, unfinished⟩
    cases at_n.symm.trans at_same
    exact ⟨ph, at_n, by cases ph <;> simp_all [Phase.isRunning, Phase.hasBegun]⟩

/-- The turn of a submission takes the guard: it ends before a request and lets go of it again, or
sends a request and keeps it. -/
def Accepts (d : FormDesk) (n : Nat) : Prop :=
  ∃ handler, d.form.handler = some handler ∧
    d.turn n = match Submission.begin d.form handler with
      | (events, .inl outcome) => d.endAfter n events outcome
      | (events, .inr request) => d.sendAfter n events request

namespace Guarded

theorem single (guarded : d.Guarded) : d.schedule.live.length ≤ 1 := by
  have runs : ∀ m, d.schedule.Waits m → d.Runs m := by
    rintro m ⟨ph, at_m, waits⟩
    exact ⟨ph, at_m, by cases ph <;> simp_all [Phase.isWaiting, Phase.isRunning]⟩
  exact guarded.posted.live_length fun m k hm hk => guarded.alone m k (runs m hm) (runs k hk)

theorem ignored (guarded : d.Guarded) (runs : d.Runs m) (awaits : d.Awaits n) :
    d.turn n = d.turnAway n .ignored := by
  obtain ⟨handler, configured⟩ := guarded.configured m runs
  exact turn_ignored awaits configured (guarded.flag.mpr ⟨m, runs⟩)

theorem accepted (guarded : d.Guarded) (idle : ∀ m, ¬ d.Runs m) (awaits : d.Awaits n)
    (configured : d.form.handler.isSome = true) : d.Accepts n := by
  obtain ⟨handler, same⟩ := Option.isSome_iff_exists.mp configured
  exact ⟨handler, same, turn_accepted awaits same (guarded.free idle)⟩

end Guarded

end FormDesk

end MapSidebar
