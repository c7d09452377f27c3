import MapSidebar.Proofs.Frames

/-!
# Runs

A run is any list of happenings on a stage: the actions, and turns that are given to jobs out of the
order of the agenda, as another scheduler might give them. A turn is of one of two kinds. Most only
move jobs about; only the turn of a live job that has its answer lets its owner use it.
-/
namespace MapSidebar

namespace Pager

/-- A pager that no longer waits. -/
def settled (p : Pager) : Pager := { p with task := none, pendingCursors := none, loading := false }

/-- A pager once the page that it waited for is shown. -/
def showing (p : Pager) (page : PageResponse) : Pager :=
  { p.settled with position := (p.position.adopt p.pendingCursors).shown page }

end Pager

namespace Stage

/-- Gives a job its turn, wherever it stands on the agenda. -/
def turn (s : Stage) (job : Nat) : Stage :=
  runJob { s with schedule := s.schedule.pick job } job

/-- Something that happens on a stage. -/
inductive Happening where
  | action (a : Action)
  | turn (job : Nat)

def happen (s : Stage) : Happening → Stage
  | .action a => s.perform a
  | .turn job => s.turn job

def run (s : Stage) (history : List Happening) : Stage := history.foldl happen s

/-- A stage on which nothing has been done yet. -/
def fresh (screen : Screen) (specs : List ControllerSpec) : Stage :=
  { screen, controllers := specs.map fun spec => { spec } }

theorem run_concat (s : Stage) (history : List Happening) (h : Happening) :
    s.run (history ++ [h]) = (s.run history).happen h := by simp [run]

/-- What every happening keeps holds after every run. -/
theorem run_induction {motive : Stage → Prop} {s : Stage} (start : motive s)
    (kept : ∀ (t : Stage) (h : Happening), motive t → motive (t.happen h))
    (history : List Happening) : motive (s.run history) :=
  List.foldlRecOn history happen start fun t ht h _ => kept t h ht

/-- A step is the turn of the job that is first on the agenda. -/
theorem step_cases (s : Stage) :
    (s.schedule.agenda = [] ∧ s.step = s) ∨
      ∃ job rest, s.schedule.agenda = job :: rest ∧ s.step = s.turn job := by
  cases h : s.schedule.agenda with
  | nil => exact .inl ⟨rfl, by simp [step, Schedule.next?, h]⟩
  | cons job rest =>
    exact .inr ⟨job, rest, rfl, by simp [step, Schedule.next?, h, turn, Schedule.pick]⟩

/-! ## Turns -/

/-- Every request that has been sent is the request of its job. -/
def Sound (s : Stage) : Prop := s.schedule.Sound StageTask.request

/-- The stage once a job has been taken off the agenda for good. -/
def finish (s : Stage) (job : Nat) : Stage :=
  { s with schedule := (s.schedule.pick job).setPhase job .ended }

@[simp] theorem finish_screen (s : Stage) (job : Nat) : (s.finish job).screen = s.screen := rfl
@[simp] theorem finish_log (s : Stage) (job : Nat) : (s.finish job).log = s.log := rfl
@[simp] theorem finish_pagers (s : Stage) (job : Nat) : (s.finish job).pagers = s.pagers := rfl

@[simp] theorem finish_controllers (s : Stage) (job : Nat) :
    (s.finish job).controllers = s.controllers := rfl

theorem finish_ledger {s : Stage} {n : Nat} {j : Job StageTask}
    (at_n : s.schedule.jobs[n]? = some j) :
    (s.finish n).schedule.ledger = s.schedule.ledger.useJob n :=
  Schedule.ledger_end (s := s.schedule.pick n) at_n

/-- A job has its answer and has not been aborted. -/
def HasAnswer (s : Stage) (n : Nat) (task : StageTask) (a : Answer) : Prop :=
  s.schedule.jobs[n]? = some { task, phase := .answered a, aborted := false }

theorem HasAnswer.entry {s : Stage} {n : Nat} {task : StageTask} {a : Answer}
    (ready : s.HasAnswer n task a) : s.schedule.ledger[n]? = some (task, .live) :=
  Schedule.ledger_of_job ready

theorem turn_of_hasAnswer {s : Stage} {n : Nat} {task : StageTask} {a : Answer}
    (ready : s.HasAnswer n task a) : s.turn n = (s.finish n).applyTask a task := by
  have at_n : s.schedule.jobs[n]? = some ⟨task, .answered a, false⟩ := ready
  simp [turn, runJob, at_n, finish]

/-- Any other turn leaves everything but the schedule alone. -/
theorem turn_cases (s : Stage) (n : Nat) :
    (∃ schedule, s.turn n = { s with schedule } ∧
      s.schedule.Passes StageTask.request n schedule) ∨
    ∃ task a, s.HasAnswer n task a := by
  cases at_n : s.schedule.jobs[n]? with
  | none => exact .inl ⟨s.schedule.pick n, by simp [turn, runJob, at_n], .absent at_n⟩
  | some j =>
    obtain ⟨task, phase, aborted⟩ := j
    cases aborted with
    | true =>
      exact .inl ⟨(s.schedule.pick n).setPhase n .ended, by simp [turn, runJob, at_n],
        .gone at_n rfl⟩
    | false =>
      cases phase with
      | queued =>
        exact .inl ⟨(s.schedule.pick n).send n task.request, by simp [turn, runJob, at_n],
          .send at_n rfl rfl⟩
      | waiting =>
        exact .inl ⟨s.schedule.pick n, by simp [turn, runJob, at_n], .idle at_n (by simp) rfl⟩
      | ended =>
        exact .inl ⟨s.schedule.pick n, by simp [turn, runJob, at_n], .idle at_n (by simp) rfl⟩
      | answered a => exact .inr ⟨task, a, at_n⟩

/-! ## Answers that are used -/

variable {s : Stage}

theorem applyContent_stale {i : Nat} {c : Controller} (at_i : s.controllers[i]? = some c)
    {ticket : Ticket} (stale : c.sequence.isCurrent ticket = false) (visit : Visit) (a : Answer) :
    s.applyContent i ticket visit a = s := by
  simp [applyContent, at_i, stale]

theorem applyPage_stale {k : Nat} {p : Pager} (at_k : s.pagers[k]? = some p) {ticket : Ticket}
    (stale : p.sequence.isCurrent ticket = false) (a : Answer) : s.applyPage k ticket a = s := by
  simp [applyPage, at_k, Pager.answered?, stale]

/-- The stage once controller `i` shows what it has been given. -/
def showContent (s : Stage) (i : Nat) (c : Controller)
    (result : Except FetchError PartialContent) : Stage :=
  (s.setController i c.settled).writeAll (Controller.showWrites result)

theorem applyContent_current {i : Nat} {c : Controller} (at_i : s.controllers[i]? = some c)
    {ticket : Ticket} (current : c.sequence.isCurrent ticket = true) (visit : Visit) (a : Answer) :
    s.applyContent i ticket visit a =
      match Controller.contentOf a with
      | .error e => s.showContent i c (.error e)
      | .ok content => (c.spec.onReady visit content).foldl (act i)
          ((s.showContent i c (.ok content)).note (.ready i visit content.payload?.isSome)) := by
  simp only [applyContent, at_i, current, if_true, showContent]
  cases Controller.contentOf a <;> rfl

def showPage (s : Stage) (k : Nat) (p : Pager) (page : PageResponse) : Stage :=
  (s.setPager k (p.showing page)).writeContainer p.container
    [.items (.replace (String.join page.items)),
      .controls (Pager.controls p.options (p.showing page).position)]

/-- The stage once pager `k` could not have its page. -/
def failPage (s : Stage) (k : Nat) (p : Pager) (e : FetchError) : Stage :=
  (s.setPager k p.settled).writeContainer p.container
    (if e.isCancellation then [] else [.items (.replace (Pager.failureMarkup e))])

theorem applyPage_current {k : Nat} {p : Pager} (at_k : s.pagers[k]? = some p) {ticket : Ticket}
    (current : p.sequence.isCurrent ticket = true) (a : Answer) :
    s.applyPage k ticket a =
      match Pager.pageOf a with
      | .error e => s.failPage k p e
      | .ok page => (s.showPage k p page).runHook k p := by
  simp only [applyPage, at_k, Pager.answered?, current, if_true]
  cases Pager.pageOf a with
  | ok page => rfl
  | error e =>
    cases cancelled : e.isCancellation <;> simp [failPage, cancelled, Pager.settled]

theorem runHook_eq (s : Stage) (k : Nat) (p : Pager) :
    ∃ screen log, s.runHook k p = { s with screen, log } ∧ screen.sidebar = s.screen.sidebar ∧
      screen.focus = s.screen.focus := by
  unfold runHook
  split
  · exact ⟨s.screen, s.log, rfl, rfl, rfl⟩
  · dsimp only
    rw [writeContainer_eq]
    exact ⟨s.screen.update p.container _, _, rfl, rfl, rfl⟩

@[simp] theorem showContent_controllers (s : Stage) (i : Nat) (c : Controller)
    (result : Except FetchError PartialContent) :
    (s.showContent i c result).controllers = s.controllers.set i c.settled := writeAll_controllers _ _

@[simp] theorem showContent_pagers (s : Stage) (i : Nat) (c : Controller)
    (result : Except FetchError PartialContent) :
    (s.showContent i c result).pagers = s.pagers := writeAll_pagers _ _

@[simp] theorem showContent_schedule (s : Stage) (i : Nat) (c : Controller)
    (result : Except FetchError PartialContent) :
    (s.showContent i c result).schedule = s.schedule := writeAll_schedule _ _

theorem applyPage_schedule (s : Stage) (k : Nat) (ticket : Ticket) (a : Answer) :
    (s.applyPage k ticket a).schedule = s.schedule := by
  cases at_k : s.pagers[k]? with
  | none => simp [applyPage, at_k]
  | some p =>
    cases current : p.sequence.isCurrent ticket with
    | false => rw [applyPage_stale at_k current]
    | true =>
      rw [applyPage_current at_k current]
      split
      · exact writeContainer_schedule _ _ _
      · obtain ⟨screen, log, same, -⟩ := runHook_eq (s.showPage k p _) k p
        rw [same]
        exact writeContainer_schedule _ _ _

/-! ## What happens to the schedule -/

theorem issuePage_calls (s : Stage) (k : Nat) (p : Pager) (target : PageTarget) :
    s.schedule.Calls (s.issuePage k p target).schedule := by
  rw [issuePage_eq]
  exact (Schedule.abortSlot_calls s.schedule p.task).start _

theorem mount_calls (s : Stage) (container : Nat) (options : PagerOptions) :
    s.schedule.Calls (s.mount container options).schedule :=
  issuePage_calls { s with pagers := s.pagers ++ [{ container, options }] } _ _ _

theorem unmount_calls (s : Stage) (k : Nat) : s.schedule.Calls (s.unmount k).schedule := by
  cases at_k : s.pagers[k]? with
  | none =>
    rw [unmount_of_none at_k]
    exact .refl
  | some p =>
    rw [unmount_eq at_k]
    exact Schedule.abortSlot_calls s.schedule p.task

theorem release_calls (s : Stage) (c : Controller) : s.schedule.Calls (s.release c).schedule :=
  s.release_induction (motive := fun t => s.schedule.Calls t.schedule) c
    (Schedule.abortSlot_calls s.schedule c.task) fun t k _ calls => calls.trans (t.unmount_calls k)

theorem load_calls (s : Stage) (i : Nat) (visit : Visit) :
    s.schedule.Calls (s.load i visit).schedule := by
  cases at_i : s.controllers[i]? with
  | none =>
    rw [load_of_none at_i]
    exact .refl
  | some c =>
    rw [load_eq at_i]
    exact (s.release_calls c).start _

theorem unload_calls (s : Stage) (i : Nat) : s.schedule.Calls (s.unload i).schedule := by
  cases at_i : s.controllers[i]? with
  | none =>
    rw [unload_of_none at_i]
    exact .refl
  | some c =>
    rw [unload_eq at_i, writeAll_schedule]
    exact s.release_calls c

theorem act_calls (s : Stage) (i : Nat) (action : ReadyAction) :
    s.schedule.Calls (s.act i action).schedule := by
  cases action with
  | write w => exact .refl
  | mount container options => exact s.mount_calls container options

theorem applyTask_calls (s : Stage) (a : Answer) (task : StageTask) :
    s.schedule.Calls (s.applyTask a task).schedule := by
  cases task with
  | content i ticket visit request =>
    rw [applyTask]
    cases at_i : s.controllers[i]? with
    | none =>
      simp only [applyContent, at_i]
      exact .refl
    | some c =>
      cases current : c.sequence.isCurrent ticket with
      | false =>
        rw [applyContent_stale at_i current]
        exact .refl
      | true =>
        rw [applyContent_current at_i current]
        split
        · rw [showContent_schedule]
          exact .refl
        · refine List.foldlRecOn _ (act i) (motive := fun t : Stage => s.schedule.Calls t.schedule) ?_
            fun t calls action _ => calls.trans (t.act_calls i action)
          rw [note_schedule, showContent_schedule]
          exact .refl
  | page k ticket request =>
    rw [applyTask, applyPage_schedule]
    exact .refl

/-- The job to which a happening gives its turn, if it does. -/
def turnOf (s : Stage) : Happening → Option Nat
  | .turn n => some n
  | .action .step => s.schedule.agenda.head?
  | .action _ => none

/-- A happening is a turn, or leaves the schedule to calls. -/
theorem happen_cases (s : Stage) (h : Happening) :
    (∃ n, s.turnOf h = some n ∧ s.happen h = s.turn n) ∨
      (s.turnOf h = none ∧ s.schedule.Calls (s.happen h).schedule) := by
  cases h with
  | turn n => exact .inl ⟨n, rfl, rfl⟩
  | action a =>
    cases a with
    | load i visit => exact .inr ⟨rfl, s.load_calls i visit⟩
    | unload i => exact .inr ⟨rfl, s.unload_calls i⟩
    | mount container options => exact .inr ⟨rfl, s.mount_calls container options⟩
    | move k m =>
      refine .inr ⟨rfl, ?_⟩
      rcases s.perform_move_cases k m with same | ⟨p, target, -, -, issued⟩
      · rw [happen, same]
        exact .refl
      · rw [happen, issued]
        exact s.issuePage_calls k p target
    | unmount k => exact .inr ⟨rfl, s.unmount_calls k⟩
    | answer request a => exact .inr ⟨rfl, .answer request a .refl⟩
    | step =>
      rcases s.step_cases with ⟨empty, same⟩ | ⟨n, rest, agenda, turned⟩
      · refine .inr ⟨by simp [turnOf, empty], ?_⟩
        rw [happen, perform, same]
        exact .refl
      · exact .inl ⟨n, by simp [turnOf, agenda], by rw [happen, perform, turned]⟩

namespace Sound

theorem turn (sound : s.Sound) (n : Nat) : (s.turn n).Sound := by
  rcases s.turn_cases n with ⟨schedule, same, passes⟩ | ⟨task, a, ready⟩
  · rw [same]
    exact passes.sound sound
  · rw [turn_of_hasAnswer ready]
    have finished : (s.finish n).Sound := Schedule.Sound.pick_end sound ready (.inr (by simp))
    exact ((s.finish n).applyTask_calls a task).sound finished

theorem happen (sound : s.Sound) (h : Happening) : (s.happen h).Sound := by
  rcases s.happen_cases h with ⟨n, -, turned⟩ | ⟨-, calls⟩
  · rw [turned]
    exact sound.turn n
  · exact calls.sound sound

theorem run (sound : s.Sound) (history : List Happening) : (s.run history).Sound :=
  run_induction sound (fun _ h sound => sound.happen h) history

theorem fresh (screen : Screen) (specs : List ControllerSpec) : (fresh screen specs).Sound :=
  Schedule.Sound.empty _

end Sound

theorem turn_evolves (s : Stage) (n : Nat) :
    Ledger.Evolves s.schedule.ledger (s.turn n).schedule.ledger := by
  rcases s.turn_cases n with ⟨schedule, same, passes⟩ | ⟨task, a, ready⟩
  · rw [same, passes.ledger]
    exact .refl _
  · rw [turn_of_hasAnswer ready]
    have finished := Ledger.Evolves.useJob s.schedule.ledger n
    rw [← finish_ledger ready] at finished
    exact finished.trans ((s.finish n).applyTask_calls a task).evolves

theorem happen_evolves (s : Stage) (h : Happening) :
    Ledger.Evolves s.schedule.ledger (s.happen h).schedule.ledger := by
  rcases s.happen_cases h with ⟨n, -, turned⟩ | ⟨-, calls⟩
  · rw [turned]
    exact s.turn_evolves n
  · exact calls.evolves

theorem run_evolves (s : Stage) (history : List Happening) :
    Ledger.Evolves s.schedule.ledger (s.run history).schedule.ledger :=
  run_induction (motive := fun t => Ledger.Evolves s.schedule.ledger t.schedule.ledger) (.refl _)
    (fun t h past => past.trans (t.happen_evolves h)) history

end Stage

end MapSidebar
