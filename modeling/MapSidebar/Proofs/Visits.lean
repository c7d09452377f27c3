import MapSidebar.Explorer.Tour
import MapSidebar.Proofs.Endpoints
import MapSidebar.Proofs.LastNavigation

/-!
# Visits

A sidebar without a list is at rest between two visits: no job has anything left to do and nothing is
mounted. A visit begins at rest, sends at most one request and comes to rest again, and what it shows
is told by the answer to that request alone, whatever was visited before.
-/
namespace MapSidebar

namespace Schedule

variable {κ : Type} {old : Schedule κ} {task : κ} {request : Request} {a : Answer}

/-- A schedule with one more job, which has sent its request. -/
def asking (old : Schedule κ) (task : κ) (request : Request) : Schedule κ where
  jobs := old.jobs ++ [{ task, phase := .waiting }]
  agenda := []
  sent := old.sent ++ [⟨old.jobs.length, request, false⟩]

/-- A schedule with one more job, which has its answer. -/
def holding (old : Schedule κ) (task : κ) (request : Request) (a : Answer) : Schedule κ where
  jobs := old.jobs ++ [{ task, phase := .answered a }]
  agenda := [old.jobs.length]
  sent := old.sent ++ [⟨old.jobs.length, request, true⟩]

theorem asking_isLive : (old.asking task request).isLive ⟨old.jobs.length, request, false⟩ = true := by
  simp [isLive, asking, Phase.isWaiting]

/-- If all other jobs have ended, the last request is the only one that waits. -/
theorem asking_live {ask : κ → Request} (sound : old.Sound ask)
    (ended : ∀ j ∈ old.jobs, j.phase = .ended) :
    (old.asking task request).live = [old.sent.length] := by
  have dead : ∀ x ∈ old.sent, (old.asking task request).isLive x = false := by
    intro x sent
    obtain ⟨j, at_x, -, -⟩ := sound.asked x sent
    have at_x' : (old.asking task request).jobs[x.job]? = some j := by
      rw [asking, List.getElem?_append_left (List.getElem?_eq_some_iff.mp at_x).1, at_x]
    simp [isLive, at_x', ended j (List.mem_of_getElem? at_x), Phase.isWaiting]
  have split : (old.asking task request).sent.zipIdx =
      old.sent.zipIdx ++ [(⟨old.jobs.length, request, false⟩, old.sent.length)] := by
    simp [asking, List.zipIdx_append]
  rw [live, split, List.filter_append, List.filter_eq_nil_iff.mpr, List.nil_append]
  · simp [asking_isLive]
  · intro x member
    simpa using dead x.1 (List.fst_mem_of_mem_zipIdx member)

theorem asking_answer :
    ((old.asking task request).answer old.sent.length a).1 = old.holding task request a := by
  have at_last : (old.asking task request).sent[old.sent.length]? =
      some ⟨old.jobs.length, request, false⟩ := List.getElem?_concat_length
  simp only [answer, at_last, asking_isLive, Bool.false_eq_true, if_false, if_true]
  simp [asking, holding, setPhase, wake]

end Schedule

namespace Stage

variable {s : Stage} {i k n : Nat} {c : Controller} {task : StageTask} {a : Answer}

/-- No job has anything left to do, and no list has been mounted. -/
structure Still (s : Stage) : Prop where
  agenda : s.schedule.agenda = []
  ended : ∀ j ∈ s.schedule.jobs, j.phase = .ended
  pagers : s.pagers = []

namespace Still

theorem fresh (screen : Screen) (specs : List ControllerSpec) : (fresh screen specs).Still :=
  ⟨rfl, by simp [Stage.fresh], rfl⟩

theorem task_none (still : s.Still) (linked : s.Linked) (at_i : s.controllers[i]? = some c) :
    c.task = none := by
  cases held : c.task with
  | none => rfl
  | some n =>
    obtain ⟨t, at_n, -⟩ := (linked.controller i c at_i).tied.held n held
    obtain ⟨j, at_j, -, live⟩ := Schedule.ledger_entry.mp at_n
    have ended := still.ended j (List.mem_of_getElem? at_j)
    have going := (Job.status_eq_live.mp live).2
    rw [ended] at going
    cases going

/-- There is nothing to let go of. -/
theorem release (still : s.Still) (linked : s.Linked) (at_i : s.controllers[i]? = some c) :
    s.release c = s := by
  refine s.release_induction (motive := fun t => t = s) c ?_ ?_
  · rw [still.task_none linked at_i]
    rfl
  · rintro t k - rfl
    exact unmount_of_none (by simp [still.pagers])

theorem unload (still : s.Still) (linked : s.Linked) (i : Nat) :
    (s.unload i).schedule = s.schedule ∧ (s.unload i).Still := by
  cases at_i : s.controllers[i]? with
  | none =>
    rw [unload_of_none at_i]
    exact ⟨rfl, still⟩
  | some c =>
    rw [unload_eq at_i, still.release linked at_i, writeAll_eq]
    exact ⟨rfl, still.agenda, still.ended, still.pagers⟩

theorem load (still : s.Still) (linked : s.Linked) (at_i : s.controllers[i]? = some c)
    (visit : Visit) :
    (s.load i visit).schedule =
        s.schedule.start (.content i c.nextTicket visit (c.requestFor visit)) ∧
      (s.load i visit).pagers = [] := by
  rw [load_eq at_i, still.release linked at_i]
  exact ⟨rfl, still.pagers⟩

theorem settle (still : s.Still) : s.settle = s := by
  have round : s.round = s := by
    rw [Stage.round, still.agenda]
    rfl
  rw [Stage.settle, round, round]

theorem live (still : s.Still) : s.schedule.live = [] := by
  have dead : ∀ x, s.schedule.isLive x = false := by
    intro x
    unfold Schedule.isLive
    split
    next j at_x => rw [still.ended j (List.mem_of_getElem? at_x)]; rfl
    next => rfl
  simp [Schedule.live, dead]

end Still

/-! ## One job alone -/

/-- If the one job on the agenda leaves none behind, everything is settled with it. -/
theorem settle_eq_step (one : s.schedule.agenda = [n]) (none_left : s.step.schedule.agenda = []) :
    s.settle = s.step := by
  have first : s.round = s.step := by
    rw [round, one]
    rfl
  rw [settle, first, round, none_left]
  rfl

/-- A job that has been started sends its request. -/
theorem step_started {old : Schedule StageTask} (started : s.schedule = old.start task)
    (empty : old.agenda = []) :
    s.step = { s with schedule := old.asking task task.request } := by
  obtain ⟨screen, controllers, pagers, schedule, log⟩ := s
  cases started
  simp [step, Schedule.next?, empty, Schedule.nextJob, runJob, Schedule.send,
    Schedule.setPhase, Schedule.asking]

theorem step_turn {rest : List Nat} (first : s.schedule.agenda = n :: rest) :
    s.step = s.turn n := by
  rcases s.step_cases with ⟨empty, -⟩ | ⟨m, rest', agenda, turned⟩
  · cases first.symm.trans empty
  · cases first.symm.trans agenda
    exact turned

/-- A controller that only highlights the geometry of its content. -/
def Bare (spec : ControllerSpec) : Prop :=
  ∀ visit content, spec.onReady visit content = StandardRoute.highlight content

theorem acts_highlight (s : Stage) (i : Nat) (content : PartialContent) :
    ((StandardRoute.highlight content).foldl (act i) s).schedule = s.schedule ∧
      ((StandardRoute.highlight content).foldl (act i) s).pagers = s.pagers := by
  unfold StandardRoute.highlight
  split
  · split <;> exact ⟨rfl, rfl⟩
  · exact ⟨rfl, rfl⟩

/-- A controller without a list starts no job and mounts nothing when it uses its answer. -/
theorem turn_bare (linked : s.Linked) {ticket : Ticket} {visit : Visit} {request : Request}
    (ready : s.HasAnswer n (.content i ticket visit request) a)
    (at_i : s.controllers[i]? = some c) (bare : Bare c.spec) :
    (s.turn n).schedule = (s.finish n).schedule ∧ (s.turn n).pagers = s.pagers := by
  rw [linked.turn_content ready at_i]
  split
  · exact ⟨showContent_schedule _ _ _ _, showContent_pagers _ _ _ _⟩
  next content _ =>
    obtain ⟨schedule, pagers⟩ := acts_highlight
      (((s.finish n).showContent i c (.ok content)).note (.ready i visit content.payload?.isSome))
      i content
    rw [bare visit content, schedule, pagers, note_schedule, note_pagers, showContent_schedule,
      showContent_pagers]
    exact ⟨rfl, rfl⟩

/-- Once the job that was started last has used its answer, nothing is left to do. -/
theorem finish_still {old : Schedule StageTask} {request : Request}
    (holds : s.schedule = old.holding task request a) (ended : ∀ j ∈ old.jobs, j.phase = .ended) :
    (s.finish old.jobs.length).schedule.agenda = [] ∧
      ∀ j ∈ (s.finish old.jobs.length).schedule.jobs, j.phase = .ended := by
  have schedule : (s.finish old.jobs.length).schedule =
      { jobs := old.jobs ++ [{ task, phase := .ended }], agenda := [],
        sent := old.sent ++ [⟨old.jobs.length, request, true⟩] } := by
    rw [finish, holds]
    simp [Schedule.holding, Schedule.pick, Schedule.setPhase]
  rw [schedule]
  refine ⟨rfl, fun j member => ?_⟩
  rcases List.mem_append.mp member with earlier | last
  · exact ended j earlier
  · cases List.mem_singleton.mp last
    rfl

end Stage

namespace Explorer

variable {e : Explorer} {specs : List ControllerSpec} {url : String} {i : Nat}
  {serve : Request → Answer}

/-! ## Visits at rest -/

/-- What holds between two visits. -/
structure AtRest (specs : List ControllerSpec) (e : Explorer) : Prop where
  orderly : e.Orderly specs
  sound : e.stage.Sound
  still : e.stage.Still

/-- The request that waits is answered as `serve` says, and what is logged of it. -/
def served (serve : Request → Answer) (e : Explorer) : Explorer × List LogLine :=
  match e.waiting? with
  | none => (e, [])
  | some (id, request) =>
    ((e.answer id (serve request)).1.settle, e.stage.answerLog id (serve request))

/-- A visit whose request is answered as `serve` says, and what is logged and shown of it. -/
def visited (serve : Request → Answer) (e : Explorer) (url : String) :
    Explorer × List LogLine × String :=
  let (led, outcome) := e.dispatch url
  let (done, log) := led.settle.served serve
  (done, e.dispatchLog led outcome ++ log, block url outcome done.stage.screen)

/-- The lines about the answer come after the one about the switch. -/
theorem visited_log (serve : Request → Answer) (e : Explorer) (url : String) :
    (e.visited serve url).2.1 = e.dispatchLog (e.dispatch url).1 (e.dispatch url).2 ++
      ((e.dispatch url).1.settle.served serve).2 := rfl

namespace AtRest

theorem cleared (rest : e.AtRest specs) (target : Target) :
    (e.cleared target).schedule = e.stage.schedule ∧ (e.cleared target).Still := by
  unfold Explorer.cleared
  split
  · exact ⟨rfl, rest.still⟩
  · split
    · exact rest.still.unload rest.orderly.exclusive.linked _
    · exact ⟨rfl, rest.still⟩

/-- Where plain browsing is, nothing is shown and nothing is sent. -/
theorem browse (rest : e.AtRest specs) (plain : ∀ spec ∈ specs, spec.Plain)
    (leads : (e.router.destination url).1 = .browsing) :
    (e.visited serve url).1.AtRest specs ∧
      (e.visited serve url).1.stage.screen.sidebar = "" ∧
      (e.visited serve url).1.stage.screen.focus = none ∧
      ((e.dispatch url).1.settle.served serve).2 = [] := by
  have stage : (e.dispatch url).1.stage = e.cleared .browsing := by
    rw [dispatch_eq, leads, goTo_stage]
    rfl
  have still : (e.dispatch url).1.stage.Still := stage ▸ (rest.cleared .browsing).2
  have settled : (e.dispatch url).1.settle = (e.dispatch url).1 := by
    rw [Explorer.settle, still.settle]
  have idle : (e.dispatch url).1.waiting? = none := by simp [waiting?, still.live]
  have shown : (e.dispatch url).1.settle.served serve = ((e.dispatch url).1, []) := by
    simp [served, settled, idle]
  have orderly := rest.orderly.happen plain (.action (.dispatch url))
  have owner : (e.dispatch url).1.owner = none := by
    rw [dispatch_eq, leads, Explorer.owner, goTo_router]
    rfl
  obtain ⟨sidebar, focus⟩ := orderly.exclusive.blank owner
  rw [visited]
  dsimp only
  rw [shown]
  exact ⟨⟨orderly, e.happen_sound rest.sound (.action (.dispatch url)), still⟩, sidebar, focus, rfl⟩

/-- A dispatch to a controller starts the fetch of its endpoint, and nothing else has anything to
do. -/
theorem dispatch (rest : e.AtRest specs) {visit : Visit} {spec : ControllerSpec}
    (leads : e.router.destination url = (.controller i, visit)) (at_i : specs[i]? = some spec) :
    ∃ ticket, (e.dispatch url).1.stage.schedule = e.stage.schedule.start
        (.content i ticket visit { url := spec.endpoint visit }) ∧
      (e.dispatch url).1.stage.pagers = [] := by
  have stage : (e.dispatch url).1.stage = (e.cleared (.controller i)).load i visit := by
    rw [dispatch_eq, leads, goTo_stage]
    rfl
  have exclusive : ∃ active, (e.cleared (.controller i)).Exclusive specs active := by
    rcases rest.orderly.cleared (.controller i) with ⟨-, ex⟩ | ex
    · exact ⟨_, ex⟩
    · exact ⟨_, ex⟩
  obtain ⟨active, ex⟩ := exclusive
  rw [← ex.made, List.getElem?_map, Option.map_eq_some_iff] at at_i
  obtain ⟨c, at_i, rfl⟩ := at_i
  obtain ⟨same, still⟩ := rest.cleared (.controller i)
  obtain ⟨started, pagers⟩ := still.load ex.linked at_i visit
  rw [stage, started, pagers, same]
  exact ⟨c.nextTicket, rfl, rfl⟩

end AtRest

/-- A sidebar that has started one job sends its request, which then is the one that waits. -/
theorem asks_of_started {old : Schedule StageTask} {task : StageTask}
    (started : e.stage.schedule = old.start task) (empty : old.agenda = [])
    (sound : old.Sound StageTask.request) (ended : ∀ j ∈ old.jobs, j.phase = .ended) :
    e.settle = e.step ∧ e.step.stage = { e.stage with schedule := old.asking task task.request } ∧
      e.step.waiting? = some (old.sent.length, task.request) := by
  have asked : e.step.stage = { e.stage with schedule := old.asking task task.request } :=
    Stage.step_started started empty
  refine ⟨?_, asked, ?_⟩
  · rw [settle, Stage.settle_eq_step (n := old.jobs.length)]
    · rfl
    · rw [started, Schedule.start, empty]
      rfl
    · exact congrArg (·.schedule.agenda) asked
  · rw [waiting?, asked]
    dsimp only
    rw [Schedule.asking_live sound ended]
    simp [Schedule.asking]

/-- A sidebar whose one job has its answer shows it and comes to rest. -/
theorem rests_of_holding (orderly : e.Orderly specs) (sound : e.stage.Sound)
    (plain : ∀ spec ∈ specs, spec.Plain) (bare : ∀ spec ∈ specs, Stage.Bare spec)
    {old : Schedule StageTask} {ticket : Ticket} {visit : Visit} {request : Request} {a : Answer}
    (holds : e.stage.schedule = old.holding (.content i ticket visit request) request a)
    (ended : ∀ j ∈ old.jobs, j.phase = .ended) (pagers : e.stage.pagers = [])
    (wanted : a ≠ .error .cancelled) :
    e.settle.AtRest specs ∧ e.settle.stage.Shows i a := by
  have ready : e.stage.HasAnswer old.jobs.length (.content i ticket visit request) a := by
    rw [Stage.HasAnswer, holds]
    exact List.getElem?_concat_length
  obtain ⟨c, at_i, -, -⟩ := orderly.exclusive.linked.content_waits ready
  have known : c.spec ∈ specs := by
    rw [← orderly.exclusive.made]
    exact List.mem_map_of_mem (List.mem_of_getElem? at_i)
  obtain ⟨schedule, none_mounted⟩ :=
    Stage.turn_bare orderly.exclusive.linked ready at_i (bare c.spec known)
  obtain ⟨agenda, done⟩ := Stage.finish_still holds ended
  have turned : e.stage.step = e.stage.turn old.jobs.length :=
    Stage.step_turn (by rw [holds]; rfl)
  have last : e.settle = e.step := by
    rw [settle, Stage.settle_eq_step (n := old.jobs.length)]
    · rfl
    · rw [holds]
      rfl
    · rw [turned, schedule, agenda]
  have stage : e.step.stage = e.stage.turn old.jobs.length := turned
  rw [last]
  refine ⟨⟨orderly.happen plain (.action .step), e.happen_sound sound (.action .step), ?_⟩, ?_⟩
  · rw [stage]
    exact ⟨by rw [schedule, agenda], schedule ▸ done, none_mounted.trans pagers⟩
  · rw [stage]
    exact orderly.exclusive.turn_shows plain ready wanted

/-- The controller whose request waits reads the answer, and logs it if that fails. -/
theorem answerLog_of_asking (orderly : e.Orderly specs) {old : Schedule StageTask} {ticket : Ticket}
    {visit : Visit} {request : Request} {spec : ControllerSpec}
    (asked : e.stage.schedule = old.asking (.content i ticket visit request) request)
    (at_i : specs[i]? = some spec) (a : Answer) : ∃ c : Controller, c.spec = spec ∧
      e.stage.answerLog old.sent.length a = c.resultLog ticket (Controller.contentOf a) := by
  have at_last : e.stage.schedule.sent[old.sent.length]? = some ⟨old.jobs.length, request, false⟩ := by
    rw [asked]
    exact List.getElem?_concat_length
  have at_job : e.stage.schedule.jobs[old.jobs.length]? =
      some { task := .content i ticket visit request, phase := .waiting } := by
    rw [asked]
    exact List.getElem?_concat_length
  rw [← orderly.exclusive.made, List.getElem?_map, Option.map_eq_some_iff] at at_i
  obtain ⟨c, at_i, made⟩ := at_i
  have current : c.sequence.isCurrent ticket = true := decide_eq_true
    ((orderly.exclusive.linked.controller i c at_i).tied.live old.jobs.length _
      (Schedule.ledger_of_job at_job) rfl).2
  refine ⟨c, made, ?_⟩
  simp only [Stage.answerLog, at_last, Option.bind_some, at_job, at_i, current, if_true]

/-- What a controller fetches is shown, and then the sidebar is at rest again. -/
theorem AtRest.fetch (rest : e.AtRest specs) (plain : ∀ spec ∈ specs, spec.Plain)
    (bare : ∀ spec ∈ specs, Stage.Bare spec) (wanted : ∀ request, serve request ≠ .error .cancelled)
    {visit : Visit} {spec : ControllerSpec}
    (leads : e.router.destination url = (.controller i, visit)) (at_i : specs[i]? = some spec) :
    (e.visited serve url).1.AtRest specs ∧
      (e.visited serve url).1.stage.Shows i (serve { url := spec.endpoint visit }) ∧
      ∃ (c : Controller) (ticket : Ticket), c.spec = spec ∧
        ((e.dispatch url).1.settle.served serve).2 =
          c.resultLog ticket (Controller.contentOf (serve { url := spec.endpoint visit })) := by
  obtain ⟨ticket, started, pagers⟩ := rest.dispatch leads at_i
  generalize ({ url := spec.endpoint visit } : Request) = request at started ⊢
  obtain ⟨settled, asked, waits⟩ :=
    asks_of_started started rest.still.agenda rest.sound rest.still.ended
  generalize answered : serve request = a
  have done : (e.dispatch url).1.settle.served serve =
      (((e.dispatch url).1.step.answer e.stage.schedule.sent.length a).1.settle,
        (e.dispatch url).1.step.stage.answerLog e.stage.schedule.sent.length a) := by
    simp [served, settled, waits, StageTask.request, answered]
  -- Up to the answer the visit comes to three happenings.
  have stepped := (rest.orderly.happen plain (.action (.dispatch url))).happen plain (.action .step)
  have orderly := stepped.happen plain (.action (.answer e.stage.schedule.sent.length a))
  have sound := e.run_sound rest.sound [.action (.dispatch url), .action .step,
    .action (.answer e.stage.schedule.sent.length a)]
  have schedule : (e.dispatch url).1.step.stage.schedule =
      e.stage.schedule.asking (.content i ticket visit request) request := by
    rw [asked]
    rfl
  have holds :
      ((e.dispatch url).1.step.answer e.stage.schedule.sent.length a).1.stage.schedule =
        e.stage.schedule.holding (.content i ticket visit request) request a := by
    rw [Explorer.answer]
    dsimp only
    rw [schedule, Schedule.asking_answer]
  have none_mounted : (e.dispatch url).1.step.stage.pagers = [] := by
    rw [asked]
    exact pagers
  obtain ⟨c, made, logged⟩ := answerLog_of_asking stepped schedule at_i a
  obtain ⟨rests, shows⟩ := rests_of_holding orderly sound plain bare holds rest.still.ended
    none_mounted (answered ▸ wanted request)
  rw [visited]
  dsimp only
  rw [done]
  exact ⟨rests, shows, c, ticket, made, logged⟩

end Explorer

end MapSidebar
