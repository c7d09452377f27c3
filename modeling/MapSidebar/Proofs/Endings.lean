import MapSidebar.Proofs.PageNumbers

/-!
# How requests for pages end

A request for a page ends when its pager uses the answer: a page takes the place of the items, so does
a failure, and a cancellation leaves them as they are. What has ended in a run, the latest first, tells
what is on display.

`Advance` says once what a happening makes of a pager, of its chronicle and of what has ended;
`course_induction` carries whatever every advance keeps through all runs.
-/
namespace MapSidebar

/-- What a request for a page has come to. -/
abbrev PageResult := Except FetchError PageResponse

/-- The requests of a pager whose answers it has used, each by its job, the latest first. -/
abbrev Endings := List (Nat × PageResult)

/-- Whether something new takes the place of the items. -/
def replacesItems : PageResult → Bool
  | .ok _ => true
  | .error e => !e.isCancellation

/-- What a pager has put on display last: a page or a failure. -/
def onDisplay (l : Endings) : Option (Nat × PageResult) := l.find? fun (_, result) =>
  replacesItems result

section

variable {n : Nat} {l : Endings} {page : PageResponse} {e : FetchError}

theorem onDisplay_cancelled (cancelled : e.isCancellation = true) :
    onDisplay ((n, .error e) :: l) = onDisplay l := by
  simp [onDisplay, replacesItems, cancelled]

theorem onDisplay_failed (wanted : e.isCancellation = false) :
    onDisplay ((n, .error e) :: l) = some (n, .error e) := by
  simp [onDisplay, replacesItems, wanted]

/-- A page that is on display after a failure was so before, and the failure was a cancellation. -/
theorem onDisplay_error {m : Nat} (shown : onDisplay ((n, .error e) :: l) = some (m, .ok page)) :
    e.isCancellation = true ∧ onDisplay l = some (m, .ok page) := by
  cases cancelled : e.isCancellation with
  | true => exact ⟨rfl, (onDisplay_cancelled cancelled).symm.trans shown⟩
  | false => cases (onDisplay_failed cancelled).symm.trans shown

end

namespace Stage

/-- The job of pager `k` whose answer a happening uses, and what its request has come to. -/
def ended? (s : Stage) (k : Nat) (h : Happening) : Option (Nat × PageResult) :=
  (s.turnOf h).bind fun n =>
    match s.schedule.jobs[n]? with
    | some ⟨.page j _ _, .answered a, false⟩ => if j = k then some (n, Pager.pageOf a) else none
    | _ => none

/-- What has ended of pager `k` after a run, from what had ended before. -/
def endings (k : Nat) : Stage → Endings → List Happening → Endings
  | _, l, [] => l
  | s, l, h :: later => endings k (s.happen h) ((s.ended? k h).toList ++ l) later

variable {s : Stage} {k n : Nat} {h : Happening}

theorem ended?_answered {ticket : Ticket} {request : Request} {a : Answer}
    (given : s.turnOf h = some n) (ready : s.HasAnswer n (.page k ticket request) a) :
    s.ended? k h = some (n, Pager.pageOf a) := by
  have at_n : s.schedule.jobs[n]? = some ⟨.page k ticket request, .answered a, false⟩ := ready
  simp [ended?, given, at_n]

theorem ended?_quiet (quiet : ∀ n ticket request a, s.turnOf h = some n →
    ¬ s.HasAnswer n (.page k ticket request) a) : s.ended? k h = none := by
  unfold ended?
  cases given : s.turnOf h with
  | none => rfl
  | some n =>
    rw [Option.bind_some]
    split
    next j ticket request a at_n =>
      rw [if_neg]
      rintro rfl
      exact quiet n ticket request a given at_n
    · rfl

/-- Nothing of a pager ends before it is there. -/
theorem ended?_absent (linked : s.Linked) (absent : s.pagers[k]? = none) : s.ended? k h = none := by
  refine ended?_quiet fun n ticket request a _ ready => ?_
  obtain ⟨p, at_k, -⟩ := linked.page_waits ready
  cases absent.symm.trans at_k

end Stage

/-! ## What becomes of a pager -/

/-- What a happening makes of a pager, of its chronicle and of what has ended. -/
inductive Advance (p : Pager) (c : Chronicle) (l : Endings) :
    Pager → Chronicle → Endings → Prop where
  | kept : Advance p c l p c l
  | asked {m : PageMove} {target : PageTarget} (job : Nat) : p.request? m = .ok (some target) →
    Advance p c l (p.issue target job) (c.asking job (some m) target.address) l
  | shown {ask : Ask} {earlier : List (Ask × Option PageResponse)} (page : PageResponse) :
    p.task = some ask.job → c.asks = (ask, none) :: earlier →
    Advance p c l (p.showing page) ⟨(ask, some page) :: earlier, some page⟩
      ((ask.job, .ok page) :: l)
  | failed {ask : Ask} {earlier : List (Ask × Option PageResponse)} (e : FetchError) :
    p.task = some ask.job → c.asks = (ask, none) :: earlier →
    Advance p c l p.settled c ((ask.job, .error e) :: l)
  | unmounted (sequence : Sequence) : Advance p c l { p.unmounted with sequence } c l

theorem Advance.options_eq {p q : Pager} {c c' : Chronicle} {l l' : Endings}
    (advance : Advance p c l q c' l') : q.options = p.options := by
  cases advance <;> rfl

/-- A pager that has just been mounted, while `job` asks for its first page. -/
def Pager.opened (container : Nat) (options : PagerOptions) (job : Nat) : Pager :=
  Pager.issue { container, options } options.mode.first job

def Chronicle.opened (options : PagerOptions) (job : Nat) : Chronicle :=
  Chronicle.asking {} job none options.mode.first.address

namespace Stage

variable {s : Stage} {k n jobs : Nat} {p q : Pager} {c : Chronicle} {l : Endings} {h : Happening}

theorem PagerStep.advance (linked : s.Linked) (at_k : s.pagers[k]? = some p)
    (step : s.PagerStep k p h q) (noted : Noted jobs p c) (l : Endings) :
    Advance p c l q (c.after k s h) ((s.ended? k h).toList ++ l) := by
  -- What the pager waits for is what was asked for last.
  have awaited : ∀ {n ticket request a}, s.HasAnswer n (.page k ticket request) a →
      ∃ ask earlier, p.task = some ask.job ∧ c.asks = (ask, none) :: earlier ∧ ask.job = n := by
    intro n ticket request a ready
    obtain ⟨p', at_k', task, -⟩ := linked.page_waits ready
    cases at_k.symm.trans at_k'
    obtain ⟨ask, earlier, asks, same⟩ := noted.pending n task
    exact ⟨ask, earlier, same.symm ▸ task, asks, same⟩
  cases step with
  | kept refused quiet _ =>
    rw [ended?_quiet quiet, Chronicle.after, shown?_quiet quiet, asked?_refused at_k refused]
    exact .kept
  | @issued m target moved wanted =>
    subst moved
    rw [ended?_quiet (by simp [turnOf]), Chronicle.after, shown?_quiet (by simp [turnOf]),
      asked?_move at_k wanted]
    exact .asked _ wanted
  | @shown n ticket request a page given ready decoded =>
    obtain ⟨ask, earlier, task, asks, rfl⟩ := awaited ready
    obtain ⟨ask', earlier', asks', marked⟩ := noted.showing_eq task page
    cases asks.symm.trans asks'
    have after : c.after k s h = ⟨(ask, some page) :: earlier, some page⟩ := by
      rw [Chronicle.after, shown?_answered given ready, asked?_of_turnOf at_k given, decoded]
      exact marked
    rw [ended?_answered given ready, decoded, after]
    exact .shown page task asks
  | @failed n ticket request a e given ready failed =>
    obtain ⟨ask, earlier, task, asks, rfl⟩ := awaited ready
    have after : c.after k s h = c := by
      rw [Chronicle.after, shown?_answered given ready, asked?_of_turnOf at_k given, failed]
      rfl
    rw [ended?_answered given ready, failed, after]
    exact .failed e task asks
  | unmounted sequence gone =>
    have no_turn : ∀ n ticket request a, s.turnOf h = some n →
        ¬ s.HasAnswer n (.page k ticket request) a :=
      fun n ticket request a given => absurd gone (unmounts_of_turnOf given)
    have no_move : ∀ m target, h = .action (.move k m) → p.request? m ≠ .ok (some target) := by
      rintro m target rfl
      exact gone.elim
    rw [ended?_quiet no_turn, Chronicle.after, shown?_quiet no_turn, asked?_refused at_k no_move]
    exact .unmounted sequence

/-- What holds of every pager that has just been mounted, and is kept by every advance, holds of every
pager after every run. -/
theorem course_induction {motive : Pager → Chronicle → Endings → Prop}
    (opened : ∀ container options job,
      motive (Pager.opened container options job) (Chronicle.opened options job) [])
    (advance : ∀ {jobs p c l q c' l'}, Noted jobs p c → Advance p c l q c' l' → motive p c l →
      motive q c' l')
    (screen : Screen) (specs : List ControllerSpec) (history : List Happening)
    (at_k : ((fresh screen specs).run history).pagers[k]? = some p) :
    motive p ((fresh screen specs).chronicle k {} history)
      ((fresh screen specs).endings k [] history) := by
  have kept : ∀ (history : List Happening) (s : Stage) (c : Chronicle) (l : Endings), s.Linked →
      s.NotesDown k c → (s.pagers[k]? = none → l = []) →
      (∀ p, s.pagers[k]? = some p → motive p c l) →
      ∀ p, (s.run history).pagers[k]? = some p →
        motive p (s.chronicle k c history) (s.endings k l history) := by
    intro history
    induction history with
    | nil => exact fun s c l _ _ _ known p at_k => known p at_k
    | cons h later ih =>
      intro s c l linked notes blank known
      refine ih (s.happen h) _ _ (linked.happen h) (notes.happen linked h) ?_ ?_
      · intro absent
        cases before : s.pagers[k]? with
        | none => rw [ended?_absent linked before, blank before]; rfl
        | some p =>
          obtain ⟨q, at_q, -⟩ := pager_step linked before h
          cases absent.symm.trans at_q
      · intro q at_q
        cases before : s.pagers[k]? with
        | some p =>
          obtain ⟨q', at_q', step⟩ := pager_step linked before h
          cases at_q.symm.trans at_q'
          exact advance (notes.2 p before) (step.advance linked before (notes.2 p before) l)
            (known p before)
        | none =>
          have empty := notes.1 before
          subst empty
          obtain ⟨container, options, job, ticket, rfl, -⟩ := isNew_of_happen linked before at_q
          rw [ended?_absent linked before, blank before, after_of_new linked before at_q rfl]
          exact opened container options job
  exact kept history _ _ _ (Linked.fresh screen specs) (NotesDown.fresh screen specs k)
    (fun _ => rfl) (by simp [fresh]) p at_k

end Stage

/-! ## The last request -/

/-- How what is on display, and what has ended last, stand to what has been asked for. -/
structure Ended (p : Pager) (c : Chronicle) (l : Endings) : Prop where
  /-- The page on display is the one that was rendered last. -/
  display : ∀ n page, onDisplay l = some (n, .ok page) →
    ∃ ask, ask.job = n ∧ rendered c.asks = some (ask, page)
  /-- If a pager that is mounted waits no longer, what it asked for last has ended, and has ended
  last. -/
  last : p.mounted = true → p.task = none → ∃ ask earlier result before,
    c.asks = (ask, Except.toOption result) :: earlier ∧ l = (ask.job, result) :: before

namespace Ended

variable {p q : Pager} {c c' : Chronicle} {l l' : Endings}

theorem opened (container : Nat) (options : PagerOptions) (job : Nat) :
    Ended (Pager.opened container options job) (Chronicle.opened options job) [] :=
  ⟨fun _ _ shown => (nomatch shown), fun _ idle => (nomatch idle)⟩

theorem advance (ended : Ended p c l) (advance : Advance p c l q c' l') : Ended q c' l' := by
  cases advance with
  | kept => exact ended
  | asked job wanted => exact ⟨ended.display, fun _ idle => by cases idle⟩
  | @shown ask earlier page task asks =>
    refine ⟨fun n page' shown => ?_, fun _ _ => ⟨ask, earlier, .ok page, l, rfl, rfl⟩⟩
    cases shown
    exact ⟨ask, rfl, rfl⟩
  | @failed ask earlier e task asks =>
    refine ⟨fun n page shown => ?_, fun _ _ => ⟨ask, earlier, .error e, l, asks, rfl⟩⟩
    exact ended.display n page (onDisplay_error shown).2
  | unmounted sequence => exact ⟨ended.display, fun on => by cases on⟩

/-- While nothing is awaited, the page on display answers what was asked for last, unless that has been
cancelled. -/
theorem last_of_display (ended : Ended p c l) (on : p.mounted = true) (idle : p.task = none) {n : Nat}
    {page : PageResponse} (displayed : onDisplay l = some (n, .ok page)) :
    ∃ ask, ask.job = n ∧ rendered c.asks = some (ask, page) ∧
      ((∃ earlier, c.asks = (ask, some page) :: earlier) ∨
        ∃ last earlier e before, c.asks = (last, none) :: earlier ∧
          l = (last.job, .error e) :: before ∧ e.isCancellation = true) := by
  obtain ⟨ask, job, shown⟩ := ended.display n page displayed
  refine ⟨ask, job, shown, ?_⟩
  obtain ⟨last, earlier, result, before, asks, rfl⟩ := ended.last on idle
  cases result with
  | ok answer =>
    cases displayed
    rw [asks] at shown
    cases shown
    exact .inl ⟨earlier, asks⟩
  | error e => exact .inr ⟨last, earlier, e, before, asks, rfl, (onDisplay_error displayed).1⟩

/-- If what has ended last has failed, what was asked for last has not been shown. -/
theorem unanswered (ended : Ended p c l) (on : p.mounted = true) (idle : p.task = none) {n : Nat}
    {e : FetchError} {before : Endings} (failed : l = (n, .error e) :: before) :
    ∃ last earlier, c.asks = (last, none) :: earlier := by
  obtain ⟨last, earlier, result, before', asks, endings⟩ := ended.last on idle
  cases failed.symm.trans endings
  exact ⟨last, earlier, asks⟩

end Ended

namespace Stage

variable {s : Stage} {k : Nat} {p : Pager}

/-- A pager that says that it is not loading waits for nothing. -/
theorem Linked.idle (linked : s.Linked) (at_k : s.pagers[k]? = some p) (idle : p.loading = false) :
    p.task = none := by
  have same := (linked.pager k p at_k).loading
  rw [idle] at same
  exact Option.not_isSome_iff_eq_none.mp (by simp [← same])

theorem run_ended (screen : Screen) (specs : List ControllerSpec) (history : List Happening)
    (at_k : ((fresh screen specs).run history).pagers[k]? = some p) :
    Ended p ((fresh screen specs).chronicle k {} history)
      ((fresh screen specs).endings k [] history) :=
  course_induction Ended.opened (fun _ advance ended => ended.advance advance) screen specs history
    at_k

/-- What a pager keeps after a run is what its chronicle says. -/
theorem run_noted (screen : Screen) (specs : List ControllerSpec) (history : List Happening)
    (at_k : ((fresh screen specs).run history).pagers[k]? = some p) :
    Noted ((fresh screen specs).run history).schedule.jobs.length p
      ((fresh screen specs).chronicle k {} history) :=
  ((NotesDown.fresh screen specs k).run (Linked.fresh screen specs) history).2 p at_k

end Stage

end MapSidebar
