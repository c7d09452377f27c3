import MapSidebar.Proofs.PagerSteps
import MapSidebar.Proofs.Pages

/-!
# The cursors of a list

A chronicle notes what a pager asks for in a run, and which of it is shown: the answer to a request
that is still live, if it holds a page. Whatever else happens, the cursors that a pager keeps are
those that come out when only what was shown is followed: the first page begins the way, an older
page is one step further on it, by the cursor that the page before had reported, and a newer one is one
step back.
-/
namespace MapSidebar

/-! ## What is asked for and shown -/

/-- Something that a pager asks for. -/
structure Ask where
  /-- The job that sends the request. -/
  job : Nat
  /-- The move that was made, or none for the first page. -/
  move : Option PageMove
  /-- What the request says about the page that is wanted. -/
  address : PageAddress
  /-- The page that was rendered last when this was asked for. -/
  seen : Option PageResponse

namespace Ask

/-- The cursor of what is asked for, as the list has reported it: nothing for the first page, and
the next cursor of the page that was seen for another. -/
def reported (ask : Ask) : Cursor :=
  match ask.move with
  | none => none
  | some _ => ask.seen.bind (·.nextCursor)

/-- The way to the display once something is shown that was asked for at the end of a way. -/
def follow (ask : Ask) (way : List Ask) : List Ask :=
  match ask.move with
  | none => [ask]
  | some .older => ask :: way
  | some .newer => way.tail
  | some (.goto _) => way

end Ask

/-- What a pager has asked for, each with the page that answered it while it was live, the latest
first, and the page that was rendered last. -/
structure Chronicle where
  asks : List (Ask × Option PageResponse) := []
  display : Option PageResponse := none

/-- The way to the display, the last step first: what was not shown is no step. -/
def visited : List (Ask × Option PageResponse) → List Ask
  | [] => []
  | (ask, some _) :: earlier => ask.follow (visited earlier)
  | (_, none) :: earlier => visited earlier

namespace Chronicle

def asking (c : Chronicle) (job : Nat) (move : Option PageMove) (address : PageAddress) :
    Chronicle :=
  { c with asks := (⟨job, move, address, c.display⟩, none) :: c.asks }

/-- The chronicle once what a job asked for is shown. -/
def showing (c : Chronicle) (job : Nat) (page : PageResponse) : Chronicle where
  asks := c.asks.map fun (ask, shown) => (ask, if ask.job = job then some page else shown)
  display := some page

end Chronicle

namespace Stage

/-- What a happening lets pager `k` ask for: the job, the move and the address. A pager that is
mounted asks for its first page. -/
def asked? (s : Stage) (k : Nat) (h : Happening) : Option (Nat × Option PageMove × PageAddress) :=
  match s.pagers[k]?, h with
  | some p, .action (.move j m) =>
    if j = k then
      (p.request? m).toOption.join.map fun target => (s.schedule.nextJob, some m, target.address)
    else none
  | some _, _ => none
  | none, h => (s.happen h).pagers[k]?.bind fun p =>
    p.task.map fun job => (job, none, p.options.mode.first.address)

/-- The job of pager `k` whose answer a happening shows, and the page. The answer is one that came
while the job was live, and it holds a page. -/
def shown? (s : Stage) (k : Nat) (h : Happening) : Option (Nat × PageResponse) :=
  (s.turnOf h).bind fun n =>
    match s.schedule.jobs[n]? with
    | some ⟨.page j _ _, .answered a, false⟩ =>
      if j = k then (Pager.pageOf a).toOption.map (n, ·) else none
    | _ => none

end Stage

def Chronicle.after (c : Chronicle) (k : Nat) (s : Stage) (h : Stage.Happening) : Chronicle :=
  let c := match s.shown? k h with
    | some (job, page) => c.showing job page
    | none => c
  match s.asked? k h with
  | some (job, move, address) => c.asking job move address
  | none => c

/-- The chronicle of pager `k` after a run, from what it was before. -/
def Stage.chronicle (k : Nat) : Stage → Chronicle → List Stage.Happening → Chronicle
  | _, c, [] => c
  | s, c, h :: later => chronicle k (s.happen h) (c.after k s h) later

namespace Stage

variable {s : Stage} {k n : Nat} {p q : Pager} {c : Chronicle} {h : Happening}

theorem asked?_move (at_k : s.pagers[k]? = some p) {m : PageMove} {target : PageTarget}
    (wanted : p.request? m = .ok (some target)) :
    s.asked? k (.action (.move k m)) = some (s.schedule.nextJob, some m, target.address) := by
  simp [asked?, at_k, wanted, Except.toOption]

theorem asked?_refused (at_k : s.pagers[k]? = some p)
    (refused : ∀ m target, h = .action (.move k m) → p.request? m ≠ .ok (some target)) :
    s.asked? k h = none := by
  unfold asked?
  rw [at_k]
  split
  next p' j m same =>
    cases same
    split
    next own =>
      subst own
      cases wanted : p.request? m with
      | error overflow => rfl
      | ok found =>
        cases found with
        | none => rfl
        | some target => exact absurd wanted (refused m target rfl)
    · rfl
  · rfl
  next absent => cases absent

theorem asked?_new (absent : s.pagers[k]? = none) {job : Nat}
    (at_k : (s.happen h).pagers[k]? = some p) (task : p.task = some job) :
    s.asked? k h = some (job, none, p.options.mode.first.address) := by
  simp [asked?, absent, at_k, task]

theorem asked?_absent (absent : s.pagers[k]? = none) (still : (s.happen h).pagers[k]? = none) :
    s.asked? k h = none := by
  simp [asked?, absent, still]

theorem shown?_answered {ticket : Ticket} {request : Request} {a : Answer}
    (given : s.turnOf h = some n) (ready : s.HasAnswer n (.page k ticket request) a) :
    s.shown? k h = (Pager.pageOf a).toOption.map (n, ·) := by
  have at_n : s.schedule.jobs[n]? = some ⟨.page k ticket request, .answered a, false⟩ := ready
  simp [shown?, given, at_n]

theorem shown?_quiet (quiet : ∀ n ticket request a, s.turnOf h = some n →
    ¬ s.HasAnswer n (.page k ticket request) a) : s.shown? k h = none := by
  unfold shown?
  cases given : s.turnOf h with
  | none => rfl
  | some n =>
    rw [Option.bind_some]
    split
    next j ticket request a at_n =>
      rw [if_neg]
      rintro rfl
      exact quiet n ticket request a given at_n
    · rfl

end Stage

/-! ## Ways through a list -/

/-- A way through a list with cursors: from its first page on, and always by the cursor that the
list had reported. -/
inductive Way : List Ask → Prop where
  | first {ask : Ask} : ask.move = none → ask.address = .cursor none → Way [ask]
  | older {ask : Ask} {way : List Ask} {token : String} : ask.move = some .older →
    ask.reported = some token → ask.address = .cursor (some token) → Way way → Way (ask :: way)

namespace Way

variable {steps : List Ask}

theorem tail {displayed previous : Ask} {rest : List Ask}
    (way : Way (displayed :: previous :: rest)) : Way (previous :: rest) := by
  cases way with
  | older _ _ _ before => exact before

/-- Each step of a way was asked for by the cursor that had been reported for it. -/
theorem address_eq (way : Way steps) : ∀ ask ∈ steps, ask.address = .cursor ask.reported := by
  induction way with
  | @first first none_made address =>
    intro ask member
    obtain rfl := List.mem_singleton.mp member
    rw [address, Ask.reported, none_made]
  | @older last before token _ reported address _ ih =>
    intro ask member
    rcases List.mem_cons.mp member with rfl | inside
    · rw [address, reported]
    · exact ih ask inside

/-- The cursors of a way begin with that of the first page, and the list has given all others. -/
theorem cursors (way : Way steps) :
    ∃ tokens : List String, steps.map Ask.reported = tokens.map some ++ [none] := by
  induction way with
  | @first first none_made _ => exact ⟨[], by simp [Ask.reported, none_made]⟩
  | @older last before token _ reported _ _ ih =>
    obtain ⟨tokens, same⟩ := ih
    exact ⟨token :: tokens, by simp [reported, same]⟩

end Way

/-! ## What a pager keeps -/

/-- What a pager of a list with cursors keeps is what its chronicle says. -/
structure Follows (l : Ledger StageTask) (k : Nat) (p : Pager) (c : Chronicle) : Prop where
  stack : p.position.cursors = (visited c.asks).map Ask.reported
  next : p.position.nextCursor = c.display.bind (·.nextCursor)
  more : p.position.hasMore = (c.display.bind (·.hasMore)).getD false
  way : visited c.asks = [] ∧ c.display = none ∨ Way (visited c.asks)
  /-- The request whose answer is awaited is for what was asked for last, and the cursors that wait
  with it are those of the way that it would make. -/
  pending : ∀ n, p.task = some n → ∃ ask earlier, c.asks = (ask, none) :: earlier ∧ ask.job = n ∧
    Way (ask.follow (visited earlier)) ∧
    p.pendingCursors = some ((ask.follow (visited earlier)).map Ask.reported)
  sent : ∀ ask shown, (ask, shown) ∈ c.asks → ∃ ticket st, l[ask.job]? =
    some (.page k ticket (p.options.build ⟨ask.address, p.options.pageSize, p.options.filters⟩), st)
  jobs : (c.asks.map fun entry => entry.1.job).Nodup

/-- What is shown is marked at the entry that asked for it, and nowhere else. -/
theorem Chronicle.showing_head {ask : Ask} {earlier : List (Ask × Option PageResponse)}
    {display : Option PageResponse}
    (once : (((ask, none) :: earlier).map fun entry => entry.1.job).Nodup) (page : PageResponse) :
    Chronicle.showing ⟨(ask, none) :: earlier, display⟩ ask.job page =
      ⟨(ask, some page) :: earlier, some page⟩ := by
  rw [List.map_cons, List.nodup_cons] at once
  have others : ∀ entry ∈ earlier,
      (entry.1, if entry.1.job = ask.job then some page else entry.2) = entry := by
    intro entry member
    have different : entry.1.job ≠ ask.job := fun same =>
      once.1 (same ▸ List.mem_map_of_mem (f := fun entry => entry.1.job) member)
    rw [if_neg different]
  simp only [Chronicle.showing, List.map_cons, if_true, List.map_congr_left others, List.map_id']

/-- What a pager of a list with cursors asks for: the page after the one on display, which has been
announced, or the one before it. -/
theorem Pager.request?_cursor {p : Pager} (mode : p.options.mode = .cursor) {m : PageMove}
    {target : PageTarget} (wanted : p.request? m = .ok (some target)) :
    (m = .older ∧ ∃ next, p.position.nextCursor = some next ∧
      target = ⟨.cursor (some next), some (some next :: p.position.cursors)⟩) ∨
    (m = .newer ∧ ∃ displayed previous earlier,
      p.position.cursors = displayed :: previous :: earlier ∧
      target = ⟨.cursor previous, some (previous :: earlier)⟩) := by
  cases m with
  | goto n => simp [request?, goto?, mode] at wanted
  | older =>
    left
    simp only [request?, mode] at wanted
    split at wanted
    next next known =>
      have accepted := Except.ok.inj wanted
      simp only [Option.ite_none_right_eq_some, Option.some.injEq] at accepted
      exact ⟨rfl, next, known, accepted.2.symm⟩
    next => cases wanted
  | newer =>
    right
    simp only [request?, mode] at wanted
    split at wanted
    next displayed previous earlier known =>
      have accepted := Except.ok.inj wanted
      simp only [Option.ite_none_right_eq_some, Option.some.injEq] at accepted
      exact ⟨rfl, displayed, previous, earlier, known, accepted.2.symm⟩
    next => cases wanted

namespace Follows

variable {l l' : Ledger StageTask} {k n job : Nat} {p : Pager} {c : Chronicle}

theorem evolve (follows : Follows l k p c) (evolves : Ledger.Evolves l l') : Follows l' k p c := by
  refine ⟨follows.stack, follows.next, follows.more, follows.way, follows.pending, ?_, follows.jobs⟩
  intro ask shown member
  obtain ⟨ticket, st, at_job⟩ := follows.sent ask shown member
  obtain ⟨st', at_job', -⟩ := evolves _ _ st at_job
  exact ⟨ticket, st', at_job'⟩

/-- A pager that waits no longer keeps what it has. -/
theorem rest (follows : Follows l k p c) {q : Pager} (position : q.position = p.position)
    (options : q.options = p.options) (task : q.task = none) : Follows l k q c := by
  refine ⟨?_, ?_, ?_, follows.way, ?_, ?_, follows.jobs⟩
  · rw [position, follows.stack]
  · rw [position, follows.next]
  · rw [position, follows.more]
  · intro n waits
    cases task.symm.trans waits
  · rw [options]
    exact follows.sent

/-- Two pages are on the way to the display if the pager keeps two cursors. -/
theorem previous (follows : Follows l k p c) {displayed previous : Cursor} {earlier : List Cursor}
    (known : p.position.cursors = displayed :: previous :: earlier) :
    ∃ last before rest, visited c.asks = last :: before :: rest ∧
      Way (before :: rest) ∧ before.address = .cursor previous ∧
      (before :: rest).map Ask.reported = previous :: earlier := by
  rw [follows.stack] at known
  cases steps : visited c.asks with
  | nil => simp [steps] at known
  | cons last rest =>
    cases rest with
    | nil => simp [steps] at known
    | cons before rest =>
      rw [steps, List.map_cons, List.cons.injEq] at known
      have way : Way (last :: before :: rest) := by
        rcases follows.way with ⟨empty, -⟩ | way
        · cases steps.symm.trans empty
        · exact steps ▸ way
      refine ⟨last, before, rest, rfl, way.tail, ?_, known.2⟩
      rw [way.address_eq before (by simp)]
      exact congrArg _ (List.cons.inj known.2).1

/-- There is a way to the display once some page has reported the cursor of another. -/
theorem way_of_next (follows : Follows l k p c) {next : String}
    (known : p.position.nextCursor = some next) : Way (visited c.asks) := by
  rcases follows.way with ⟨-, blank⟩ | way
  · rw [follows.next, blank] at known
    cases known
  · exact way

/-- A move that is accepted is noted, and the cursors that wait with it are those of the way that it
would make. -/
theorem issue (follows : Follows l k p c) (mode : p.options.mode = .cursor) {m : PageMove}
    {target : PageTarget} (wanted : p.request? m = .ok (some target))
    (fresh : ∀ entry ∈ c.asks, entry.1.job ≠ job) (evolves : Ledger.Evolves l l')
    {ticket : Ticket} (started : l'[job]? = some (.page k ticket (p.requestFor target), .live)) :
    Follows l' k (p.issue target job) (c.asking job (some m) target.address) := by
  have later := follows.evolve evolves
  have moved : ∃ cursor, target.address = .cursor cursor ∧
      Way (Ask.follow ⟨job, some m, target.address, c.display⟩ (visited c.asks)) ∧
      target.cursors = some
        ((Ask.follow ⟨job, some m, target.address, c.display⟩ (visited c.asks)).map
          Ask.reported) := by
    rcases Pager.request?_cursor mode wanted with ⟨rfl, next, known, rfl⟩ |
      ⟨rfl, displayed, previous, earlier, known, rfl⟩
    · have reported : c.display.bind (·.nextCursor) = some next := follows.next.symm.trans known
      refine ⟨some next, rfl, .older rfl reported rfl (follows.way_of_next known), ?_⟩
      simp only [Ask.follow, List.map_cons, Ask.reported, reported, follows.stack]
    · obtain ⟨last, before, rest, steps, way, -, same⟩ := follows.previous known
      refine ⟨previous, rfl, ?_, ?_⟩
      · simpa only [Ask.follow, steps, List.tail_cons] using way
      · simp only [Ask.follow, steps, List.tail_cons, same]
  obtain ⟨cursor, address, way, waiting⟩ := moved
  have still : (p.issue target job).position = p.position := by
    simp [Pager.issue, PagePosition.toward, address]
  refine ⟨?_, ?_, ?_, follows.way, ?_, ?_, ?_⟩
  · rw [still, follows.stack]
    rfl
  · rw [still, follows.next]
    rfl
  · rw [still, follows.more]
    rfl
  · intro n waits
    cases waits
    exact ⟨_, c.asks, rfl, rfl, way, waiting⟩
  · intro ask shown member
    rcases List.mem_cons.mp member with last | before
    · cases last
      exact ⟨ticket, .live, started⟩
    · exact later.sent ask shown before
  · refine List.nodup_cons.mpr ⟨fun again => ?_, follows.jobs⟩
    obtain ⟨entry, member, same⟩ := List.mem_map.mp again
    exact fresh entry member same

/-- Once the page is shown, the way is the one that was waited for. -/
theorem display (follows : Follows l k p c) (task : p.task = some n) (page : PageResponse) :
    Follows l k (p.showing page) (c.showing n page) := by
  obtain ⟨ask, earlier, asks, rfl, way, waiting⟩ := follows.pending n task
  have same : c = ⟨(ask, none) :: earlier, c.display⟩ := by rw [← asks]
  have once := follows.jobs
  rw [asks] at once
  have marked : c.showing ask.job page = ⟨(ask, some page) :: earlier, some page⟩ := by
    rw [same]
    exact Chronicle.showing_head once page
  rw [marked]
  refine ⟨?_, rfl, rfl, .inr way, ?_, ?_, once⟩
  · simp only [Pager.showing, Pager.settled, PagePosition.shown, PagePosition.adopt, waiting,
      visited]
  · intro m waits
    cases waits
  · intro other shown member
    rcases List.mem_cons.mp member with last | before
    · cases last
      exact follows.sent ask none (by simp [asks])
    · exact follows.sent other shown (by simp [asks, before])

/-- A pager that has been mounted waits for the first page of its list. -/
theorem new {s : Stage} (new : s.IsNew k p) (mode : p.options.mode = .cursor) :
    ∃ job, p.task = some job ∧ p.options.mode.first.address = .cursor none ∧
      Follows s.schedule.ledger k p (Chronicle.asking {} job none (.cursor none)) := by
  obtain ⟨container, options, job, ticket, rfl, started⟩ := new
  have cursors : options.mode = .cursor := mode
  have first : options.mode.first = ⟨.cursor none, some [none]⟩ := by rw [cursors]; rfl
  have address : options.mode.first.address = .cursor none := by rw [first]
  refine ⟨job, rfl, address, ?_, ?_, ?_, .inl ⟨rfl, rfl⟩, ?_, ?_, by simp [Chronicle.asking]⟩
  · simp [Pager.issue, first, PagePosition.toward, Chronicle.asking, visited]
  · simp [Pager.issue, first, PagePosition.toward, Chronicle.asking]
  · simp [Pager.issue, first, PagePosition.toward, Chronicle.asking]
  · intro n waits
    cases waits
    refine ⟨_, [], rfl, rfl, .first rfl rfl, ?_⟩
    simp [Pager.issue, first, Ask.follow, Ask.reported]
  · intro ask shown member
    cases List.mem_singleton.mp member
    refine ⟨ticket, .live, ?_⟩
    rw [started, Pager.requestFor, address]

end Follows

/-! ## Runs -/

namespace Stage

variable {s : Stage} {k n : Nat} {p q : Pager} {c : Chronicle} {h : Happening}

/-- The chronicle of pager `k` holds for the pager, and is empty as long as there is none. -/
def Chronicled (s : Stage) (k : Nat) (c : Chronicle) : Prop :=
  (s.pagers[k]? = none → c = {}) ∧
    ∀ p, s.pagers[k]? = some p → p.options.mode = .cursor → Follows s.schedule.ledger k p c

/-- What a pager asks for is the task of the next job. -/
theorem issuePage_entry (s : Stage) (k : Nat) (p : Pager) (target : PageTarget) :
    (s.issuePage k p target).schedule.ledger[s.schedule.nextJob]? =
      some (.page k p.nextTicket (p.requestFor target), .live) := by
  rw [issuePage_ledger]
  refine Ledger.append_entry.mpr (.inr ⟨?_, rfl, rfl⟩)
  rw [← Schedule.ledger_abortSlot, Schedule.ledger_length]
  exact (s.schedule.abortSlot_nextJob p.task).symm

theorem asked?_of_turnOf (at_k : s.pagers[k]? = some p) (given : s.turnOf h = some n) :
    s.asked? k h = none := by
  refine asked?_refused at_k fun m target moved => ?_
  subst moved
  cases given

/-- A step of a pager keeps to its chronicle. -/
theorem PagerStep.follows (linked : s.Linked) (at_k : s.pagers[k]? = some p)
    (step : s.PagerStep k p h q) (mode : p.options.mode = .cursor)
    (follows : Follows s.schedule.ledger k p c) :
    Follows (s.happen h).schedule.ledger k q (c.after k s h) := by
  have evolves := s.happen_evolves h
  cases step with
  | kept refused quiet _ =>
    rw [Chronicle.after, shown?_quiet quiet, asked?_refused at_k refused]
    exact follows.evolve evolves
  | @issued m target moved wanted =>
    subst moved
    rw [Chronicle.after, shown?_quiet (by simp [turnOf]), asked?_move at_k wanted]
    have issued : s.happen (.action (.move k m)) = s.issuePage k p target := by
      rw [happen, perform_move at_k, wanted]
    have started := s.issuePage_entry k p target
    rw [← issued] at started
    refine follows.issue mode wanted (fun entry member same => ?_) evolves started
    -- Whatever was asked for before has a job that was there already.
    obtain ⟨ticket, st, at_job⟩ := follows.sent entry.1 entry.2 member
    have bound := Ledger.lt_length at_job
    rw [Schedule.ledger_length, same] at bound
    exact Nat.lt_irrefl _ bound
  | @shown n ticket request a page given ready decoded =>
    obtain ⟨p', at_k', task, -⟩ := linked.page_waits ready
    cases at_k.symm.trans at_k'
    rw [Chronicle.after, shown?_answered given ready, asked?_of_turnOf at_k given, decoded]
    exact (follows.display task page).evolve evolves
  | @failed n ticket request a e given ready failed =>
    rw [Chronicle.after, shown?_answered given ready, asked?_of_turnOf at_k given, failed]
    exact (follows.evolve evolves).rest rfl rfl rfl
  | unmounted sequence gone =>
    have no_move : ∀ m target, h = .action (.move k m) → p.request? m ≠ .ok (some target) := by
      rintro m target rfl
      exact gone.elim
    have no_turn : ∀ n ticket request a, s.turnOf h = some n →
        ¬ s.HasAnswer n (.page k ticket request) a :=
      fun n ticket request a given => absurd gone (unmounts_of_turnOf given)
    rw [Chronicle.after, shown?_quiet no_turn, asked?_refused at_k no_move]
    exact (follows.evolve evolves).rest rfl rfl rfl

theorem Chronicled.happen (linked : s.Linked) (noted : s.Chronicled k c) (h : Happening) :
    (s.happen h).Chronicled k (c.after k s h) := by
  cases at_k : s.pagers[k]? with
  | some p =>
    obtain ⟨q, at_k', step⟩ := pager_step linked at_k h
    refine ⟨fun absent => ?_, fun r at_r mode => ?_⟩
    · cases absent.symm.trans at_k'
    · cases at_k'.symm.trans at_r
      rw [step.options_eq] at mode
      exact step.follows linked at_k mode (noted.2 p at_k mode)
  | none =>
    have blank := noted.1 at_k
    subst blank
    have no_turn : ∀ n ticket request a, s.turnOf h = some n →
        ¬ s.HasAnswer n (.page k ticket request) a := by
      intro n ticket request a _ ready
      obtain ⟨p, at_k', -⟩ := linked.page_waits ready
      cases at_k.symm.trans at_k'
    rw [Chronicle.after, shown?_quiet no_turn]
    refine ⟨fun absent => ?_, fun q at_q mode => ?_⟩
    · rw [asked?_absent at_k absent]
    · obtain ⟨job, task, address, follows⟩ := Follows.new (isNew_of_happen linked at_k at_q) mode
      rw [asked?_new at_k at_q task, address]
      exact follows

theorem Chronicled.run (linked : s.Linked) (noted : s.Chronicled k c) (history : List Happening) :
    (s.run history).Chronicled k (s.chronicle k c history) := by
  induction history generalizing s c with
  | nil => exact noted
  | cons h later ih => exact ih (linked.happen h) (noted.happen linked h)

theorem Chronicled.fresh (screen : Screen) (specs : List ControllerSpec) (k : Nat) :
    (fresh screen specs).Chronicled k {} :=
  ⟨fun _ => rfl, by simp [Stage.fresh]⟩

/-- What shows no page of a list leaves what is kept of its cursors. -/
theorem PagerStep.quiet (step : s.PagerStep k p h q) (mode : p.options.mode = .cursor)
    (none_shown : s.shown? k h = none) : q.position = p.position := by
  cases step with
  | kept _ _ _ => rfl
  | @issued m target moved wanted =>
    rcases Pager.request?_cursor mode wanted with ⟨-, next, -, rfl⟩ | ⟨-, _, previous, _, -, rfl⟩
    · rfl
    · rfl
  | @shown n ticket request a page given ready decoded =>
    rw [shown?_answered given ready, decoded] at none_shown
    cases none_shown
  | failed _ _ _ => rfl
  | unmounted _ _ => rfl

/-- Every step of the way was answered by a page. -/
theorem shown_of_visited {asks : List (Ask × Option PageResponse)} :
    ∀ ask ∈ visited asks, ∃ page, (ask, some page) ∈ asks := by
  induction asks with
  | nil => simp [visited]
  | cons entry earlier ih =>
    have old : ∀ ask ∈ visited earlier, ∃ page, (ask, some page) ∈ entry :: earlier :=
      fun ask member => (ih ask member).imp fun page inside => List.mem_cons_of_mem _ inside
    obtain ⟨last, _ | page⟩ := entry
    · exact old
    · intro ask member
      rw [visited, Ask.follow] at member
      split at member
      · obtain rfl := List.mem_singleton.mp member
        exact ⟨page, by simp⟩
      · rcases List.mem_cons.mp member with rfl | before
        · exact ⟨page, by simp⟩
        · exact old ask before
      · exact old ask (List.mem_of_mem_tail member)
      · exact old ask member

/-! ## All of it -/

/-- What holds of pager `k` of a list with cursors, when its chronicle is `c`. -/
structure CursorsInOrder (s : Stage) (k : Nat) (p : Pager) (c : Chronicle) : Prop where
  /-- The cursors are those of the way that comes out when only what was shown is followed. -/
  stack : p.position.cursors = (visited c.asks).map Ask.reported
  /-- The next cursor, and whether there is more, are what the page rendered last has said. -/
  next : p.position.nextCursor = c.display.bind (·.nextCursor)
  more : p.position.hasMore = (c.display.bind (·.hasMore)).getD false
  /-- All that shows no page of the list leaves the cursors and the rest of the position: a move
  that is accepted or refused, a failure, a cancellation, an answer that is no longer wanted, and an
  unmount. -/
  kept : ∀ h, s.shown? k h = none →
    ∃ q, (s.happen h).pagers[k]? = some q ∧ q.position = p.position
  /-- There are no cursors, or the lowest is that of the first page and the list has given all
  others. -/
  bottom : p.position.cursors = [] ∨
    ∃ tokens : List String, p.position.cursors = tokens.map some ++ [none]
  /-- All that was asked for is in the request of its job. -/
  sent : ∀ ask shown, (ask, shown) ∈ c.asks → ∃ ticket st, s.schedule.ledger[ask.job]? =
    some (.page k ticket (p.options.build ⟨ask.address, p.options.pageSize, p.options.filters⟩), st)
  /-- A move to an older page asks with the cursor that the page rendered last has reported. -/
  older : ∀ t, s.move k .older = .ok (t, true) →
    ∃ page next, c.display = some page ∧ page.nextCursor = some next ∧
      t.schedule.ledger[s.schedule.nextJob]? = some (.page k p.nextTicket
        (p.options.build ⟨.cursor (some next), p.options.pageSize, p.options.filters⟩), .live)
  /-- A move to a newer page asks with the cursor with which the page before the one on display had
  been asked for. -/
  newer : ∀ t, s.move k .newer = .ok (t, true) →
    ∃ displayed previous rest, visited c.asks = displayed :: previous :: rest ∧
      (∃ page, (previous, some page) ∈ c.asks) ∧
      t.schedule.ledger[s.schedule.nextJob]? = some (.page k p.nextTicket
        (p.options.build ⟨previous.address, p.options.pageSize, p.options.filters⟩), .live)

/-- Moves, failures, cancellations and late answers may come in any order: the cursors of a list
follow the moves that were answered, each by its own page, and only those. -/
theorem cursors_in_order (screen : Screen) (specs : List ControllerSpec) (history : List Happening)
    {k : Nat} {p : Pager} (at_k : ((fresh screen specs).run history).pagers[k]? = some p)
    (mode : p.options.mode = .cursor) :
    CursorsInOrder ((fresh screen specs).run history) k p
      ((fresh screen specs).chronicle k {} history) := by
  have linked := (Linked.fresh screen specs).run history
  have noted := (Chronicled.fresh screen specs k).run (Linked.fresh screen specs) history
  have follows := noted.2 p at_k mode
  refine ⟨follows.stack, follows.next, follows.more, ?_, ?_, follows.sent, ?_, ?_⟩
  · intro h none_shown
    obtain ⟨q, at_k', step⟩ := pager_step linked at_k h
    exact ⟨q, at_k', step.quiet mode none_shown⟩
  · rw [follows.stack]
    rcases follows.way with ⟨empty, -⟩ | way
    · exact .inl (by rw [empty]; rfl)
    · exact .inr way.cursors
  · intro t accepted
    obtain ⟨target, wanted, rfl⟩ := move_accepted at_k accepted
    obtain ⟨-, next, known, rfl⟩ | ⟨impossible, -⟩ := Pager.request?_cursor mode wanted
    · obtain ⟨page, display, reported⟩ := Option.bind_eq_some_iff.mp (follows.next.symm.trans known)
      exact ⟨page, next, display, reported, issuePage_entry _ k p _⟩
    · cases impossible
  · intro t accepted
    obtain ⟨target, wanted, rfl⟩ := move_accepted at_k accepted
    obtain ⟨impossible, -⟩ | ⟨-, displayed, previous, earlier, known, rfl⟩ :=
      Pager.request?_cursor mode wanted
    · cases impossible
    · obtain ⟨last, before, rest, steps, -, address, -⟩ := follows.previous known
      refine ⟨last, before, rest, steps, shown_of_visited before (by simp [steps]), ?_⟩
      rw [address]
      exact issuePage_entry _ k p _

/-- A page of a list that goes on with a cursor. -/
def goingOn (token : String) : Answer :=
  .ok (.json 200 (.object [("has_more", .bool true), ("next_cursor", .string token)]))

/-- Two moves to the older page before its answer comes, a late answer to the first of them, and a
move back that fails. -/
def clickedTwice : List Happening :=
  [.action (.mount 0 { mode := .cursor, build := fun _ => { url := "/versions" } }), .turn 0,
    .action (.answer 0 (goingOn "b")), .turn 0, .action (.move 0 .older), .turn 1,
    .action (.move 0 .older), .turn 2, .action (.answer 1 (goingOn "late")), .turn 1,
    .action (.answer 2 (goingOn "c")), .turn 2, .action (.move 0 .newer), .turn 3,
    .action (.answer 3 (.error (.network "reset"))), .turn 3]

theorem cursors_in_order_clickedTwice : ∃ p : Pager,
    ((fresh { containers := [{}] } []).run clickedTwice).pagers[0]? = some p ∧
    p.options.mode = .cursor ∧ p.position.cursors = [some "b", none] ∧
    p.position.nextCursor = some "c" ∧
    CursorsInOrder ((fresh { containers := [{}] } []).run clickedTwice) 0 p
      ((fresh { containers := [{}] } []).chronicle 0 {} clickedTwice) :=
  ⟨_, rfl, rfl, by decide +kernel, by decide +kernel, cursors_in_order _ _ _ rfl rfl⟩

end Stage

end MapSidebar
