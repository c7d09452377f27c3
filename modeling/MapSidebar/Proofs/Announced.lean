import MapSidebar.Proofs.PageArithmetic
import MapSidebar.Proofs.Position

/-!
# Pages that have been announced

A numbered list whose page count nobody has told steps on if the page rendered last has announced more.
The step starts at the number of the list, though, and that is the one asked for last. So the page that
is asked for has been announced as long as the list steps on from a page that it shows; each step
made before the answer, or after a failure, leads one page further.
-/
namespace MapSidebar

/-- Whether a page with number `n` has been rendered and has announced more. -/
def announced (asks : List (Ask × Option PageResponse)) (n : UInt32) : Bool :=
  asks.any fun (ask, shown) => shown.any fun page => ask.number page = n && page.hasMore = some true

section

variable {asks : List (Ask × Option PageResponse)} {ask : Ask} {page : PageResponse} {n : UInt32}

theorem announced_iff : announced asks n = true ↔
    ∃ ask page, (ask, some page) ∈ asks ∧ ask.number page = n ∧ page.hasMore = some true := by
  simp [announced, Option.any_eq_true]

theorem announced_of_rendered (last : rendered asks = some (ask, page))
    (more : page.hasMore = some true) : announced asks (ask.number page) = true :=
  announced_iff.mpr ⟨ask, page, mem_of_rendered last, rfl, more⟩

end

/-! ## How far a list is ahead -/

/-- A numbered list is as far ahead of the page rendered last as steps have been made on from it, of
which none has been answered. -/
def Ahead (p : Pager) (c : Chronicle) : Prop :=
  ∀ steps ask page earlier, c.asks = steps ++ (ask, some page) :: earlier →
    (∀ entry ∈ steps, entry.1.move = some .older ∧ entry.2 = none) →
    p.position.page.toNat = (ask.number page).toNat + steps.length

namespace Ahead

variable {jobs : Nat} {p q : Pager} {c c' : Chronicle} {l l' : Endings} {initial : UInt32}

theorem opened (container : Nat) (options : PagerOptions) (job : Nat) :
    Ahead (Pager.opened container options job) (Chronicle.opened options job) := by
  intro steps ask page earlier asks _
  -- Nothing has been shown.
  cases steps with
  | nil => cases asks
  | cons step steps => cases steps <;> cases asks

/-- One more step leads one page further. -/
theorem asking (ahead : Ahead p c) (mode : p.options.mode = .numbered initial) {m : PageMove}
    {target : PageTarget} (wanted : p.request? m = .ok (some target)) (job : Nat) :
    Ahead (p.issue target job) (c.asking job (some m) target.address) := by
  intro steps ask page earlier asks on
  cases steps with
  | nil => cases asks
  | cons step steps =>
    obtain ⟨rfl, before⟩ := List.cons.inj asks
    obtain ⟨moved, -⟩ := on _ List.mem_cons_self
    cases moved
    obtain ⟨-, n, next, rfl⟩ := Pager.older_target mode wanted
    have start := ahead steps ask page earlier before fun entry member =>
      on entry (List.mem_cons_of_mem _ member)
    change n.toNat = _
    rw [next, start, List.length_cons]
    omega

/-- A page that is shown brings its own number. -/
theorem showing (noted : Noted jobs p c) (mode : p.options.mode = .numbered initial) {ask : Ask}
    {earlier : List (Ask × Option PageResponse)} (task : p.task = some ask.job)
    (asks : c.asks = (ask, none) :: earlier) (page : PageResponse) :
    Ahead (p.showing page) ⟨(ask, some page) :: earlier, some page⟩ := by
  have later := noted.display_page task page
  obtain ⟨ask', earlier', asks', marked⟩ := noted.showing_eq task page
  cases asks.symm.trans asks'
  rw [marked] at later
  intro steps ask' page' earlier' same on
  cases steps with
  | nil =>
    cases same
    exact congrArg UInt32.toNat (later.page_eq mode rfl)
  | cons step steps =>
    obtain ⟨rfl, -⟩ := List.cons.inj same
    cases (on _ List.mem_cons_self).2

theorem advance (ahead : Ahead p c) (noted : Noted jobs p c)
    (mode : p.options.mode = .numbered initial) (advance : Advance p c l q c' l') : Ahead q c' := by
  cases advance with
  | kept => exact ahead
  | asked job wanted => exact ahead.asking mode wanted job
  | shown page task asks => exact showing noted mode task asks page
  | failed e task asks => exact ahead
  | unmounted sequence => exact ahead

end Ahead

namespace Stage

variable {k : Nat} {p : Pager} {initial : UInt32}

theorem run_ahead (screen : Screen) (specs : List ControllerSpec) (history : List Happening)
    (at_k : ((fresh screen specs).run history).pagers[k]? = some p)
    (mode : p.options.mode = .numbered initial) :
    Ahead p ((fresh screen specs).chronicle k {} history) := by
  refine course_induction (motive := fun p c _ => p.options.mode = .numbered initial → Ahead p c)
    (fun container options job _ => .opened container options job) ?_ screen specs history at_k mode
  intro jobs p c l q c' l' noted advance ahead mode
  rw [advance.options_eq] at mode
  exact (ahead mode).advance noted mode advance

/-! ## All of it -/

/-- What holds of a step on that pager `k` has accepted, when its chronicle was `c`; the list is
numbered and has not been told a page count. -/
structure StepsOn (s : Stage) (k : Nat) (p : Pager) (c : Chronicle) (t : Stage) : Prop where
  /-- It asks for the page after the number of the list. -/
  request : ∃ (n : UInt32) (ticket : Ticket), n.toNat = p.position.page.toNat + 1 ∧
    t.schedule.ledger[s.schedule.nextJob]? =
      some (.page k ticket (p.requestFor { address := .number n }), .live)
  /-- The page rendered last has announced more. -/
  more : ∃ ask page, rendered c.asks = some (ask, page) ∧ page.hasMore = some true ∧
    announced c.asks (ask.number page) = true
  /-- The number is that of the page rendered last, and one more for each step that has been made
  since without an answer. -/
  ahead : Ahead p c
  /-- If what was asked for last has not been shown, the number is that of this. -/
  awaited : ∀ last earlier, c.asks = (last, none) :: earlier →
    last.address = .number p.position.page
  /-- So a page of that number has announced more exactly if what was asked for last was answered by a
  page, or if one had done so before that. -/
  announced : announced c.asks p.position.page = true ↔
    (∃ ask page earlier, c.asks = (ask, some page) :: earlier) ∨
    ∃ last earlier, c.asks = (last, none) :: earlier ∧
      announced earlier p.position.page = true

/-- In every state that a run can lead to, this is how far a numbered list steps on, as long as no page
has told how many there are. -/
theorem older_steps_on (screen : Screen) (specs : List ControllerSpec) (history : List Happening)
    {k : Nat} {p : Pager} {initial : UInt32} {t : Stage}
    (at_k : ((fresh screen specs).run history).pagers[k]? = some p)
    (mode : p.options.mode = .numbered initial)
    (uncounted : ∀ ask page, (ask, some page) ∈ ((fresh screen specs).chronicle k {} history).asks →
      page.numPages = none)
    (accepted : ((fresh screen specs).run history).move k .older = .ok (t, true)) :
    StepsOn ((fresh screen specs).run history) k p ((fresh screen specs).chronicle k {} history)
      t := by
  have noted := run_noted screen specs history at_k
  have some_asked := run_asks screen specs history at_k
  have ahead := run_ahead screen specs history at_k mode
  generalize (fresh screen specs).run history = s at *
  generalize (fresh screen specs).chronicle k {} history = c at *
  obtain ⟨target, wanted, rfl⟩ := move_accepted at_k accepted
  obtain ⟨known, n, next, rfl⟩ := Pager.older_target mode wanted
  have untold : p.position.numPages = none := noted.count.trans (pageCount_eq_none.mpr uncounted)
  obtain ⟨ask, page, last, told⟩ := noted.hasMore_iff.mp (known.resolve_left (by simp [untold]))
  refine ⟨⟨n, p.nextTicket, next, s.issuePage_entry k p _⟩,
    ⟨ask, page, last, told, announced_of_rendered last told⟩, ahead,
    fun last earlier asks => noted.requested_eq mode asks, ?_⟩
  obtain ⟨⟨latest, shown⟩, earlier, asks⟩ := List.exists_cons_of_ne_nil some_asked
  cases shown with
  | none =>
    rw [asks]
    constructor
    · exact fun before => .inr ⟨latest, earlier, rfl, before⟩
    · rintro (⟨ask', page', earlier', same⟩ | ⟨last', earlier', same, before⟩)
      · cases same
      · cases same
        exact before
  | some page' =>
    rw [asks] at last
    cases last
    refine ⟨fun _ => .inl ⟨ask, page, earlier, asks⟩, fun _ => ?_⟩
    rw [noted.page_eq mode asks]
    exact announced_of_rendered (by rw [asks]; rfl) told

/-- The first page announces more, and the list steps on twice before the second one comes. -/
def steppedTwice : List Happening :=
  [.action (.mount 0 { build := fun r => { url := "/list", fields := r.queryPairs } }), .turn 0,
    .action (.answer 0 (.ok (.json 200 (.object [("has_more", .bool true)])))), .turn 0,
    .action (.move 0 .older)]

/-- A second step on asks for the third page, and the second one has not been shown. -/
theorem older_steps_over : ∃ (p : Pager) (t : Stage) (ticket : Ticket) (request : Request),
    ((fresh { containers := [{}] } []).run steppedTwice).pagers[0]? = some p ∧
    p.options.mode = .numbered 1 ∧
    pageCount ((fresh { containers := [{}] } []).chronicle 0 {} steppedTwice).asks = none ∧
    ((fresh { containers := [{}] } []).run steppedTwice).move 0 .older = .ok (t, true) ∧
    t.schedule.ledger[2]? = some (.page 0 ticket request, .live) ∧
    request.fields = [("page", "3")] ∧
    announced ((fresh { containers := [{}] } []).chronicle 0 {} steppedTwice).asks 2 = false :=
  ⟨_, _, _, _, rfl, rfl, rfl, rfl, rfl, by decide +kernel, by decide +kernel⟩

theorem older_steps_on_steppedTwice : ∃ (p : Pager) (t : Stage),
    ((fresh { containers := [{}] } []).run steppedTwice).pagers[0]? = some p ∧
    p.options.mode = .numbered 1 ∧
    ((fresh { containers := [{}] } []).run steppedTwice).move 0 .older = .ok (t, true) ∧
    StepsOn ((fresh { containers := [{}] } []).run steppedTwice) 0 p
      ((fresh { containers := [{}] } []).chronicle 0 {} steppedTwice) t :=
  ⟨_, _, rfl, rfl, rfl, older_steps_on _ _ _ rfl rfl (pageCount_eq_none.mp rfl) rfl⟩

end Stage

end MapSidebar
