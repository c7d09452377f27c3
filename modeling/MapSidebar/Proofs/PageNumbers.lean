import MapSidebar.Proofs.CursorStack

/-!
# What a pager knows of its list

Of what a list has told, a pager keeps what the page rendered last has said, and of the page count
the last one that any rendered page has told. In a numbered list its own number is that of the last
move that was accepted, until the page comes; then it is the one that the page has told, if it has.
-/
namespace MapSidebar

/-- What was rendered last, with what had been asked for. -/
def rendered (asks : List (Ask × Option PageResponse)) : Option (Ask × PageResponse) :=
  asks.findSome? fun (ask, shown) => shown.map (ask, ·)

/-- The page count that a rendered page has told last. -/
def pageCount (asks : List (Ask × Option PageResponse)) : Option UInt32 :=
  asks.findSome? fun (_, shown) => shown.bind (·.numPages)

/-- The number of a page: the one that it tells, or else the one that was asked for. -/
def Ask.number (ask : Ask) (page : PageResponse) : UInt32 :=
  page.page.getD (match ask.address with
    | .number n => n
    | .cursor _ => 0)

variable {ask : Ask} {page : PageResponse} {earlier : List (Ask × Option PageResponse)}

@[simp] theorem rendered_waiting : rendered ((ask, none) :: earlier) = rendered earlier := rfl

@[simp] theorem rendered_shown : rendered ((ask, some page) :: earlier) = some (ask, page) := rfl

@[simp] theorem pageCount_waiting : pageCount ((ask, none) :: earlier) = pageCount earlier := rfl

@[simp] theorem pageCount_shown :
    pageCount ((ask, some page) :: earlier) = page.numPages.or (pageCount earlier) := by
  cases told : page.numPages <;> simp [pageCount, told]

theorem mem_of_rendered {asks : List (Ask × Option PageResponse)}
    (last : rendered asks = some (ask, page)) : (ask, some page) ∈ asks := by
  obtain ⟨⟨ask', shown⟩, member, same⟩ := List.exists_of_findSome?_eq_some last
  cases shown with
  | none => cases same
  | some page' =>
    cases same
    exact member

/-- No page count is known if no page that was rendered has told one. -/
theorem pageCount_eq_none {asks : List (Ask × Option PageResponse)} :
    pageCount asks = none ↔ ∀ ask page, (ask, some page) ∈ asks → page.numPages = none := by
  rw [pageCount, List.findSome?_eq_none_iff]
  refine ⟨fun untold ask page member => untold _ member, ?_⟩
  rintro untold ⟨ask, shown⟩ member
  cases shown with
  | none => rfl
  | some page => exact untold ask page member

/-- As long as nothing has been rendered, nothing has been told. -/
theorem pageCount_of_blank {asks : List (Ask × Option PageResponse)} (blank : rendered asks = none) :
    pageCount asks = none := by
  rw [rendered, List.findSome?_eq_none_iff] at blank
  exact pageCount_eq_none.mpr fun ask page member => (nomatch blank _ member)

namespace PagePosition

variable (position : PagePosition) (address : PageAddress)

@[simp] theorem toward_numPages : (position.toward address).numPages = position.numPages := by
  cases address <;> rfl

@[simp] theorem toward_hasMore : (position.toward address).hasMore = position.hasMore := by
  cases address <;> rfl

@[simp] theorem toward_nextCursor : (position.toward address).nextCursor = position.nextCursor := by
  cases address <;> rfl

/-- While a page is awaited, the number is all that changes. -/
theorem toward_with_page (n : UInt32) :
    { position.toward address with page := n } = { position with page := n } := by
  cases address <;> rfl

end PagePosition

namespace Pager

variable {p : Pager} {n initial : UInt32} {target : PageTarget} {m : PageMove}

/-- A numbered list that is mounted goes to every page that may exist. -/
theorem goto?_eq_some (mode : p.options.mode = .numbered initial) :
    p.goto? n = some target ↔ p.mounted = true ∧ 1 ≤ n ∧
      (∀ total, p.position.numPages = some total → n ≤ total) ∧ target = { address := .number n } := by
  cases told : p.position.numPages with
  | none => simp [goto?, mode, told, and_assoc, eq_comm (b := target)]
  | some total => simp [goto?, mode, told, and_assoc, eq_comm (b := target)]

/-- Whatever a numbered list asks for is a page that it goes to. -/
theorem goto?_of_request (mode : p.options.mode = .numbered initial)
    (wanted : p.request? m = .ok (some target)) : ∃ n, p.goto? n = some target := by
  have through : ∀ n : Except PageOverflow UInt32, n.map p.goto? = .ok (some target) →
      ∃ n, p.goto? n = some target := by
    rintro (overflow | n) found
    · cases found
    · exact ⟨n, Except.ok.inj found⟩
  cases m with
  | goto n => exact through (.ok n) wanted
  | older =>
    simp only [request?, mode] at wanted
    split at wanted
    · exact through _ wanted
    · cases wanted
  | newer =>
    simp only [request?, mode] at wanted
    split at wanted
    · exact through _ wanted
    · cases wanted

/-- So it is asked for by a number. -/
theorem request?_numbered (mode : p.options.mode = .numbered initial)
    (wanted : p.request? m = .ok (some target)) : ∃ n, target = { address := .number n } := by
  obtain ⟨n, found⟩ := goto?_of_request mode wanted
  exact ⟨n, ((goto?_eq_some mode).mp found).2.2.2⟩

end Pager

/-! ## What is kept of a list -/

/-- The number that a numbered list keeps is the one that was asked for last, or that of the page
with which it was answered. -/
structure Numbered (p : Pager) (c : Chronicle) : Prop where
  waits : p.pendingCursors = none
  asked : ∀ entry ∈ c.asks, ∃ n, entry.1.address = .number n
  page : ∀ ask shown earlier, c.asks = (ask, shown) :: earlier → ∃ n, ask.address = .number n ∧
    p.position.page = (shown.bind (·.page)).getD n

/-- What a pager keeps of its list is what its chronicle says, in either mode; of its jobs there are
`jobs` at most. -/
structure Noted (jobs : Nat) (p : Pager) (c : Chronicle) : Prop where
  display : c.display = (rendered c.asks).map Prod.snd
  count : p.position.numPages = pageCount c.asks
  more : p.position.hasMore = (c.display.bind (·.hasMore)).getD false
  next : p.position.nextCursor = c.display.bind (·.nextCursor)
  numbered : ∀ initial, p.options.mode = .numbered initial → Numbered p c
  pending : ∀ n, p.task = some n → ∃ ask earlier, c.asks = (ask, none) :: earlier ∧ ask.job = n
  bound : ∀ entry ∈ c.asks, entry.1.job < jobs
  once : (c.asks.map fun entry => entry.1.job).Nodup

namespace Noted

variable {jobs jobs' n : Nat} {p q : Pager} {c : Chronicle} {m : PageMove} {target : PageTarget}

theorem mono (noted : Noted jobs p c) (more : jobs ≤ jobs') : Noted jobs' p c :=
  ⟨noted.display, noted.count, noted.more, noted.next, noted.numbered, noted.pending,
    fun entry member => Nat.lt_of_lt_of_le (noted.bound entry member) more, noted.once⟩

/-- A pager that waits no longer keeps what it has. -/
theorem rest (noted : Noted jobs p c) (position : q.position = p.position)
    (options : q.options = p.options) (task : q.task = none) (waits : q.pendingCursors = none) :
    Noted jobs q c := by
  refine ⟨noted.display, ?_, ?_, ?_, ?_, ?_, noted.bound, noted.once⟩
  · rw [position, noted.count]
  · rw [position, noted.more]
  · rw [position, noted.next]
  · intro initial mode
    have old := noted.numbered initial (options ▸ mode)
    exact ⟨waits, old.asked, fun ask shown earlier asks =>
      position ▸ old.page ask shown earlier asks⟩
  · intro n held
    cases task.symm.trans held

/-- A move that is accepted is noted, and what was known stays known. -/
theorem issue (noted : Noted jobs p c) (wanted : p.request? m = .ok (some target)) :
    Noted (jobs + 1) (p.issue target jobs) (c.asking jobs (some m) target.address) := by
  refine ⟨noted.display, ?_, ?_, ?_, ?_, ?_, ?_, ?_⟩
  · exact (PagePosition.toward_numPages _ _).trans noted.count
  · exact (PagePosition.toward_hasMore _ _).trans noted.more
  · exact (PagePosition.toward_nextCursor _ _).trans noted.next
  · intro initial mode
    have numbered : p.options.mode = .numbered initial := mode
    obtain ⟨n, rfl⟩ := Pager.request?_numbered numbered wanted
    have old := noted.numbered initial mode
    refine ⟨rfl, ?_, ?_⟩
    · intro entry member
      rcases List.mem_cons.mp member with rfl | before
      · exact ⟨n, rfl⟩
      · exact old.asked entry before
    · intro ask shown earlier asks
      cases asks
      exact ⟨n, rfl, rfl⟩
  · intro n held
    cases held
    exact ⟨_, c.asks, rfl, rfl⟩
  · intro entry member
    rcases List.mem_cons.mp member with rfl | before
    · exact Nat.lt_succ_self _
    · exact Nat.lt_succ_of_lt (noted.bound entry before)
  · refine List.nodup_cons.mpr ⟨fun again => ?_, noted.once⟩
    obtain ⟨entry, member, same⟩ := List.mem_map.mp again
    exact Nat.lt_irrefl _ (same ▸ noted.bound entry member)

/-- The page that is shown is marked at what was asked for last. -/
theorem showing_eq (noted : Noted jobs p c) (task : p.task = some n) (page : PageResponse) :
    ∃ ask earlier, c.asks = (ask, none) :: earlier ∧
      c.showing n page = ⟨(ask, some page) :: earlier, some page⟩ := by
  obtain ⟨ask, earlier, asks, rfl⟩ := noted.pending n task
  have same : c = ⟨(ask, none) :: earlier, c.display⟩ := by rw [← asks]
  have once := noted.once
  rw [asks] at once
  refine ⟨ask, earlier, asks, ?_⟩
  rw [same]
  exact Chronicle.showing_head once page

/-- Once the page is shown, it is what was rendered last. -/
theorem display_page (noted : Noted jobs p c) (task : p.task = some n) (page : PageResponse) :
    Noted jobs (p.showing page) (c.showing n page) := by
  obtain ⟨ask, earlier, asks, marked⟩ := noted.showing_eq task page
  have adopted : (p.position.adopt p.pendingCursors).numPages = p.position.numPages := by
    unfold PagePosition.adopt
    split <;> rfl
  have bound := noted.bound
  have once := noted.once
  rw [asks] at bound once
  rw [marked]
  refine ⟨rfl, ?_, rfl, rfl, ?_, ?_, ?_, once⟩
  · have before : pageCount earlier = pageCount c.asks := by rw [asks, pageCount_waiting]
    rw [pageCount_shown, before, ← noted.count, ← adopted]
    rfl
  · intro initial mode
    have old := noted.numbered initial mode
    refine ⟨rfl, ?_, ?_⟩
    · intro entry member
      rcases List.mem_cons.mp member with rfl | before
      · exact old.asked (ask, none) (by simp [asks])
      · exact old.asked entry (by simp [asks, before])
    · intro ask' shown earlier' same
      cases same
      obtain ⟨n, address, number⟩ := old.page ask none earlier asks
      refine ⟨n, address, ?_⟩
      simp only [Pager.showing, PagePosition.shown, old.waits, PagePosition.adopt, number]
      rfl
  · intro n held
    cases held
  · intro entry member
    rcases List.mem_cons.mp member with rfl | before
    · exact bound (ask, none) (by simp)
    · exact bound entry (by simp [before])

/-- What the page rendered last has said of the pages after it. -/
theorem of_rendered (noted : Noted jobs p c) {ask : Ask} {page : PageResponse}
    (last : rendered c.asks = some (ask, page)) :
    p.position.hasMore = page.hasMore.getD false ∧ p.position.nextCursor = page.nextCursor := by
  have display : c.display = some page := by rw [noted.display, last]; rfl
  rw [noted.more, noted.next, display]
  exact ⟨rfl, rfl⟩

/-- More is known to come if the page rendered last has announced it. -/
theorem hasMore_iff (noted : Noted jobs p c) : p.position.hasMore = true ↔
    ∃ ask page, rendered c.asks = some (ask, page) ∧ page.hasMore = some true := by
  cases last : rendered c.asks with
  | none => simp [noted.more, noted.display, last]
  | some entry =>
    obtain ⟨ask, page⟩ := entry
    rw [(noted.of_rendered last).1]
    cases told : page.hasMore <;> simp [told, Prod.ext_iff]

/-- The number of a numbered list is the one that was asked for last, or that of the page which answers
it. -/
theorem number_eq (noted : Noted jobs p c) {initial : UInt32}
    (mode : p.options.mode = .numbered initial) {ask : Ask} {shown : Option PageResponse}
    {earlier : List (Ask × Option PageResponse)} (asks : c.asks = (ask, shown) :: earlier) :
    p.position.page = ask.number (shown.getD {}) := by
  obtain ⟨n, address, number⟩ := (noted.numbered initial mode).page ask shown earlier asks
  rw [number, Ask.number, address]
  cases shown <;> rfl

/-- The number of the page on display is kept with it, as long as nothing else is asked for. -/
theorem page_eq (noted : Noted jobs p c) {initial : UInt32}
    (mode : p.options.mode = .numbered initial) {ask : Ask} {page : PageResponse}
    {earlier : List (Ask × Option PageResponse)} (asks : c.asks = (ask, some page) :: earlier) :
    p.position.page = ask.number page := noted.number_eq mode asks

/-- A pager that has been mounted waits for its first page. -/
theorem new {s : Stage} {k : Nat} (new : s.IsNew k p) :
    ∃ job, p.task = some job ∧ Noted s.schedule.jobs.length p
      (Chronicle.asking {} job none p.options.mode.first.address) := by
  obtain ⟨container, options, job, ticket, rfl, started⟩ := new
  have bound := Ledger.lt_length started
  rw [Schedule.ledger_length] at bound
  refine ⟨job, rfl, rfl, ?_, ?_, ?_, ?_, ?_, ?_, by simp [Chronicle.asking]⟩
  · exact PagePosition.toward_numPages _ _
  · exact PagePosition.toward_hasMore _ _
  · exact PagePosition.toward_nextCursor _ _
  · intro initial mode
    have numbered : options.mode = .numbered initial := mode
    simp only [Pager.issue, numbered, PageMode.first]
    refine ⟨rfl, ?_, ?_⟩
    · intro entry member
      rw [List.mem_singleton.mp member]
      exact ⟨_, rfl⟩
    · intro ask shown earlier asks
      cases asks
      exact ⟨_, rfl, rfl⟩
  · intro n held
    cases held
    exact ⟨_, [], rfl, rfl⟩
  · intro entry member
    rw [List.mem_singleton.mp member]
    exact bound

end Noted

/-! ## Runs -/

namespace Stage

variable {s : Stage} {k n : Nat} {p q : Pager} {c : Chronicle} {h : Happening}

theorem jobs_length_le (s : Stage) (h : Happening) :
    s.schedule.jobs.length ≤ (s.happen h).schedule.jobs.length := by
  have evolves := s.happen_evolves h
  rw [← Schedule.ledger_length, ← Schedule.ledger_length]
  rcases Nat.eq_zero_or_pos s.schedule.ledger.length with none_there | some_there
  · omega
  · have last : s.schedule.ledger[s.schedule.ledger.length - 1]? =
        some s.schedule.ledger[s.schedule.ledger.length - 1] :=
      List.getElem?_eq_getElem (by omega)
    obtain ⟨st, kept, -⟩ := evolves _ _ _ last
    have := Ledger.lt_length kept
    omega

/-- What a happening in which pager `k` becomes `q` adds to its chronicle. -/
inductive Entered (s : Stage) (k : Nat) (p : Pager) (h : Happening) (q : Pager) (c : Chronicle) :
    Prop where
  | asked {m : PageMove} {target : PageTarget} : h = .action (.move k m) →
    p.request? m = .ok (some target) → q = p.issue target s.schedule.nextJob →
    c.after k s h = c.asking s.schedule.nextJob (some m) target.address → Entered s k p h q c
  | shown {n : Nat} {ticket : Ticket} {request : Request} {a : Answer} {page : PageResponse} :
    s.turnOf h = some n → s.HasAnswer n (.page k ticket request) a → Pager.pageOf a = .ok page →
    p.task = some n → q = p.showing page → c.after k s h = c.showing n page → Entered s k p h q c
  | nothing : (∀ n ticket request a page, s.turnOf h = some n →
      s.HasAnswer n (.page k ticket request) a → Pager.pageOf a ≠ .ok page) →
    q.mounted = false ∨ ¬ s.Unmounts k h ∧ q.mounted = p.mounted →
    q.position = p.position → q.options = p.options →
    q = p ∨ q.task = none ∧ q.pendingCursors = none → c.after k s h = c → Entered s k p h q c

theorem PagerStep.entered (linked : s.Linked) (at_k : s.pagers[k]? = some p)
    (step : s.PagerStep k p h q) (c : Chronicle) : s.Entered k p h q c := by
  cases step with
  | kept refused quiet spared =>
    refine .nothing ?_ (.inr ⟨spared, rfl⟩) rfl rfl (.inl rfl) ?_
    · exact fun n ticket request a page given ready => absurd ready (quiet n ticket request a given)
    · rw [Chronicle.after, shown?_quiet quiet, asked?_refused at_k refused]
  | @issued m target moved wanted =>
    subst moved
    refine .asked rfl wanted rfl ?_
    rw [Chronicle.after, shown?_quiet (by simp [turnOf]), asked?_move at_k wanted]
  | @shown n ticket request a page given ready decoded =>
    obtain ⟨p', at_k', task, -⟩ := linked.page_waits ready
    cases at_k.symm.trans at_k'
    refine .shown given ready decoded task rfl ?_
    rw [Chronicle.after, shown?_answered given ready, asked?_of_turnOf at_k given, decoded]
    rfl
  | @failed n ticket request a e given ready failed =>
    refine .nothing ?_ (.inr ⟨unmounts_of_turnOf given, rfl⟩) rfl rfl (.inr ⟨rfl, rfl⟩) ?_
    · intro m ticket request b page given' ready' decoded
      cases given.symm.trans given'
      cases ready.symm.trans ready'
      cases failed.symm.trans decoded
    · rw [Chronicle.after, shown?_answered given ready, asked?_of_turnOf at_k given, failed]
      rfl
  | unmounted sequence gone =>
    have no_move : ∀ m target, h = .action (.move k m) → p.request? m ≠ .ok (some target) := by
      rintro m target rfl
      exact gone.elim
    have no_turn : ∀ n ticket request a, s.turnOf h = some n →
        ¬ s.HasAnswer n (.page k ticket request) a :=
      fun n ticket request a given => absurd gone (unmounts_of_turnOf given)
    refine .nothing ?_ (.inl rfl) rfl rfl (.inr ⟨rfl, rfl⟩) ?_
    · exact fun n ticket request a page given ready =>
        absurd ready (no_turn n ticket request a given)
    · rw [Chronicle.after, shown?_quiet no_turn, asked?_refused at_k no_move]

/-- What pager `k` keeps is what its chronicle says; the chronicle is empty as long as there is
none. -/
def NotesDown (s : Stage) (k : Nat) (c : Chronicle) : Prop :=
  (s.pagers[k]? = none → c = {}) ∧
    ∀ p, s.pagers[k]? = some p → Noted s.schedule.jobs.length p c

/-- A step of a pager keeps to its chronicle. -/
theorem Entered.noted (at_k : s.pagers[k]? = some p) (entered : s.Entered k p h q c)
    (noted : Noted s.schedule.jobs.length p c) :
    Noted (s.happen h).schedule.jobs.length q (c.after k s h) := by
  have grows := s.jobs_length_le h
  cases entered with
  | @asked m target moved wanted same after =>
    subst moved same
    have started := Ledger.lt_length (s.issuePage_entry k p target)
    rw [Schedule.ledger_length] at started
    have issued : s.happen (.action (.move k m)) = s.issuePage k p target := by
      rw [happen, perform_move at_k, wanted]
    rw [after, issued]
    exact (noted.issue wanted).mono started
  | @shown n _ _ _ page _ _ _ task same after =>
    rw [after, same]
    exact (noted.display_page task page).mono grows
  | nothing _ _ position options held after =>
    rw [after]
    rcases held with rfl | ⟨task, waits⟩
    · exact noted.mono grows
    · exact (noted.rest position options task waits).mono grows

/-- The chronicle of a pager begins when it is mounted. -/
theorem after_of_new (linked : s.Linked) (absent : s.pagers[k]? = none)
    (at_k : (s.happen h).pagers[k]? = some q) {job : Nat} (task : q.task = some job) :
    Chronicle.after {} k s h = Chronicle.asking {} job none q.options.mode.first.address := by
  have no_turn : ∀ n ticket request a, s.turnOf h = some n →
      ¬ s.HasAnswer n (.page k ticket request) a := by
    intro n ticket request a _ ready
    obtain ⟨p, at_k', -⟩ := linked.page_waits ready
    cases absent.symm.trans at_k'
  rw [Chronicle.after, shown?_quiet no_turn, asked?_new absent at_k task]

theorem after_of_absent (linked : s.Linked) (absent : s.pagers[k]? = none)
    (still : (s.happen h).pagers[k]? = none) : Chronicle.after {} k s h = {} := by
  have no_turn : ∀ n ticket request a, s.turnOf h = some n →
      ¬ s.HasAnswer n (.page k ticket request) a := by
    intro n ticket request a _ ready
    obtain ⟨p, at_k', -⟩ := linked.page_waits ready
    cases absent.symm.trans at_k'
  rw [Chronicle.after, shown?_quiet no_turn, asked?_absent absent still]

theorem NotesDown.happen (linked : s.Linked) (notes : s.NotesDown k c) (h : Happening) :
    (s.happen h).NotesDown k (c.after k s h) := by
  cases at_k : s.pagers[k]? with
  | some p =>
    obtain ⟨q, at_k', step⟩ := pager_step linked at_k h
    refine ⟨fun absent => ?_, fun r at_r => ?_⟩
    · cases absent.symm.trans at_k'
    · cases at_k'.symm.trans at_r
      exact (step.entered linked at_k c).noted at_k (notes.2 p at_k)
  | none =>
    have blank := notes.1 at_k
    subst blank
    refine ⟨fun absent => after_of_absent linked at_k absent, fun q at_q => ?_⟩
    obtain ⟨job, task, noted⟩ := Noted.new (isNew_of_happen linked at_k at_q)
    rw [after_of_new linked at_k at_q task]
    exact noted

theorem NotesDown.run (linked : s.Linked) (notes : s.NotesDown k c) (history : List Happening) :
    (s.run history).NotesDown k (s.chronicle k c history) := by
  induction history generalizing s c with
  | nil => exact notes
  | cons h later ih => exact ih (linked.happen h) (notes.happen linked h)

theorem NotesDown.fresh (screen : Screen) (specs : List ControllerSpec) (k : Nat) :
    (fresh screen specs).NotesDown k {} :=
  ⟨fun _ => rfl, by simp [Stage.fresh]⟩

end Stage

end MapSidebar
