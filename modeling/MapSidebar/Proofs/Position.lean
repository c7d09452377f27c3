import MapSidebar.Proofs.Display

/-!
# The number of the page on display

A list with cursors takes a new number only with a page, so its number is always that of the page on
display. A numbered list takes the number over when it asks for the page. It gives it back neither when
the request fails, which puts the failure on display, nor when it is cancelled, which leaves the page
before: then the list keeps the number of a page that it does not show.
-/
namespace MapSidebar

/-- The number of a page that `ask` had asked for: the one that the page tells, or else the one that
was asked for, or, in a list with cursors, how many of them led there. -/
def Pager.displayNumber (p : Pager) (ask : Ask) (page : PageResponse) : UInt32 :=
  page.page.getD (match ask.address with
    | .number n => n
    | .cursor _ => UInt32.ofNat p.position.cursors.length)

theorem Pager.displayNumber_of_number {p : Pager} {ask : Ask} {n : UInt32}
    (address : ask.address = .number n) (page : PageResponse) :
    p.displayNumber ask page = ask.number page := by
  rw [displayNumber, Ask.number, address]

/-! ## Lists with cursors -/

/-- What a list with cursors keeps of its number. -/
structure ByCursor (p : Pager) (c : Chronicle) : Prop where
  waits : ∀ job, p.task = some job → ∃ cursors, p.pendingCursors = some cursors
  asked : ∀ entry ∈ c.asks, ∃ cursor, entry.1.address = .cursor cursor
  page : ∀ ask page, rendered c.asks = some (ask, page) →
    p.position.page = page.page.getD (UInt32.ofNat p.position.cursors.length)

namespace ByCursor

variable {p q : Pager} {c c' : Chronicle} {l l' : Endings}

theorem opened (container : Nat) {options : PagerOptions} (job : Nat)
    (mode : options.mode = .cursor) :
    ByCursor (Pager.opened container options job) (Chronicle.opened options job) := by
  have first : options.mode.first = ⟨.cursor none, some [none]⟩ := by rw [mode]; rfl
  refine ⟨fun _ _ => ⟨[none], ?_⟩, fun entry member => ?_, fun ask page last => (nomatch last)⟩
  · exact congrArg PageTarget.cursors first
  · rw [List.mem_singleton.mp member]
    exact ⟨none, congrArg PageTarget.address first⟩

/-- Whatever a list with cursors asks for is asked for by a cursor, and the number stays. -/
theorem asking (by_cursor : ByCursor p c) (mode : p.options.mode = .cursor) {m : PageMove}
    {target : PageTarget} (wanted : p.request? m = .ok (some target)) (job : Nat) :
    ByCursor (p.issue target job) (c.asking job (some m) target.address) := by
  obtain ⟨cursor, cursors, rfl⟩ : ∃ cursor cursors, target = ⟨.cursor cursor, some cursors⟩ := by
    obtain ⟨-, next, -, rfl⟩ | ⟨-, _, previous, earlier, -, rfl⟩ :=
      Pager.request?_cursor mode wanted
    · exact ⟨_, _, rfl⟩
    · exact ⟨_, _, rfl⟩
  refine ⟨fun _ _ => ⟨cursors, rfl⟩, fun entry member => ?_, by_cursor.page⟩
  rcases List.mem_cons.mp member with rfl | before
  · exact ⟨cursor, rfl⟩
  · exact by_cursor.asked entry before

/-- The number comes with the page, and so do the cursors. -/
theorem showing (by_cursor : ByCursor p c) {ask : Ask} {earlier : List (Ask × Option PageResponse)}
    (task : p.task = some ask.job) (asks : c.asks = (ask, none) :: earlier) (page : PageResponse) :
    ByCursor (p.showing page) ⟨(ask, some page) :: earlier, some page⟩ := by
  obtain ⟨cursors, waiting⟩ := by_cursor.waits _ task
  refine ⟨fun _ waits => (nomatch waits), fun entry member => ?_, fun ask' page' last => ?_⟩
  · rcases List.mem_cons.mp member with rfl | before
    · exact by_cursor.asked (ask, none) (by simp [asks])
    · exact by_cursor.asked entry (by simp [asks, before])
  · cases last
    simp only [Pager.showing, Pager.settled, PagePosition.shown, PagePosition.adopt, waiting]

theorem advance (by_cursor : ByCursor p c) (mode : p.options.mode = .cursor)
    (advance : Advance p c l q c' l') : ByCursor q c' := by
  cases advance with
  | kept => exact by_cursor
  | asked job wanted => exact by_cursor.asking mode wanted job
  | shown page task asks => exact by_cursor.showing task asks page
  | failed e task asks => exact ⟨fun _ waits => (nomatch waits), by_cursor.asked, by_cursor.page⟩
  | unmounted sequence => exact ⟨fun _ waits => (nomatch waits), by_cursor.asked, by_cursor.page⟩

theorem page_eq (by_cursor : ByCursor p c) {ask : Ask} {page : PageResponse}
    (last : rendered c.asks = some (ask, page)) : p.position.page = p.displayNumber ask page := by
  obtain ⟨cursor, address⟩ := by_cursor.asked _ (mem_of_rendered last)
  rw [by_cursor.page ask page last, Pager.displayNumber, address]

end ByCursor

/-! ## Numbered lists -/

/-- The number of a numbered list is that of the page that answers what was asked for last. -/
theorem Noted.displayNumber_eq {jobs : Nat} {p : Pager} {c : Chronicle} (noted : Noted jobs p c)
    {initial : UInt32} (mode : p.options.mode = .numbered initial) {ask : Ask} {page : PageResponse}
    {earlier : List (Ask × Option PageResponse)} (asks : c.asks = (ask, some page) :: earlier) :
    p.position.page = p.displayNumber ask page := by
  obtain ⟨n, address⟩ := (noted.numbered initial mode).asked (ask, some page) (by simp [asks])
  rw [Pager.displayNumber_of_number address, noted.page_eq mode asks]

/-- While what was asked for last has not been shown, a numbered list has the number of that. -/
theorem Noted.requested_eq {jobs : Nat} {p : Pager} {c : Chronicle} (noted : Noted jobs p c)
    {initial : UInt32} (mode : p.options.mode = .numbered initial) {last : Ask}
    {earlier : List (Ask × Option PageResponse)} (asks : c.asks = (last, none) :: earlier) :
    last.address = .number p.position.page := by
  obtain ⟨n, address, number⟩ := (noted.numbered initial mode).page last none earlier asks
  exact address.trans (congrArg _ number.symm)

namespace Stage

variable {k : Nat} {p : Pager}

theorem run_byCursor (screen : Screen) (specs : List ControllerSpec) (history : List Happening)
    (at_k : ((fresh screen specs).run history).pagers[k]? = some p)
    (mode : p.options.mode = .cursor) :
    ByCursor p ((fresh screen specs).chronicle k {} history) := by
  refine course_induction (motive := fun p c _ => p.options.mode = .cursor → ByCursor p c)
    (fun container options job mode => .opened container job mode) ?_ screen specs history at_k mode
  intro jobs p c l q c' l' _ advance kept mode
  rw [advance.options_eq] at mode
  exact (kept mode).advance mode advance

/-! ## All of it -/

/-- What holds of the number of a pager that is mounted and waits for nothing, when it has put `page`
on display, which `ask` had asked for. -/
structure NumberOnDisplay (p : Pager) (c : Chronicle) (l : Endings) (ask : Ask)
    (page : PageResponse) : Prop where
  /-- The page on display is the one rendered last. -/
  shown : rendered c.asks = some (ask, page)
  /-- The number of a list with cursors is that of the page, whatever has been asked for since. -/
  cursor : p.options.mode = .cursor → p.position.page = p.displayNumber ask page
  /-- If the page tells no number, this is the depth of the stack of cursors, as long as there is a
  number for it. -/
  depth : p.options.mode = .cursor → page.page = none → p.position.cursors.length < UInt32.size →
    p.position.page.toNat = p.position.cursors.length
  /-- The number of a numbered list is that of the page as well if the page answers what was asked for
  last. -/
  answered : ∀ earlier, c.asks = (ask, some page) :: earlier →
    p.position.page = p.displayNumber ask page
  /-- Otherwise what was asked for last has been cancelled, and a numbered list has kept the number of
  that. -/
  cancelled : ∀ last earlier, c.asks = (last, none) :: earlier →
    (∃ e before, l = (last.job, .error e) :: before ∧ e.isCancellation = true) ∧
    ∀ n, last.address = .number n → p.position.page = n
  /-- So the number is that of the display in these cases, and when what has been cancelled was for
  the same number; there are no others. -/
  follows : p.position.page = p.displayNumber ask page ↔
    p.options.mode = .cursor ∨ (∃ earlier, c.asks = (ask, some page) :: earlier) ∨
    ∃ last earlier, c.asks = (last, none) :: earlier ∧
      last.address = .number (p.displayNumber ask page)

theorem NumberOnDisplay.of_display {jobs : Nat} {p : Pager} {c : Chronicle} {l : Endings} {ask : Ask}
    {page : PageResponse} (noted : Noted jobs p c)
    (by_cursor : p.options.mode = .cursor → ByCursor p c)
    (last : rendered c.asks = some (ask, page))
    (latest : (∃ earlier, c.asks = (ask, some page) :: earlier) ∨
      ∃ last earlier e before, c.asks = (last, none) :: earlier ∧
        l = (last.job, .error e) :: before ∧ e.isCancellation = true) :
    NumberOnDisplay p c l ask page := by
  have with_cursor : p.options.mode = .cursor → p.position.page = p.displayNumber ask page :=
    fun mode => (by_cursor mode).page_eq last
  have with_answer : ∀ earlier, c.asks = (ask, some page) :: earlier →
      p.position.page = p.displayNumber ask page := by
    intro earlier asks
    cases mode : p.options.mode with
    | cursor => exact with_cursor mode
    | numbered initial => exact noted.displayNumber_eq mode asks
  have with_number : ∀ last earlier n, c.asks = (last, none) :: earlier →
      last.address = .number n → p.position.page = n := by
    intro last earlier n asks address
    cases mode : p.options.mode with
    | cursor =>
      obtain ⟨cursor, other⟩ := (by_cursor mode).asked (last, none) (by simp [asks])
      cases address.symm.trans other
    | numbered initial =>
      cases address.symm.trans (noted.requested_eq mode asks)
      rfl
  refine ⟨last, with_cursor, ?_, with_answer, ?_, ?_⟩
  · intro mode untold small
    rw [(by_cursor mode).page ask page last, untold]
    exact UInt32.toNat_ofNat_of_lt' small
  · intro last earlier asks
    refine ⟨?_, fun n => with_number last earlier n asks⟩
    obtain ⟨earlier', asks'⟩ | ⟨last', earlier', e, before, asks', endings, cancelled⟩ := latest
    · cases asks.symm.trans asks'
    · cases asks.symm.trans asks'
      exact ⟨e, before, endings, cancelled⟩
  · constructor
    · intro same
      cases mode : p.options.mode with
      | cursor => exact .inl rfl
      | numbered initial =>
        refine .inr (latest.imp_right ?_)
        rintro ⟨last, earlier, e, before, asks, -, -⟩
        exact ⟨last, earlier, asks, same ▸ noted.requested_eq mode asks⟩
    · rintro (mode | ⟨earlier, asks⟩ | ⟨last, earlier, asks, address⟩)
      · exact with_cursor mode
      · exact with_answer earlier asks
      · exact with_number last earlier _ asks address

/-- In every state that a run can lead to, this is how the number of a list stands to the page on
display, once nothing is awaited; and in a container that the list has to itself, that page is what the
items show. -/
theorem number_follows_display (screen : Screen) (specs : List ControllerSpec)
    (history : List Happening) {k n : Nat} {p : Pager} {page : PageResponse}
    (at_k : ((fresh screen specs).run history).pagers[k]? = some p) (on : p.mounted = true)
    (idle : p.loading = false)
    (displayed : onDisplay ((fresh screen specs).endings k [] history) = some (n, .ok page)) :
    (∃ ask, ask.job = n ∧ NumberOnDisplay p ((fresh screen specs).chronicle k {} history)
      ((fresh screen specs).endings k [] history) ask page) ∧
    (HasContainer k p.container (fresh screen specs) history →
      (fresh screen specs).LeftAlone p.container →
      (((fresh screen specs).run history).screen.container p.container).items =
        p.options.dress (String.join page.items)) := by
  have linked := (Linked.fresh screen specs).run history
  have noted := run_noted screen specs history at_k
  have ended := run_ended screen specs history at_k
  have by_cursor := run_byCursor screen specs history at_k
  have task := linked.idle at_k idle
  refine ⟨?_, fun own left => ?_⟩
  · generalize (fresh screen specs).chronicle k {} history = c at *
    generalize (fresh screen specs).endings k [] history = l at *
    obtain ⟨ask, job, last, latest⟩ := ended.last_of_display on task displayed
    exact ⟨ask, job, .of_display noted by_cursor last latest⟩
  · exact (ShowsItems.fresh screen specs k p.container).run (Linked.fresh screen specs) (fun _ => rfl)
      left own p at_k rfl on n _ displayed

/-- The first of three pages is shown, and the move to the second one is cancelled. -/
def cancelledMove : List Happening :=
  [.action (.mount 0 { build := fun _ => { url := "/list" } }), .turn 0,
    .action (.answer 0 (.ok (.json 200 (.object [("items", .array [.string "<li>a</li>"]),
      ("num_pages", .number (.int 3))])))), .turn 0,
    .action (.move 0 (.goto 2)), .turn 1, .action (.answer 1 (.error .cancelled)), .turn 1]

/-- The list still shows its first page, and has the number of the second one. -/
theorem number_stays_cancelled : ∃ (p : Pager) (ask : Ask) (page : PageResponse),
    ((fresh { containers := [{}] } []).run cancelledMove).pagers[0]? = some p ∧
    p.mounted = true ∧ p.loading = false ∧
    onDisplay ((fresh { containers := [{}] } []).endings 0 [] cancelledMove) = some (0, .ok page) ∧
    rendered ((fresh { containers := [{}] } []).chronicle 0 {} cancelledMove).asks =
      some (ask, page) ∧
    (((fresh { containers := [{}] } []).run cancelledMove).screen.container 0).items = "<li>a</li>" ∧
    p.displayNumber ask page = 1 ∧ p.position.page = 2 :=
  ⟨_, _, _, rfl, rfl, rfl, rfl, rfl, by decide +kernel, by decide +kernel, by decide +kernel⟩

theorem number_follows_display_cancelledMove : ∃ (p : Pager) (page : PageResponse),
    ((fresh { containers := [{}] } []).run cancelledMove).pagers[0]? = some p ∧
    p.mounted = true ∧ p.loading = false ∧
    onDisplay ((fresh { containers := [{}] } []).endings 0 [] cancelledMove) = some (0, .ok page) ∧
    ∃ ask, ask.job = 0 ∧
      NumberOnDisplay p ((fresh { containers := [{}] } []).chronicle 0 {} cancelledMove)
        ((fresh { containers := [{}] } []).endings 0 [] cancelledMove) ask page :=
  ⟨_, _, rfl, rfl, rfl, rfl, (number_follows_display _ _ _ rfl rfl rfl rfl).1⟩

end Stage

end MapSidebar
