import MapSidebar.Proofs.Controls
import MapSidebar.Proofs.Endings

/-!
# Going on after a failure

A list whose last request has failed, or has been cancelled, accepts a move again, so it need not be
mounted anew. A numbered list goes to its first page at least. A list with cursors goes back from
the page rendered last, or on from it. If it has never rendered one, as when its very first request
fails, it has nowhere to go, and nothing that happens later helps it.
-/
namespace MapSidebar

namespace Pager

variable {p : Pager} {n initial : UInt32} {m : PageMove}

/-! ## Lists that accept a move -/

/-- There is a page to go to: a numbered list has not been told that it has none, and one with cursors
is past its beginning or has been told of more. -/
def CanMove (p : Pager) : Prop :=
  match p.options.mode with
  | .numbered _ => p.position.numPages ≠ some 0
  | .cursor => 1 < p.position.cursors.length ∨
    p.position.hasMore = true ∧ p.position.nextCursor.isSome = true

theorem canMove_numbered (mode : p.options.mode = .numbered initial) :
    p.CanMove ↔ p.position.numPages ≠ some 0 := by
  rw [CanMove, mode]

theorem canMove_cursor (mode : p.options.mode = .cursor) : p.CanMove ↔
    1 < p.position.cursors.length ∨
      p.position.hasMore = true ∧ p.position.nextCursor.isSome = true := by
  rw [CanMove, mode]

/-- A numbered list that goes anywhere goes to its first page. -/
theorem goto?_first (mode : p.options.mode = .numbered initial) (on : p.mounted = true)
    (can : p.CanMove) : p.goto? 1 = some { address := .number 1 } := by
  refine (goto?_eq_some mode).mpr ⟨on, UInt32.le_refl 1, fun total told => ?_, rfl⟩
  have several : total ≠ 0 := by
    rintro rfl
    exact (canMove_numbered mode).mp can told
  rw [UInt32.le_iff_toNat_le, UInt32.toNat_one]
  exact Nat.pos_of_ne_zero fun zero => several (UInt32.toNat.inj zero)

/-- A list accepts a move exactly if there is a page to go to. -/
theorem canMove_iff (on : p.mounted = true) :
    (∃ m target, p.request? m = .ok (some target)) ↔ p.CanMove := by
  cases mode : p.options.mode with
  | numbered initial =>
    constructor
    · rintro ⟨m, target, wanted⟩
      obtain ⟨n, found⟩ := goto?_of_request mode wanted
      obtain ⟨-, first, within, -⟩ := (goto?_eq_some mode).mp found
      refine (canMove_numbered mode).mpr fun empty => ?_
      have last := within 0 empty
      exact absurd (UInt32.le_trans first last) (by decide)
    · exact fun can => ⟨.goto 1, _, congrArg Except.ok (goto?_first mode on can)⟩
  | cursor =>
    rw [canMove_cursor mode, ← newer_cursor mode on, ← older_cursor mode on]
    constructor
    · rintro ⟨m, target, wanted⟩
      obtain ⟨rfl, -⟩ | ⟨rfl, -⟩ := request?_cursor mode wanted
      · exact .inr ⟨target, wanted⟩
      · exact .inl ⟨target, wanted⟩
    · rintro (⟨target, wanted⟩ | ⟨target, wanted⟩)
      · exact ⟨.newer, target, wanted⟩
      · exact ⟨.older, target, wanted⟩

/-- Whether there is a page to go to does not depend on the number. -/
theorem CanMove.issue (can : p.CanMove) (target : PageTarget) (job : Nat) :
    (p.issue target job).CanMove := by
  obtain ⟨address, cursors⟩ := target
  cases address <;> exact can

end Pager

/-! ## Requests without an answer -/

/-- While what was asked for last has not been shown, there is a page to go to, or else nothing has ever
been rendered. -/
def GoesOn (p : Pager) (c : Chronicle) : Prop :=
  ∀ last earlier, c.asks = (last, none) :: earlier → p.CanMove ∨ rendered c.asks = none

theorem GoesOn.advance {p q : Pager} {c c' : Chronicle} {l l' : Endings} (goes : GoesOn p c)
    (advance : Advance p c l q c' l') : GoesOn q c' := by
  cases advance with
  | kept => exact goes
  | asked job wanted =>
    -- The list has accepted the move, and it still has the page that it went from.
    have can := (Pager.canMove_iff (Pager.mounted_of_request wanted)).mp ⟨_, _, wanted⟩
    exact fun _ _ _ => .inl (can.issue _ job)
  | shown page task asks => exact fun _ _ waits => (nomatch waits)
  | failed e task asks => exact goes
  | unmounted sequence => exact goes

theorem GoesOn.of_numbered {jobs : Nat} {p : Pager} {c : Chronicle} (goes : GoesOn p c)
    (noted : Noted jobs p c) {initial : UInt32} (mode : p.options.mode = .numbered initial)
    {last : Ask} {earlier : List (Ask × Option PageResponse)}
    (asks : c.asks = (last, none) :: earlier) : p.CanMove := by
  rcases goes last earlier asks with can | blank
  · exact can
  · rw [Pager.canMove_numbered mode, noted.count, pageCount_of_blank blank]
    exact nofun

theorem GoesOn.of_rendered {p : Pager} {c : Chronicle} (goes : GoesOn p c) {last : Ask}
    {earlier : List (Ask × Option PageResponse)} (asks : c.asks = (last, none) :: earlier)
    (shown : (rendered c.asks).isSome = true) : p.CanMove := by
  rcases goes last earlier asks with can | blank
  · exact can
  · rw [blank] at shown
    cases shown

/-- As long as nothing has been rendered, nothing has been visited. -/
theorem visited_of_blank {asks : List (Ask × Option PageResponse)} (blank : rendered asks = none) :
    visited asks = [] := by
  induction asks with
  | nil => rfl
  | cons entry earlier ih =>
    obtain ⟨ask, _ | page⟩ := entry
    · exact ih blank
    · cases blank

/-! ## Lists without a way on -/

/-- A list with cursors that waits for nothing and has no cursor. -/
structure Stuck (p : Pager) : Prop where
  mode : p.options.mode = .cursor
  task : p.task = none
  cursors : p.position.cursors = []
  next : p.position.nextCursor = none

namespace Stuck

variable {p : Pager}

/-- It is one that has rendered nothing. -/
theorem of_blank {ledger : Ledger StageTask} {k : Nat} {c : Chronicle}
    (follows : Follows ledger k p c) (mode : p.options.mode = .cursor) (task : p.task = none)
    (display : c.display = none) (blank : rendered c.asks = none) : Stuck p := by
  refine ⟨mode, task, ?_, ?_⟩
  · rw [follows.stack, visited_of_blank blank]
    rfl
  · rw [follows.next, display]
    rfl

theorem refuses (stuck : Stuck p) (m : PageMove) : p.request? m = .ok none := by
  cases m with
  | goto n => simp [Pager.request?, Pager.goto?, stuck.mode]
  | older => simp [Pager.request?, stuck.mode, stuck.next]
  | newer => simp [Pager.request?, stuck.mode, stuck.cursors]

theorem not_canMove (stuck : Stuck p) : ¬ p.CanMove := by
  rw [Pager.canMove_cursor stuck.mode, stuck.cursors, stuck.next]
  simp

end Stuck

namespace Stage

variable {s : Stage} {k : Nat} {p : Pager}

theorem move_of_none (at_k : s.pagers[k]? = some p) {m : PageMove}
    (refused : p.request? m = .ok none) : s.move k m = .ok (s, false) := by
  simp [move, at_k, refused, Except.map]

/-- It stays so whatever happens: it gets no answer, since it asks for nothing. -/
theorem stuck_run (linked : s.Linked) (at_k : s.pagers[k]? = some p) (stuck : Stuck p)
    (later : List Happening) : ∃ q, (s.run later).pagers[k]? = some q ∧ Stuck q := by
  induction later generalizing s p with
  | nil => exact ⟨p, at_k, stuck⟩
  | cons h later ih =>
    obtain ⟨q, at_q, step⟩ := pager_step linked at_k h
    refine ih (linked.happen h) at_q ?_
    have no_answer : ∀ {n ticket request a}, ¬ s.HasAnswer n (.page k ticket request) a := by
      intro n ticket request a ready
      obtain ⟨p', at_k', task, -⟩ := linked.page_waits ready
      cases at_k.symm.trans at_k'
      cases stuck.task.symm.trans task
    cases step with
    | kept _ _ _ => exact stuck
    | issued _ wanted => cases (stuck.refuses _).symm.trans wanted
    | shown _ ready _ => exact absurd ready no_answer
    | failed _ ready _ => exact absurd ready no_answer
    | unmounted _ _ => exact ⟨stuck.mode, rfl, stuck.cursors, stuck.next⟩

theorem run_goesOn (screen : Screen) (specs : List ControllerSpec) (history : List Happening)
    (at_k : ((fresh screen specs).run history).pagers[k]? = some p) :
    GoesOn p ((fresh screen specs).chronicle k {} history) :=
  course_induction (motive := fun p c _ => GoesOn p c) (fun _ _ _ _ _ _ => .inr rfl)
    (fun _ advance goes => goes.advance advance) screen specs history at_k

/-! ## All of it -/

/-- What holds of pager `k` after its last request has failed, when its chronicle is `c`. -/
structure Recovery (s : Stage) (k : Nat) (p : Pager) (c : Chronicle) : Prop where
  /-- It accepts a move exactly if it is numbered or has rendered a page. -/
  accepted : (∃ move t, s.move k move = .ok (t, true)) ↔
    (∃ initial, p.options.mode = .numbered initial) ∨ (rendered c.asks).isSome = true
  /-- A numbered list goes to its first page. -/
  first : ∀ initial, p.options.mode = .numbered initial →
    ∃ t, s.move k (.goto 1) = .ok (t, true)
  /-- The move asks for one page, and its request is the one that the list waits for. -/
  asks : ∀ move t, s.move k move = .ok (t, true) → ∃ ticket request,
    t.schedule.ledger = s.schedule.ledger ++ [(.page k ticket request, .live)] ∧
    t.LivePage k s.schedule.nextJob ∧ ∃ q, t.pagers[k]? = some q ∧ q.loading = true
  /-- Otherwise it never accepts one, whatever happens. -/
  stuck : p.options.mode = .cursor → rendered c.asks = none → ∀ later move,
    (s.run later).move k move = .ok (s.run later, false)

/-- In every state that a run can lead to, this is what a mounted list accepts once its last request has
failed or has been cancelled. -/
theorem recovers_from_failure (screen : Screen) (specs : List ControllerSpec)
    (history : List Happening) {k n : Nat} {p : Pager} {e : FetchError} {before : Endings}
    (at_k : ((fresh screen specs).run history).pagers[k]? = some p) (on : p.mounted = true)
    (idle : p.loading = false)
    (failed : (fresh screen specs).endings k [] history = (n, .error e) :: before) :
    Recovery ((fresh screen specs).run history) k p
      ((fresh screen specs).chronicle k {} history) := by
  have linked := (Linked.fresh screen specs).run history
  have noted := run_noted screen specs history at_k
  have ended := run_ended screen specs history at_k
  have goes := run_goesOn screen specs history at_k
  have chronicled := (Chronicled.fresh screen specs k).run (Linked.fresh screen specs) history
  generalize (fresh screen specs).run history = s at *
  generalize (fresh screen specs).chronicle k {} history = c at *
  generalize (fresh screen specs).endings k [] history = l at *
  have task := linked.idle at_k idle
  obtain ⟨last, earlier, asks⟩ := ended.unanswered on task failed
  have accepts : (∃ move t, s.move k move = .ok (t, true)) ↔ p.CanMove :=
    (exists_congr fun move => move_accepted_iff at_k move).trans (Pager.canMove_iff on)
  have stuck : p.options.mode = .cursor → rendered c.asks = none → Stuck p :=
    fun mode blank => .of_blank (chronicled.2 p at_k mode) mode task
      (by rw [noted.display, blank]; rfl) blank
  refine ⟨?_, ?_, ?_, ?_⟩
  · rw [accepts]
    constructor
    · intro can
      cases mode : p.options.mode with
      | numbered initial => exact .inl ⟨initial, rfl⟩
      | cursor =>
        cases shown : rendered c.asks with
        | some entry => exact .inr rfl
        | none => exact absurd can (stuck mode shown).not_canMove
    · rintro (⟨initial, mode⟩ | shown)
      · exact goes.of_numbered noted mode asks
      · exact goes.of_rendered asks shown
  · intro initial mode
    have found := Pager.goto?_first mode on (goes.of_numbered noted mode asks)
    exact (move_accepted_iff at_k _).mpr ⟨_, congrArg Except.ok found⟩
  · intro move t accepted
    obtain ⟨target, wanted, rfl⟩ := move_accepted at_k accepted
    have entry := s.issuePage_entry k p target
    refine ⟨p.nextTicket, p.requestFor target, ?_, ⟨_, _, entry⟩, p.issue target s.schedule.nextJob,
      ?_, rfl⟩
    · rw [issuePage_ledger, task]
      rfl
    · rw [issuePage_eq]
      exact List.getElem?_set_self (List.getElem?_eq_some_iff.mp at_k).1
  · intro mode blank later move
    obtain ⟨q, at_q, still⟩ := stuck_run linked at_k (stuck mode blank) later
    exact move_of_none at_q (still.refuses move)

/-- The very first request of a list with cursors fails. -/
def failedFirst : List Happening :=
  [.action (.mount 0 { mode := .cursor, build := fun _ => { url := "/versions" } }), .turn 0,
    .action (.answer 0 (.error (.network "reset"))), .turn 0]

/-- The list shows the failure, waits for nothing and accepts no move. -/
theorem first_failure_is_final : ∃ p : Pager,
    ((fresh { containers := [{}] } []).run failedFirst).pagers[0]? = some p ∧
    p.options.mode = .cursor ∧ p.mounted = true ∧ p.loading = false ∧
    (fresh { containers := [{}] } []).endings 0 [] failedFirst = [(0, .error (.network "reset"))] ∧
    ∀ move t, ((fresh { containers := [{}] } []).run failedFirst).move 0 move ≠ .ok (t, true) := by
  refine ⟨_, rfl, rfl, rfl, rfl, rfl, fun move t accepted => ?_⟩
  have refused := move_of_none (k := 0) (s := (fresh { containers := [{}] } []).run failedFirst) rfl
    (Stuck.refuses ⟨rfl, rfl, rfl, rfl⟩ move)
  cases refused.symm.trans accepted

/-- After a list with cursors has gone on twice, the move back fails. -/
theorem recovers_from_failure_clickedTwice : ∃ (p : Pager) (before : Endings),
    ((fresh { containers := [{}] } []).run clickedTwice).pagers[0]? = some p ∧
    p.mounted = true ∧ p.loading = false ∧
    (fresh { containers := [{}] } []).endings 0 [] clickedTwice =
      (3, .error (.network "reset")) :: before ∧
    Recovery ((fresh { containers := [{}] } []).run clickedTwice) 0 p
      ((fresh { containers := [{}] } []).chronicle 0 {} clickedTwice) :=
  ⟨_, _, rfl, rfl, rfl, rfl, recovers_from_failure _ _ _ rfl rfl rfl rfl⟩

end Stage

end MapSidebar
