import MapSidebar.Proofs.Containers
import MapSidebar.Proofs.PageNumbers
import MapSidebar.Proofs.Window

/-!
# The controls of a list

The controls of a list are those of the page rendered last, whatever has been asked for or has failed
since. They offer what the pager accepts: the links of a numbered list lead to pages that it goes to,
and a step is available exactly when it is accepted.
-/
namespace MapSidebar

namespace Pager

variable {p : Pager} {n initial : UInt32}

/-! ## What a pager accepts -/

theorem newer_cursor (mode : p.options.mode = .cursor) (on : p.mounted = true) :
    (∃ target, p.request? .newer = .ok (some target)) ↔ 1 < p.position.cursors.length := by
  simp only [request?, mode]
  split
  next displayed previous earlier known => simp [on, known]
  next few =>
    constructor
    · rintro ⟨target, refused⟩
      cases refused
    · intro enough
      rcases known : p.position.cursors with _ | ⟨displayed, _ | ⟨previous, earlier⟩⟩
      · simp [known] at enough
      · simp [known] at enough
      · exact absurd known (few displayed previous earlier)

theorem older_cursor (mode : p.options.mode = .cursor) (on : p.mounted = true) :
    (∃ target, p.request? .older = .ok (some target)) ↔
      p.position.hasMore = true ∧ p.position.nextCursor.isSome = true := by
  simp only [request?, mode]
  cases p.position.nextCursor with
  | none => simp
  | some next => cases p.position.hasMore <;> simp [on]

theorem newer_numbered (mode : p.options.mode = .numbered initial) (on : p.mounted = true)
    (uncounted : p.position.numPages = none) :
    (∃ target, p.request? .newer = .ok (some target)) ↔ 1 < p.position.page := by
  simp only [request?, mode]
  split
  next past =>
    have positive : 1 < p.position.page.toNat := by simpa using UInt32.lt_iff_toNat_lt.mp past
    have nonzero : p.position.page ≠ 0 := by
      intro zero
      simp [zero] at positive
    have first : (1 : UInt32) ≤ p.position.page - 1 := by
      rw [UInt32.le_iff_toNat_le, UInt32.toNat_sub_of_le _ _ (UInt32.le_of_lt past)]
      simp only [UInt32.toNat_one]
      omega
    have found : p.goto? (p.position.page - 1) = some { address := .number (p.position.page - 1) } :=
      (goto?_eq_some mode).mpr ⟨on, first, by simp [uncounted], rfl⟩
    simp [pageBefore, nonzero, Except.map, found, past]
  next first => simp [first]

theorem older_numbered (mode : p.options.mode = .numbered initial) (on : p.mounted = true)
    (uncounted : p.position.numPages = none) (below : p.position.page ≠ 4294967295) :
    (∃ target, p.request? .older = .ok (some target)) ↔ p.position.hasMore = true := by
  have small : p.position.page.toNat + 1 < 2 ^ 32 := by
    have bound := p.position.page.toNat_lt
    have other : p.position.page.toNat ≠ 4294967295 := fun same => below (UInt32.toNat.inj same)
    omega
  have first : (1 : UInt32) ≤ p.position.page + 1 := by
    rw [UInt32.le_iff_toNat_le, UInt32.toNat_add, UInt32.toNat_one, Nat.mod_eq_of_lt small]
    omega
  have after : pageAfter p.position.page = .ok (p.position.page + 1) := if_pos small
  have found : p.goto? (p.position.page + 1) = some { address := .number (p.position.page + 1) } :=
    (goto?_eq_some mode).mpr ⟨on, first, by simp [uncounted], rfl⟩
  simp only [request?, mode, uncounted]
  cases p.position.hasMore with
  | false => simp
  | true => simp [after, Except.map, found]

/-! ## What is told by the page rendered last -/

/-- The number is no part of the controls of a list with cursors. -/
theorem controls_with_page {options : PagerOptions} (mode : options.mode = .cursor)
    (position : PagePosition) (n : UInt32) :
    controls options { position with page := n } = controls options position := by
  simp only [controls, mode]

/-- Links are shown for a numbered list of more than one page, and only for such a list. -/
theorem controls_eq_numbered {options : PagerOptions} {position : PagePosition}
    {links : List PageLink} (shown : controls options position = some (.numbered links)) :
    ∃ initial total, options.mode = .numbered initial ∧ position.numPages = some total ∧
      1 < total ∧
      links = pageWindow position.page.toNat total.toNat options.windowDistance.toNat := by
  unfold controls at shown
  cases mode : options.mode with
  | cursor => simp [mode] at shown
  | numbered initial =>
    cases told : position.numPages with
    | none => simp [mode, told] at shown
    | some total =>
      simp only [mode, told, Option.ite_none_right_eq_some, Option.some.injEq,
        PageControls.numbered.injEq] at shown
      exact ⟨initial, total, rfl, rfl, shown.1, shown.2.symm⟩

/-- The controls that belong to the page rendered last. -/
def told (p : Pager) (c : Chronicle) : Option PageControls :=
  (rendered c.asks).bind fun (ask, page) =>
    controls p.options { p.position with page := ask.number page }

theorem told_of_rendered {c : Chronicle} {entry : Ask × PageResponse}
    (last : rendered c.asks = some entry) :
    p.told c = controls p.options { p.position with page := entry.1.number entry.2 } := by
  rw [told, last]
  rfl

end Pager

namespace Stage

variable {s : Stage} {k m n : Nat} {p q : Pager} {c : Chronicle} {h : Happening}

/-- In a happening no pager on container `m` but `k` touches its controls: none of the others is
mounted, and none is unmounted, which would clear them even if it is not mounted any more. -/
def OthersRest (s : Stage) (k m : Nat) (h : Happening) : Prop :=
  ∀ j q, s.pagers[j]? = some q → q.container = m → j ≠ k → q.mounted = false ∧ ¬ s.Unmounts j h

/-- In a run, pager `k` is mounted where no controls are shown, and from then on it has the controls of
container `m` to itself. -/
inductive HasControls (k m : Nat) : Stage → List Happening → Prop where
  | nil {s : Stage} : HasControls k m s []
  | absent {s : Stage} {h : Happening} {later : List Happening} : s.pagers[k]? = none →
    ((s.happen h).pagers[k]?.isSome → (s.happen h).screen.controls m = none) →
    HasControls k m (s.happen h) later → HasControls k m s (h :: later)
  | present {s : Stage} {h : Happening} {later : List Happening} : s.pagers[k]?.isSome →
    s.OthersRest k m h → HasControls k m (s.happen h) later → HasControls k m s (h :: later)

/-- There is a container `m`, and no controller shows controls on it by itself. -/
structure Spared (s : Stage) (m : Nat) : Prop where
  there : m < s.screen.containers.length
  specs : ∀ spec ∈ s.controllers.map Controller.spec, spec.Spares m

theorem Spared.happen (linked : s.Linked) (spared : s.Spared m) (h : Happening) :
    (s.happen h).Spared m :=
  ⟨(s.happen_width h).symm ▸ spared.there, (happen_specs linked h).symm ▸ spared.specs⟩

/-- If pager `k` is mounted on container `m`, this shows the controls of the page rendered last. -/
def ShowsControls (s : Stage) (k m : Nat) (c : Chronicle) : Prop :=
  ∀ p, s.pagers[k]? = some p → p.container = m → p.mounted = true → s.screen.controls m = p.told c

/-- The controls that are shown with a page are those that it tells. -/
theorem told_showing (noted : Noted n p c) {job : Nat} (task : p.task = some job)
    (page : PageResponse) : (p.showing page).told (c.showing job page) =
      Pager.controls p.options (p.showing page).position := by
  obtain ⟨ask, earlier, -, marked⟩ := noted.showing_eq task page
  have later := noted.display_page task page
  rw [marked] at later
  rw [Pager.told, marked, rendered_shown, Option.bind_some]
  change Pager.controls p.options { (p.showing page).position with page := ask.number page } = _
  cases mode : p.options.mode with
  | cursor => exact Pager.controls_with_page mode _ _
  | numbered initial =>
    have own := later.page_eq (p := p.showing page) mode rfl
    rw [← own]

namespace ShowsControls

/-- Whatever becomes of the pager, its controls are those of the page rendered last. -/
theorem of_entered (linked : s.Linked) (shows : s.ShowsControls k m c) (spared : s.Spared m)
    (rest : s.OthersRest k m h) (at_k : s.pagers[k]? = some p)
    (noted : Noted s.schedule.jobs.length p c) (entered : s.Entered k p h q c)
    (own : p.container = m) (on : q.mounted = true) :
    (s.happen h).screen.controls m = q.told (c.after k s h) := by
  cases entered with
  | @asked move target moved wanted same after =>
    subst moved same
    have issued : s.happen (.action (.move k move)) = s.issuePage k p target := by
      rw [Stage.happen, perform_move at_k, wanted]
    rw [issued, issuePage_screen, shows p at_k own (Pager.mounted_of_request wanted), after]
    simp only [Pager.told, Chronicle.asking, rendered_waiting, Pager.issue,
      PagePosition.toward_with_page]
  | @shown n ticket request a page given ready decoded task same after =>
    have turned : s.happen h = s.turn n := by
      rcases s.happen_cases h with ⟨n', given', turned⟩ | ⟨none_given, -⟩
      · cases given.symm.trans given'
        exact turned
      · cases given.symm.trans none_given
    rw [turned, turn_page_ok linked ready at_k decoded, runHook_controls, Screen.controls, own]
    dsimp only
    rw [Screen.container_update_self spared.there, after, same, told_showing noted task page]
  | nothing quiet kept position options _ after =>
    rcases kept with off | ⟨stays, same⟩
    · cases on.symm.trans off
    -- This pager shows no page and is not taken away, and the others on the container rest.
    · rw [happen_controls linked spared.specs h, shows p at_k own (same ▸ on), after, Pager.told,
        Pager.told, position, options]
      · intro j r at_j own'
        by_cases this : j = k
        · exact this ▸ stays
        · exact (rest j r at_j own' this).2
      · intro j r n ticket request a page at_j own' given ready
        by_cases this : j = k
        · exact quiet n ticket request a page given (this ▸ ready)
        · obtain ⟨r', at_j', waits, -⟩ := linked.page_waits ready
          cases at_j.symm.trans at_j'
          have idle := (linked.pager j r at_j).mounted (rest j r at_j own' this).1
          cases waits.symm.trans idle

/-- A happening keeps the controls those of the page rendered last. -/
theorem happen (linked : s.Linked) (shows : s.ShowsControls k m c) (notes : s.NotesDown k c)
    (spared : s.Spared m) (at_k : s.pagers[k]? = some p) (rest : s.OthersRest k m h) :
    (s.happen h).ShowsControls k m (c.after k s h) := by
  intro r at_r own on
  obtain ⟨q, at_q, step⟩ := pager_step linked at_k h
  cases at_q.symm.trans at_r
  exact shows.of_entered linked spared rest at_k (notes.2 p at_k) (step.entered linked at_k c)
    (step.container_eq ▸ own) on

/-- A pager that has just been mounted has rendered nothing. -/
theorem of_new (linked : s.Linked) (notes : s.NotesDown k c) (absent : s.pagers[k]? = none)
    (blank : (s.happen h).pagers[k]?.isSome → (s.happen h).screen.controls m = none) :
    (s.happen h).ShowsControls k m (c.after k s h) := by
  intro q at_q _ _
  have empty := notes.1 absent
  subst empty
  obtain ⟨job, task, -⟩ := Noted.new (isNew_of_happen linked absent at_q)
  rw [blank (by rw [at_q]; rfl), after_of_new linked absent at_q task]
  rfl

theorem run (linked : s.Linked) (shows : s.ShowsControls k m c) (notes : s.NotesDown k c)
    (spared : s.Spared m) {history : List Happening} (own : HasControls k m s history) :
    (s.run history).ShowsControls k m (s.chronicle k c history) ∧
      (s.run history).NotesDown k (s.chronicle k c history) := by
  induction own generalizing c with
  | nil => exact ⟨shows, notes⟩
  | @absent s h later absent blank _ ih =>
    exact ih (linked.happen h) (of_new linked notes absent blank) (notes.happen linked h)
      (spared.happen linked h)
  | @present s h later there rest _ ih =>
    obtain ⟨p, at_k⟩ := Option.isSome_iff_exists.mp there
    exact ih (linked.happen h) (shows.happen linked notes spared at_k rest) (notes.happen linked h)
      (spared.happen linked h)

end ShowsControls

/-! ## Moves -/

/-- A move is accepted if the pager asks for something. -/
theorem move_accepted_iff (at_k : s.pagers[k]? = some p) (move : PageMove) :
    (∃ t, s.move k move = .ok (t, true)) ↔ ∃ target, p.request? move = .ok (some target) := by
  constructor
  · rintro ⟨t, accepted⟩
    obtain ⟨target, wanted, -⟩ := move_accepted at_k accepted
    exact ⟨target, wanted⟩
  · rintro ⟨target, wanted⟩
    exact ⟨s.issuePage k p target, by simp [Stage.move, at_k, wanted, Except.map]⟩

theorem goto_refused (at_k : s.pagers[k]? = some p) {number : UInt32}
    (refused : p.goto? number = none) : s.move k (.goto number) = .ok (s, false) := by
  simp [Stage.move, at_k, Pager.request?, refused, Except.map]

/-! ## All of it -/

/-- What holds of the controls of pager `k`, which is mounted, when its chronicle is `c`. -/
structure ControlsInOrder (s : Stage) (k : Nat) (p : Pager) (c : Chronicle) : Prop where
  /-- Nothing is shown before a page has been rendered. -/
  blank : rendered c.asks = none → s.screen.controls p.container = none
  /-- The page rendered last is the one on display, and the page count is the one that was told
  last. -/
  display : c.display = (rendered c.asks).map Prod.snd
  count : p.position.numPages = pageCount c.asks
  /-- A list with cursors shows steps: back if the display is not at the beginning, and on if its page
  has announced more and told the cursor for it. -/
  cursor : p.options.mode = .cursor → ∀ ask page, rendered c.asks = some (ask, page) →
    s.screen.controls p.container = some (.steps (decide (1 < (visited c.asks).length))
      (page.hasMore.getD false && page.nextCursor.isSome))
  /-- A numbered list whose page count has been told shows the links around the page rendered last,
  unless it has at most one page. -/
  counted : ∀ initial, p.options.mode = .numbered initial → ∀ ask page total,
    rendered c.asks = some (ask, page) → pageCount c.asks = some total →
    (∃ n, ask.address = .number n) ∧
    s.screen.controls p.container = if 1 < total then
      some (.numbered (pageWindow (ask.number page).toNat total.toNat
        p.options.windowDistance.toNat)) else none
  /-- If the page count has not been told, it shows steps exactly if the page rendered last was past
  the first one or has announced more. -/
  uncounted : ∀ initial, p.options.mode = .numbered initial → ∀ ask page,
    rendered c.asks = some (ask, page) → pageCount c.asks = none →
    (∃ n, ask.address = .number n) ∧
    s.screen.controls p.container = if 1 < ask.number page ∨ page.hasMore = some true then
      some (.steps (decide (1 < ask.number page)) (page.hasMore.getD false)) else none
  /-- If there are links, the list goes to the page of each, and neither to page 0 nor to a page that
  is above all of them. -/
  links : ∀ links, s.screen.controls p.container = some (.numbered links) →
    (∀ m marked, .page m marked ∈ links →
      ∃ n : UInt32, n.toNat = m ∧ ∃ t, s.move k (.goto n) = .ok (t, true)) ∧
    s.move k (.goto 0) = .ok (s, false) ∧
    ∀ n : UInt32, (∀ m marked, .page m marked ∈ links → m < n.toNat) →
      s.move k (.goto n) = .ok (s, false)
  /-- If a list with cursors shows steps, each is available exactly if it is accepted. -/
  steps : p.options.mode = .cursor → ∀ newer older,
    s.screen.controls p.container = some (.steps newer older) →
    ((∃ t, s.move k .newer = .ok (t, true)) ↔ newer = true) ∧
    ((∃ t, s.move k .older = .ok (t, true)) ↔ older = true)
  /-- So it is with a numbered list whose page count has not been told, when what was asked for last
  was answered by a page; but there is no step to a number beyond the last one. -/
  settled : ∀ initial, p.options.mode = .numbered initial → pageCount c.asks = none →
    ∀ ask page earlier, c.asks = (ask, some page) :: earlier →
    ((∃ t, s.move k .newer = .ok (t, true)) ↔
      ∃ older, s.screen.controls p.container = some (.steps true older)) ∧
    (ask.number page ≠ 4294967295 → ((∃ t, s.move k .older = .ok (t, true)) ↔
      ∃ newer, s.screen.controls p.container = some (.steps newer true)))

/-- A numbered list goes to the page of each link, and not beyond them. -/
theorem goto_links (at_k : s.pagers[k]? = some p) (on : p.mounted = true)
    {links : List PageLink} {number : UInt32}
    (shown : Pager.controls p.options { p.position with page := number } =
      some (.numbered links)) :
    (∀ m marked, .page m marked ∈ links →
      ∃ n : UInt32, n.toNat = m ∧ ∃ t, s.move k (.goto n) = .ok (t, true)) ∧
    s.move k (.goto 0) = .ok (s, false) ∧
    ∀ n : UInt32, (∀ m marked, .page m marked ∈ links → m < n.toNat) →
      s.move k (.goto n) = .ok (s, false) := by
  obtain ⟨initial, total, mode, count, several, rfl⟩ := Pager.controls_eq_numbered shown
  have positive : 1 < total.toNat := UInt32.lt_iff_toNat_lt.mp several
  have goes : ∀ n target, p.goto? n = some target ↔ _ := fun n target =>
    Pager.goto?_eq_some mode
  refine ⟨fun m marked linked => ?_, goto_refused at_k ?_, fun n above => goto_refused at_k ?_⟩
  · obtain ⟨first, last, -⟩ := page_mem_pageWindow.mp linked
    have small : m < 2 ^ 32 := Nat.lt_of_le_of_lt last total.toNat_lt
    have same : (UInt32.ofNat m).toNat = m := UInt32.toNat_ofNat_of_lt' small
    have within : (1 : UInt32) ≤ UInt32.ofNat m ∧ UInt32.ofNat m ≤ total := by
      rw [UInt32.le_iff_toNat_le, UInt32.le_iff_toNat_le, same]
      exact ⟨first, last⟩
    have found : p.goto? (UInt32.ofNat m) = some { address := .number (UInt32.ofNat m) } :=
      (goes _ _).mpr ⟨on, within.1, fun known told => by
        cases count.symm.trans told
        exact within.2, rfl⟩
    exact ⟨_, same, (move_accepted_iff at_k _).mpr ⟨_, by rw [Pager.request?, found]⟩⟩
  · refine Option.eq_none_iff_forall_ne_some.mpr fun target found => ?_
    have first := ((goes _ _).mp found).2.1
    exact absurd first (by decide)
  · refine Option.eq_none_iff_forall_ne_some.mpr fun target found => ?_
    have within := UInt32.le_iff_toNat_le.mp (((goes _ _).mp found).2.2.1 total count)
    have last := above total.toNat _
      (page_mem_pageWindow.mpr ⟨by omega, by omega, .inr (.inl rfl), rfl⟩)
    omega

/-- A list with cursors takes a step exactly if it is shown as available. -/
theorem cursor_steps (at_k : s.pagers[k]? = some p) (on : p.mounted = true)
    (mode : p.options.mode = .cursor) {newer older : Bool}
    (shown : Pager.controls p.options p.position = some (.steps newer older)) :
    ((∃ t, s.move k .newer = .ok (t, true)) ↔ newer = true) ∧
      ((∃ t, s.move k .older = .ok (t, true)) ↔ older = true) := by
  simp only [Pager.controls, mode, Option.some.injEq, PageControls.steps.injEq] at shown
  rw [move_accepted_iff at_k, move_accepted_iff at_k, Pager.newer_cursor mode on,
    Pager.older_cursor mode on, ← shown.1, ← shown.2]
  simp

/-- So does a numbered list whose page count is not known, when its number is that of the display. -/
theorem numbered_steps (at_k : s.pagers[k]? = some p) (on : p.mounted = true) {initial : UInt32}
    (mode : p.options.mode = .numbered initial) (uncounted : p.position.numPages = none) :
    ((∃ t, s.move k .newer = .ok (t, true)) ↔
      ∃ older, Pager.controls p.options p.position = some (.steps true older)) ∧
    (p.position.page ≠ 4294967295 → ((∃ t, s.move k .older = .ok (t, true)) ↔
      ∃ newer, Pager.controls p.options p.position = some (.steps newer true))) := by
  simp only [move_accepted_iff at_k, Pager.newer_numbered mode on uncounted, Pager.controls, mode,
    uncounted]
  refine ⟨?_, fun below => ?_⟩
  · by_cases past : 1 < p.position.page <;> simp [past]
  · rw [Pager.older_numbered mode on uncounted below]
    by_cases past : 1 < p.position.page <;> simp [past]

/-- In every state that a run can lead to, the controls of a mounted pager that has had them to itself
tell the truth about its list and about the moves that it accepts. -/
theorem controls_in_order (screen : Screen) (specs : List ControllerSpec)
    (history : List Happening) {k : Nat} {p : Pager}
    (at_k : ((fresh screen specs).run history).pagers[k]? = some p) (on : p.mounted = true)
    (own : HasControls k p.container (fresh screen specs) history)
    (spared : (fresh screen specs).Spared p.container) :
    ControlsInOrder ((fresh screen specs).run history) k p
      ((fresh screen specs).chronicle k {} history) := by
  have chronicled := (Chronicled.fresh screen specs k).run (Linked.fresh screen specs) history
  have nobody : (fresh screen specs).ShowsControls k p.container {} := by
    simp [ShowsControls, fresh]
  obtain ⟨shows, notes⟩ := nobody.run (Linked.fresh screen specs) (NotesDown.fresh screen specs k)
    spared own
  have noted := notes.2 p at_k
  have told := shows p at_k rfl on
  generalize (fresh screen specs).run history = s at *
  generalize (fresh screen specs).chronicle k {} history = c at *
  have address : ∀ {initial ask page}, p.options.mode = .numbered initial →
      rendered c.asks = some (ask, page) → ∃ n, ask.address = .number n :=
    fun mode last => (noted.numbered _ mode).asked _ (mem_of_rendered last)
  refine ⟨?_, noted.display, noted.count, ?_, ?_, ?_, ?_, ?_, ?_⟩
  · intro none_rendered
    rw [told, Pager.told, none_rendered]
    rfl
  · intro mode ask page last
    obtain ⟨more, next⟩ := noted.of_rendered last
    have stack := (chronicled.2 p at_k mode).stack
    rw [told, Pager.told_of_rendered last, Pager.controls_with_page mode, ← more, ← next,
      ← List.length_map Ask.reported, ← stack]
    simp only [Pager.controls, mode]
  · intro initial mode ask page total last count
    refine ⟨address mode last, ?_⟩
    rw [told, Pager.told_of_rendered last]
    simp only [Pager.controls, mode, noted.count, count]
  · intro initial mode ask page last uncounted
    refine ⟨address mode last, ?_⟩
    rw [told, Pager.told_of_rendered last]
    simp only [Pager.controls, mode, noted.count, uncounted, (noted.of_rendered last).1]
    cases page.hasMore with
    | none => simp
    | some announced => cases announced <;> simp
  · intro links shown
    cases last : rendered c.asks with
    | none => simp [told, Pager.told, last] at shown
    | some entry =>
      rw [told, Pager.told_of_rendered last] at shown
      exact goto_links at_k on shown
  · intro mode newer older shown
    cases last : rendered c.asks with
    | none => simp [told, Pager.told, last] at shown
    | some entry =>
      rw [told, Pager.told_of_rendered last, Pager.controls_with_page mode] at shown
      exact cursor_steps at_k on mode shown
  · intro initial mode uncounted ask page earlier asks
    have last : rendered c.asks = some (ask, page) := by rw [asks]; rfl
    have number := noted.page_eq mode asks
    have shown : s.screen.controls p.container = Pager.controls p.options p.position := by
      rw [told, Pager.told_of_rendered last, ← number]
    rw [shown, ← number]
    exact numbered_steps at_k on mode (noted.count.trans uncounted)

/-- A list takes the place of another one, shows the first of three pages and does not get the second
one. -/
def secondList : List Happening :=
  [.action (.mount 0 { build := fun _ => { url := "/notes" } }), .action (.unmount 0),
    .action (.mount 0 { build := fun _ => { url := "/comments" } }), .turn 1,
    .action (.answer 0 (.ok (.json 200 (.object [("num_pages", .number (.int 3))])))), .turn 1,
    .action (.move 1 (.goto 2)), .turn 2, .action (.answer 1 (.error (.network "reset"))), .turn 2]

theorem controls_in_order_secondList : ∃ p : Pager,
    ((fresh { containers := [{}] } []).run secondList).pagers[1]? = some p ∧ p.mounted = true ∧
    HasControls 1 p.container (fresh { containers := [{}] } []) secondList ∧
    (fresh { containers := [{}] } []).Spared p.container ∧
    ((fresh { containers := [{}] } []).run secondList).screen.controls p.container =
      some (.numbered [.page 1 true, .page 2 false, .page 3 false]) ∧
    ControlsInOrder ((fresh { containers := [{}] } []).run secondList) 1 p
      ((fresh { containers := [{}] } []).chronicle 1 {} secondList) := by
  have rest : ∀ (s : Stage) h p q, s.pagers = [p, q] → p.mounted = false → ¬ s.Unmounts 0 h →
      s.OthersRest 1 0 h := by
    rintro s h p q pagers off stays (_ | _ | j) r at_j - other
    · rw [pagers] at at_j
      cases at_j
      exact ⟨off, stays⟩
    · exact absurd rfl other
    · rw [pagers] at at_j
      cases at_j
  have own : HasControls 1 0 (fresh { containers := [{}] } []) secondList := by
    refine .absent rfl (fun _ => rfl) (.absent rfl (fun _ => rfl) (.absent rfl (fun _ => rfl) ?_))
    iterate 7 refine .present rfl (rest _ _ _ _ rfl rfl id) ?_
    exact .nil
  have spared : (fresh { containers := [{}] } []).Spared 0 := ⟨by decide, by rintro spec ⟨⟩⟩
  exact ⟨_, rfl, rfl, own, spared, by decide +kernel, controls_in_order _ _ _ rfl rfl own spared⟩

end Stage

end MapSidebar
