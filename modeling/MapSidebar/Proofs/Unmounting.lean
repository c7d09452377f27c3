import MapSidebar.Proofs.Doings
import MapSidebar.Proofs.PageArithmetic

/-!
# Pagers that are taken away

A pager that is taken off its container is out of the game. It keeps its place in the list and its
cursors, so that every way of moving it has to refuse by itself, and a request of it may be in any phase
when it goes; yet nothing that happens later is its doing any more, but for clearing its container
again when it is taken away again.
-/
namespace MapSidebar

/-- A controller that never writes to the container at an index by itself. -/
def ControllerSpec.Avoids (spec : ControllerSpec) (m : Nat) : Prop :=
  ∀ visit content w, .write (.container m w) ∉ spec.onReady visit content

theorem ScreenWrite.apply_container {m : Nat} {w : ScreenWrite}
    (elsewhere : ∀ cw, w ≠ .container m cw) (s : Screen) :
    (w.apply s).container m = s.container m := by
  cases w with
  | sidebar w => rfl
  | focus data => rfl
  | container i w =>
    have other : i ≠ m := by
      intro equal
      exact elsewhere w (by rw [equal])
    exact Screen.container_update_other other w.apply

namespace Stage

/-- Pager `k` is `p` once it has been taken off its container; only its counter may have moved on. -/
def Off (s : Stage) (k : Nat) (p : Pager) : Prop :=
  ∃ sequence, s.pagers[k]? = some { p.unmounted with sequence }

/-- No pager is mounted on container `m`. -/
def Vacant (s : Stage) (m : Nat) : Prop :=
  ∀ (j : Nat) (q : Pager), s.pagers[j]? = some q → q.container = m → q.mounted = false

variable {s : Stage} {k m n : Nat} {p q : Pager} {h : Happening} {o : Owner} {e : StageEvent}

/-- A pager that is not mounted has no answer to use. -/
theorem not_hasAnswer_of_unmounted (linked : s.Linked) (at_k : s.pagers[k]? = some q)
    (off : q.mounted = false) {ticket : Ticket} {request : Request} {a : Answer} :
    ¬ s.HasAnswer n (.page k ticket request) a := by
  intro ready
  have live : s.LivePage k n := ⟨ticket, request, ready.entry⟩
  cases off.symm.trans (live.mounted linked at_k)

namespace Off

theorem of_unmount (at_k : s.pagers[k]? = some p) : (s.unmount k).Off k p :=
  ⟨p.sequence.invalidate, unmount_pager_self at_k⟩

theorem happen (linked : s.Linked) (off : s.Off k p) (h : Happening) : (s.happen h).Off k p := by
  obtain ⟨sequence, at_k⟩ := off
  obtain ⟨q, at_q, step⟩ := pager_step linked at_k h
  cases step with
  | kept => exact ⟨sequence, at_q⟩
  | issued _ wanted => cases Pager.mounted_of_request wanted
  | shown _ ready => exact absurd ready (not_hasAnswer_of_unmounted linked at_k rfl)
  | failed _ ready => exact absurd ready (not_hasAnswer_of_unmounted linked at_k rfl)
  | unmounted sequence' _ => exact ⟨sequence', at_q⟩

theorem run (linked : s.Linked) (off : s.Off k p) (later : List Happening) :
    (s.run later).Linked ∧ (s.run later).Off k p :=
  run_induction (motive := fun t => t.Linked ∧ t.Off k p) ⟨linked, off⟩
    (fun _ h ⟨linked, off⟩ => ⟨linked.happen h, off.happen linked h⟩) later

/-! ## Its requests -/

theorem not_live (linked : s.Linked) (off : s.Off k p) {task : StageTask}
    (at_n : s.schedule.ledger[n]? = some (task, .live)) : task.owner ≠ .pager k := by
  intro own
  obtain ⟨sequence, at_k⟩ := off
  cases ((linked.pager k _ at_k).tied.live n task at_n own).1

/-- A job that uses its answer is not a job of the pager. -/
theorem useJob_alike (linked : s.Linked) (off : s.Off k p) {task : StageTask} {a : Answer}
    (ready : s.HasAnswer n task a) :
    Alike (.pager k) s.schedule.ledger (s.schedule.ledger.useJob n) :=
  Alike.useJob ready.entry (off.not_live linked ready.entry)

/-- No pager that is taken away has a job of this one. -/
theorem unmount_alike {cs : List Controller}
    (linked : MapSidebar.Linked s.schedule.ledger cs s.pagers) (off : s.Off k p) (j : Nat) :
    Alike (.pager k) s.schedule.ledger (s.unmount j).schedule.ledger ∧ (s.unmount j).Off k p := by
  obtain ⟨sequence, at_k⟩ := off
  by_cases own : j = k
  · subst own
    refine ⟨?_, sequence.invalidate, unmount_pager_self at_k⟩
    rw [unmount_eq at_k]
    exact .refl _ _
  · refine ⟨?_, sequence, (s.unmount_pager_other own).trans at_k⟩
    cases at_j : s.pagers[j]? with
    | none =>
      rw [unmount_of_none at_j]
      exact .refl _ _
    | some q =>
      rw [unmount_eq at_j, Schedule.ledger_abortSlot]
      exact Alike.dropSlot (linked.pager j q at_j).tied (by simpa using Ne.symm own)

/-- A controller that lets go of everything aborts no job of the pager, even if it owns it. -/
theorem release_alike (linked : s.Linked) (off : s.Off k p) {i : Nat} {c : Controller}
    (at_i : s.controllers[i]? = some c) :
    Alike (.pager k) s.schedule.ledger (s.release c).schedule.ledger := by
  refine (s.release_induction (motive := fun t =>
    MapSidebar.Linked t.schedule.ledger (s.controllers.set i c.unloaded) t.pagers ∧ t.Off k p ∧
      Alike (.pager k) s.schedule.ledger t.schedule.ledger) c ?_ ?_).2.2
  · rw [Schedule.ledger_abortSlot]
    exact ⟨linked.unload_controller at_i, off,
      Alike.dropSlot (linked.controller i c at_i).tied (by simp)⟩
  · intro t j _ ⟨linked, off, alike⟩
    have taken := off.unmount_alike linked j
    exact ⟨Linked.unmount_with linked j, taken.2, alike.trans taken.1⟩

/-- The jobs that the pager has started stay what they are, and it starts no other. -/
theorem alike (linked : s.Linked) (off : s.Off k p) (h : Happening) :
    Alike (.pager k) s.schedule.ledger (s.happen h).schedule.ledger := by
  have known : ∀ j, Owner.pager k = .pager j → j < s.pagers.length := by
    intro j same
    cases same
    obtain ⟨sequence, at_k⟩ := off
    exact (List.getElem?_eq_some_iff.mp at_k).1
  cases aborts : h.mayAbort (.pager k) with
  | false =>
    rcases happen_alike linked known aborts with same | ⟨n, -, ⟨task, a, ready⟩, used⟩
    · exact same
    · exact (off.useJob_alike linked ready).trans used
  | true =>
    cases h with
    | turn n => cases aborts
    | action action =>
      rw [Stage.happen]
      cases action with
      | load i visit =>
        cases at_i : s.controllers[i]? with
        | none =>
          rw [perform, load_of_none at_i]
          exact .refl _ _
        | some c =>
          rw [perform, load_eq at_i, start_ledger]
          exact (off.release_alike linked at_i).trans (Alike.append (by simp [StageTask.owner]))
      | unload i =>
        cases at_i : s.controllers[i]? with
        | none =>
          rw [perform, unload_of_none at_i]
          exact .refl _ _
        | some c =>
          rw [perform, unload_eq at_i, writeAll_schedule]
          exact off.release_alike linked at_i
      | move j move =>
        obtain rfl : k = j := by simpa [Happening.mayAbort] using aborts
        obtain ⟨sequence, at_k⟩ := off
        rw [(retired linked at_k rfl).moves move |>.1]
        exact .refl _ _
      | unmount j => exact (off.unmount_alike linked j).1
      | mount _ _ | answer _ _ | step => cases aborts

theorem run_alike (linked : s.Linked) (off : s.Off k p) (later : List Happening) :
    Alike (.pager k) s.schedule.ledger (s.run later).schedule.ledger :=
  (run_induction (motive := fun t => t.Linked ∧ t.Off k p ∧
    Alike (.pager k) s.schedule.ledger t.schedule.ledger) ⟨linked, off, .refl _ _⟩
    (fun _ h ⟨linked, off, same⟩ => ⟨linked.happen h, off.happen linked h,
      same.trans (off.alike linked h)⟩) later).2.2

/-- No move is accepted: each is refused, but for one beyond the last number of a page. -/
theorem moves (linked : s.Linked) (off : s.Off k p) (m : PageMove) :
    s.move k m = .ok (s, false) ∨ s.move k m = .error .afterLast ∧ m = .older ∧
      (∃ initial, p.options.mode = .numbered initial) ∧ p.position.page = 4294967295 := by
  obtain ⟨sequence, at_k⟩ := off
  have at_rest := retired linked at_k rfl
  cases moved : s.move k m with
  | error fault =>
    obtain ⟨rfl, rfl, mode, last, -⟩ := Pager.request?_eq_error.mp ((move_eq_error at_k).mp moved)
    exact .inr ⟨rfl, rfl, mode, last⟩
  | ok result =>
    obtain ⟨t, accepted⟩ := result
    cases accepted with
    | true => exact absurd moved ((at_rest.moves m).2 t)
    | false => exact .inl (by rw [move_refused moved])

/-- The requests that are sent are those of others. -/
theorem posts (linked : s.Linked) (off : s.Off k p) (later : List Happening) :
    ∃ more, (s.run later).schedule.posts = s.schedule.posts ++ more ∧
      ∀ n request, (n, request) ∈ more → ∃ task st,
        (s.run later).schedule.ledger[n]? = some (task, st) ∧ task.owner ≠ .pager k := by
  induction later generalizing s with
  | nil => exact ⟨[], by simp [Stage.run], by simp⟩
  | cons h later ih =>
    obtain ⟨more, sent, foreign⟩ := ih (linked.happen h) (off.happen linked h)
    rw [run_cons]
    rcases s.happen_posts h with same | ⟨n, task, -, at_n, posted⟩
    · exact ⟨more, same ▸ sent, foreign⟩
    · refine ⟨(n, task.request) :: more, by rw [sent, posted]; simp, ?_⟩
      intro n' request member
      rcases List.mem_cons.mp member with first | rest
      · cases first
        obtain ⟨st, at_n', -⟩ := ((s.happen_evolves h).trans ((s.happen h).run_evolves later))
          n task .live at_n
        exact ⟨task, st, at_n', off.not_live linked at_n⟩
      · exact foreign n' request rest

/-! ## What is seen of it -/

/-- All that it does is to clear its container. -/
theorem done (linked : s.Linked) (off : s.Off k p) (does : s.DoneBy h (.pager k) e) :
    ∃ w ∈ Pager.unmountWrites, e = .write (.container p.container w) := by
  obtain ⟨sequence, at_k⟩ := off
  cases does with
  | @cleared _ q w at_q _ known =>
    cases at_k.symm.trans at_q
    exact ⟨w, known, rfl⟩
  | page w _ ready => exact absurd ready (not_hasAnswer_of_unmounted linked at_k rfl)
  | hook items _ ready => exact absurd ready (not_hasAnswer_of_unmounted linked at_k rfl)

end Off

/-- A hook is called by its own pager. -/
theorem DoneBy.owner_of_hook {items : String} (does : s.DoneBy h o (.hook k items)) :
    o = .pager k := by
  cases does
  rfl

/-- Where no pager is mounted and no controller writes, a container is only cleared. -/
theorem DoneBy.clears (linked : s.Linked) (vacant : s.Vacant m)
    (avoided : ∀ spec ∈ s.controllers.map Controller.spec, spec.Avoids m) {w : ContainerWrite}
    (does : s.DoneBy h o (.write (.container m w))) : w ∈ Pager.unmountWrites := by
  cases does with
  | cleared _ _ known => exact known
  | page w _ ready at_j =>
    exact absurd ready (not_hasAnswer_of_unmounted linked at_j (vacant _ _ at_j rfl))
  | @unloaded i c _ _ _ known =>
    unfold Controller.unloadWrites at known
    split at known <;> simp at known
  | @content n i ticket visit request a _ _ _ known =>
    unfold Controller.showWrites at known
    split at known
    · simp at known
    · split at known <;> simp at known
  | @acted n i ticket visit request a c content _ _ _ at_i _ known =>
    have inside := List.mem_map_of_mem (f := Controller.spec) (List.mem_of_getElem? at_i)
    exact absurd known (avoided c.spec inside visit content w)

/-- A container that is empty stays so while no pager is mounted on it and no controller writes to
it. -/
theorem Vacant.empty (linked : s.Linked) (vacant : s.Vacant m)
    (avoided : ∀ spec ∈ s.controllers.map Controller.spec, spec.Avoids m)
    (empty : s.screen.container m = {}) (h : Happening) :
    (s.happen h).screen.container m = {} := by
  by_cases taken : ∃ j q, s.pagers[j]? = some q ∧ q.container = m ∧ s.Unmounts j h
  · obtain ⟨j, q, at_j, rfl, gone⟩ := taken
    rcases unmounts_iff.mp gone with rfl | ⟨i, released, inside⟩
    · exact unmount_empty j empty
    · exact releases_empty inside at_j released
  · have same : id ((s.happen h).screen.container m) = id (s.screen.container m) := by
      refine happen_view linked ?_ h ?_ ?_
      · intro spec known visit content w member screen
        refine congrArg id (ScreenWrite.apply_container (fun cw same => ?_) screen)
        exact avoided spec known visit content cw (same ▸ member)
      · exact fun j q at_j own gone => taken ⟨j, q, at_j, own, gone⟩
      · exact fun j q n ticket request a at_j own _ ready =>
          absurd ready (not_hasAnswer_of_unmounted linked at_j (vacant j q at_j own))
    exact same.trans empty

/-- Container `m` is given to no pager in a run, until its last happening. -/
def StaysVacant (s : Stage) (m : Nat) (later : List Happening) : Prop :=
  ∀ before h after, later = before ++ h :: after → (s.run before).Vacant m

theorem specs_run (linked : s.Linked) (later : List Happening) :
    (s.run later).controllers.map Controller.spec = s.controllers.map Controller.spec :=
  (run_induction (motive := fun t => t.Linked ∧
    t.controllers.map Controller.spec = s.controllers.map Controller.spec) ⟨linked, rfl⟩
    (fun _ h ⟨linked, same⟩ => ⟨linked.happen h, (happen_specs linked h).trans same⟩) later).2

theorem StaysVacant.empty (linked : s.Linked) {later : List Happening}
    (vacant : s.StaysVacant m later)
    (avoided : ∀ spec ∈ s.controllers.map Controller.spec, spec.Avoids m)
    (empty : s.screen.container m = {}) : (s.run later).screen.container m = {} := by
  induction later generalizing s with
  | nil => exact empty
  | cons h later ih =>
    refine ih (linked.happen h) ?_ ?_ ?_
    · intro before h' after equal
      exact vacant (h :: before) h' after (by rw [equal]; rfl)
    · rwa [happen_specs linked h]
    · exact (vacant [] h later rfl).empty linked avoided empty h

/-! ## All of it -/

/-- What holds of pager `k`, which was `p` and has been taken off its container in `s`, once a run has
gone on from there. -/
structure StaysOff (s : Stage) (k : Nat) (p : Pager) (later : List Happening) : Prop where
  /-- It is not mounted and says that it is not loading. -/
  idle : ∃ q, (s.run later).pagers[k]? = some q ∧ q.mounted = false ∧ q.loading = false ∧
    q.container = p.container
  /-- No move is accepted: each is refused, but for one beyond the last number of a page. -/
  moves : ∀ m, (s.run later).move k m = .ok (s.run later, false) ∨
    (s.run later).move k m = .error .afterLast ∧ m = .older ∧
      (∃ initial, p.options.mode = .numbered initial) ∧ p.position.page = 4294967295
  /-- No move changes anything, be it refused or beyond the last number. -/
  unmoved : ∀ m, (s.run later).perform (.move k m) = s.run later
  /-- It starts no job, and those that it has started stay what they are. -/
  jobs : Alike (.pager k) s.schedule.ledger (s.run later).schedule.ledger
  /-- No request is sent for it. -/
  requests : ∃ more, (s.run later).schedule.posts = s.schedule.posts ++ more ∧
    ∀ n request, (n, request) ∈ more → ∃ task st,
      (s.run later).schedule.ledger[n]? = some (task, st) ∧ task.owner ≠ .pager k
  /-- Of all that is seen in the run nothing is its doing, except that its container is cleared; and
  its hook is not called. -/
  seen : ∃ doings : List (Owner × StageEvent),
    (s.run later).log = s.log ++ doings.map Prod.snd ∧
    (∀ o e, (o, e) ∈ doings → ∃ before h after, later = before ++ h :: after ∧
      (s.run before).DoneBy h o e) ∧
    (∀ e, (.pager k, e) ∈ doings →
      ∃ w ∈ Pager.unmountWrites, e = .write (.container p.container w)) ∧
    ∀ items, .hook k items ∉ doings.map Prod.snd
  /-- If nobody else writes to its container, that is only cleared and stays empty. -/
  container : s.StaysVacant p.container later →
    (∀ spec ∈ s.controllers.map Controller.spec, spec.Avoids p.container) →
    (s.run later).screen.container p.container = {} ∧
      ∀ w, .write (.container p.container w) ∈ (s.run later).log.drop s.log.length →
        w ∈ Pager.unmountWrites

theorem Off.staysOff (linked : s.Linked) (off : s.Off k p)
    (empty : s.screen.container p.container = {}) (later : List Happening) :
    s.StaysOff k p later := by
  obtain ⟨linked', off'⟩ := off.run linked later
  have ⟨sequence, at_k⟩ := off'
  obtain ⟨doings, log, done⟩ := run_tells linked later
  have own : ∀ e, (.pager k, e) ∈ doings →
      ∃ w ∈ Pager.unmountWrites, e = .write (.container p.container w) := by
    intro e member
    obtain ⟨before, h, after, -, does⟩ := done _ e member
    obtain ⟨linked, off⟩ := off.run linked before
    exact off.done linked does
  refine ⟨⟨_, at_k, rfl, rfl, rfl⟩, off'.moves linked', fun m => ((retired linked' at_k rfl).moves m).1,
    off.run_alike linked later, off.posts linked later, ⟨doings, log, done, own, ?_⟩, ?_⟩
  · intro items member
    obtain ⟨⟨o, e⟩, inside, same⟩ := List.mem_map.mp member
    obtain rfl : e = .hook k items := same
    obtain ⟨before, h, after, -, does⟩ := done o _ inside
    cases does.owner_of_hook
    obtain ⟨w, -, other⟩ := own _ inside
    cases other
  · intro vacant avoided
    refine ⟨vacant.empty linked avoided empty, fun w member => ?_⟩
    rw [log, List.drop_left] at member
    obtain ⟨⟨o, e⟩, inside, same⟩ := List.mem_map.mp member
    obtain rfl : e = .write (.container p.container w) := same
    obtain ⟨before, h, after, split, does⟩ := done o _ inside
    refine does.clears (off.run linked before).1 (vacant before h after split) ?_
    rwa [specs_run linked before]

/-- What it means for an unmount of pager `k`, which is `p`, to be final. -/
structure UnmountIsFinal (s : Stage) (k : Nat) (p : Pager) : Prop where
  /-- At once the items and the controls are gone, -/
  emptied : (s.unmount k).screen.container p.container = {}
  /-- and the pager is not loading. -/
  stopped : ∃ q, (s.unmount k).pagers[k]? = some q ∧ q.mounted = false ∧ q.loading = false
  /-- Whatever happens from then on, it has no part in it. -/
  later : ∀ later, (s.unmount k).StaysOff k p later

/-- Whatever has happened before, and in whichever phase its requests are, an unmount is final. -/
theorem unmount_is_final (screen : Screen) (specs : List ControllerSpec)
    (history : List Happening) {k : Nat} {p : Pager}
    (at_k : ((fresh screen specs).run history).pagers[k]? = some p) :
    UnmountIsFinal ((fresh screen specs).run history) k p := by
  have linked := (Linked.fresh screen specs).run history
  have empty : (((fresh screen specs).run history).unmount k).screen.container p.container = {} := by
    rw [unmount_eq at_k]
    exact Screen.container_update _ _
  exact ⟨empty, ⟨_, unmount_pager_self at_k, rfl, rfl⟩,
    fun later => (Off.of_unmount at_k).staysOff (linked.unmount k) empty later⟩

/-- A list at the last number, whose page has announced more, asks for that page again. -/
def lastNumberAgain : List Happening := lastNumber ++ [.action (.move 0 (.goto 4294967295))]

theorem unmount_is_final_lastNumberAgain : ∃ p : Pager,
    ((fresh { containers := [{}] } []).run lastNumberAgain).pagers[0]? = some p ∧
    p.loading = true ∧
    (((fresh { containers := [{}] } []).run lastNumberAgain).unmount 0).move 0 .older =
      .error .afterLast ∧
    UnmountIsFinal ((fresh { containers := [{}] } []).run lastNumberAgain) 0 p :=
  ⟨_, rfl, rfl, rfl, unmount_is_final _ _ _ rfl⟩

end Stage

end MapSidebar
