import MapSidebar.Proofs.Tied

/-!
# The links of a stage

On a stage that is linked, each controller and each pager is tied to its jobs, and what it shows to
the outside follows from its slot: a controller is loading, and a pager says that it is loading,
exactly when the slot holds a job. Every happening keeps a stage linked.
-/
namespace MapSidebar

structure ControllerLinked (l : Ledger StageTask) (i : Nat) (c : Controller) : Prop where
  tied : Tied l (.controller i) c.sequence c.task
  loading : c.state = .loading ↔ c.task.isSome
  bare : c.state ≠ .loaded → c.nested = []
  asked : ∀ (n : Nat) (ticket : Ticket) (visit : Visit) (request : Request) (st : JobStatus),
    l[n]? = some (.content i ticket visit request, st) → request = c.requestFor visit

structure PagerLinked (l : Ledger StageTask) (k : Nat) (p : Pager) : Prop where
  tied : Tied l (.pager k) p.sequence p.task
  loading : p.loading = p.task.isSome
  mounted : p.mounted = false → p.task = none

structure Linked (l : Ledger StageTask) (cs : List Controller) (ps : List Pager) : Prop where
  controller : ∀ (i : Nat) (c : Controller), cs[i]? = some c → ControllerLinked l i c
  pager : ∀ (k : Nat) (p : Pager), ps[k]? = some p → PagerLinked l k p
  controllers : ∀ (n : Nat) (t : StageTask) (st : JobStatus) (i : Nat),
    l[n]? = some (t, st) → t.owner = .controller i → i < cs.length
  pagers : ∀ (n : Nat) (t : StageTask) (st : JobStatus) (k : Nat),
    l[n]? = some (t, st) → t.owner = .pager k → k < ps.length

variable {l l' : Ledger StageTask} {cs : List Controller} {ps : List Pager} {i k n : Nat}
  {c : Controller} {p : Pager}

theorem ControllerLinked.of_alike (linked : ControllerLinked l i c)
    (alike : Alike (.controller i) l l') : ControllerLinked l' i c :=
  ⟨linked.tied.of_alike alike, linked.loading, linked.bare, fun n ticket visit request st at_n =>
    linked.asked n ticket visit request st ((alike n _ st rfl).mp at_n)⟩

theorem PagerLinked.of_alike (linked : PagerLinked l k p) (alike : Alike (.pager k) l l') :
    PagerLinked l' k p :=
  ⟨linked.tied.of_alike alike, linked.loading, linked.mounted⟩

namespace Linked

/-- A change to controller `i` and its jobs alone. -/
theorem set_controller (linked : Linked l cs ps) (at_i : cs[i]? = some c)
    (alike : ∀ o, o ≠ .controller i → Alike o l l') {c' : Controller}
    (next : ControllerLinked l' i c') : Linked l' (cs.set i c') ps := by
  have bound := (List.getElem?_eq_some_iff.mp at_i).1
  refine ⟨?_, ?_, ?_, ?_⟩
  · intro j d at_j
    rcases entry_of_set at_j with ⟨rfl, rfl⟩ | ⟨other, at_j⟩
    · exact next
    · exact (linked.controller j d at_j).of_alike (alike _ (by simpa using Ne.symm other))
  · intro k p at_k
    exact (linked.pager k p at_k).of_alike (alike _ (by simp))
  · intro n t st j at_n own
    rw [List.length_set]
    by_cases equal : i = j
    · exact equal ▸ bound
    · have other : Owner.controller j ≠ .controller i := by simpa using Ne.symm equal
      exact linked.controllers n t st j ((alike _ other n t st own).mp at_n) own
  · intro n t st k at_n own
    exact linked.pagers n t st k ((alike _ (by simp) n t st own).mp at_n) own

/-- A change to pager `k` and its jobs alone. -/
theorem set_pager (linked : Linked l cs ps) (at_k : ps[k]? = some p)
    (alike : ∀ o, o ≠ .pager k → Alike o l l') {p' : Pager} (next : PagerLinked l' k p') :
    Linked l' cs (ps.set k p') := by
  have bound := (List.getElem?_eq_some_iff.mp at_k).1
  refine ⟨?_, ?_, ?_, ?_⟩
  · intro i c at_i
    exact (linked.controller i c at_i).of_alike (alike _ (by simp))
  · intro m q at_m
    rcases entry_of_set at_m with ⟨rfl, rfl⟩ | ⟨other, at_m⟩
    · exact next
    · exact (linked.pager m q at_m).of_alike (alike _ (by simpa using Ne.symm other))
  · intro n t st i at_n own
    exact linked.controllers n t st i ((alike _ (by simp) n t st own).mp at_n) own
  · intro n t st m at_n own
    rw [List.length_set]
    by_cases equal : k = m
    · exact equal ▸ bound
    · have other : Owner.pager m ≠ .pager k := by simpa using Ne.symm equal
      exact linked.pagers n t st m ((alike _ other n t st own).mp at_n) own

/-- A pager that has asked for nothing joins the others. -/
theorem add_pager (linked : Linked l cs ps) (task : p.task = none) (loading : p.loading = false) :
    Linked l cs (ps ++ [p]) := by
  refine ⟨linked.controller, ?_, linked.controllers, ?_⟩
  · intro k q at_k
    by_cases bound : k < ps.length
    · rw [List.getElem?_append_left bound] at at_k
      exact linked.pager k q at_k
    · have inside := (List.getElem?_eq_some_iff.mp at_k).1
      simp only [List.length_append, List.length_singleton] at inside
      have last : k = ps.length := by omega
      subst last
      rw [List.getElem?_concat_length, Option.some.injEq] at at_k
      subst at_k
      refine ⟨?_, by simp [task, loading], fun _ => task⟩
      rw [task]
      refine Tied.fresh (fun n t st at_n own => ?_) _
      have := linked.pagers n t st ps.length at_n own
      omega
  · intro n t st k at_n own
    have := linked.pagers n t st k at_n own
    simp only [List.length_append, List.length_singleton]
    omega

/-! ## What an owner does -/

theorem unload_controller (linked : Linked l cs ps) (at_i : cs[i]? = some c) :
    Linked (l.dropSlot c.task) (cs.set i c.unloaded) ps := by
  have old := linked.controller i c at_i
  refine linked.set_controller at_i (fun o other => Alike.dropSlot old.tied other) ?_
  refine ⟨old.tied.dropSlot, by simp [Controller.unloaded], fun _ => rfl, ?_⟩
  intro n ticket visit request st at_n
  obtain ⟨st', at_n'⟩ := Ledger.dropSlot_entry at_n
  exact old.asked n ticket visit request st' at_n'

/-- A controller that has let go of everything starts a fetch. -/
theorem load_controller (linked : Linked l cs ps) (at_i : cs[i]? = some c.unloaded)
    (visit : Visit) :
    Linked (l ++ [(.content i c.nextTicket visit (c.requestFor visit), .live)])
      (cs.set i (c.issue l.length)) ps := by
  have old := linked.controller i c.unloaded at_i
  refine linked.set_controller at_i ?_ ⟨?_, by simp [Controller.issue], fun _ => rfl, ?_⟩
  · intro o other
    exact Alike.append (Ne.symm other)
  · exact Tied.start old.tied rfl rfl (Nat.le_refl _)
  · intro n ticket visit' request st at_n
    rcases Ledger.append_entry.mp at_n with before | ⟨-, same, -⟩
    · exact old.asked n ticket visit' request st before
    · cases same
      rfl

theorem settle_controller (linked : Linked l cs ps) (at_i : cs[i]? = some c)
    (task : c.task = some n) : Linked (l.useJob n) (cs.set i c.settled) ps := by
  have old := linked.controller i c at_i
  have tied := task ▸ old.tied
  obtain ⟨t, at_n, own⟩ := tied.held n rfl
  refine linked.set_controller at_i
    (fun o other => Alike.useJob at_n fun equal => other (equal.symm.trans own)) ?_
  refine ⟨tied.useJob, by simp [Controller.settled], by simp [Controller.settled], ?_⟩
  intro m ticket visit request st at_m
  obtain ⟨st', at_m', -⟩ := Ledger.useJob_entry.mp at_m
  exact old.asked m ticket visit request st' at_m'

/-- A controller that shows its content may be given pagers. -/
theorem attach_controller (linked : Linked l cs ps) (at_i : cs[i]? = some c)
    (loaded : c.state = .loaded) (nested : List Nat) :
    Linked l (cs.set i { c with nested }) ps := by
  have old := linked.controller i c at_i
  exact linked.set_controller at_i (fun o _ => Alike.refl o l)
    ⟨old.tied, old.loading, fun other => absurd loaded other, old.asked⟩

theorem unmount_pager (linked : Linked l cs ps) (at_k : ps[k]? = some p) :
    Linked (l.dropSlot p.task) cs (ps.set k p.unmounted) := by
  have old := linked.pager k p at_k
  exact linked.set_pager at_k (fun o other => Alike.dropSlot old.tied other)
    ⟨old.tied.dropSlot, rfl, fun _ => rfl⟩

theorem issue_pager (linked : Linked l cs ps) (at_k : ps[k]? = some p) (mounted : p.mounted = true)
    (target : PageTarget) :
    Linked (l.dropSlot p.task ++ [(.page k p.nextTicket (p.requestFor target), .live)]) cs
      (ps.set k (p.issue target (l.dropSlot p.task).length)) := by
  have old := linked.pager k p at_k
  refine linked.set_pager at_k ?_ ⟨?_, rfl, fun off => ?_⟩
  · intro o other
    exact (Alike.dropSlot old.tied other).trans (Alike.append (Ne.symm other))
  · exact old.tied.dropSlot.start rfl rfl (Nat.le_refl _)
  · rw [Pager.issue] at off
    exact absurd (mounted.symm.trans off) (by simp)

/-- A pager uses the answer that it waited for, however its position comes out. -/
theorem settle_pager (linked : Linked l cs ps) (at_k : ps[k]? = some p) (task : p.task = some n)
    (position : PagePosition) :
    Linked (l.useJob n) cs (ps.set k { p.settled with position }) := by
  have old := linked.pager k p at_k
  have tied := task ▸ old.tied
  obtain ⟨t, at_n, own⟩ := tied.held n rfl
  exact linked.set_pager at_k
    (fun o other => Alike.useJob at_n fun equal => other (equal.symm.trans own))
    ⟨tied.useJob, rfl, fun _ => rfl⟩

end Linked

namespace Pager

theorem mounted_of_goto {n : UInt32} {target : PageTarget} (found : p.goto? n = some target) :
    p.mounted = true := by
  cases on : p.mounted with
  | true => rfl
  | false => cases mode : p.options.mode <;> simp [goto?, mode, on] at found

/-- Only a pager that is mounted accepts a move. -/
theorem mounted_of_request {m : PageMove} {target : PageTarget}
    (wanted : p.request? m = .ok (some target)) : p.mounted = true := by
  have through : ∀ n : Except PageOverflow UInt32, n.map p.goto? = .ok (some target) →
      p.mounted = true := by
    rintro (overflow | n) found
    · cases found
    · exact mounted_of_goto (Except.ok.inj found)
  unfold request? at wanted
  split at wanted
  · exact mounted_of_goto (Except.ok.inj wanted)
  · split at wanted
    · exact through _ wanted
    · cases wanted
  · split at wanted
    · exact through _ wanted
    · cases wanted
  · split at wanted
    · have accepted := Except.ok.inj wanted
      simp only [Option.ite_none_right_eq_some, Bool.and_eq_true] at accepted
      exact accepted.1.2
    · cases wanted
  · split at wanted
    · have accepted := Except.ok.inj wanted
      simp only [Option.ite_none_right_eq_some] at accepted
      exact accepted.1
    · cases wanted

end Pager

namespace Stage

/-- What holds of a stage between any two happenings. -/
def Linked (s : Stage) : Prop := MapSidebar.Linked s.schedule.ledger s.controllers s.pagers

variable {s : Stage} {ticket : Ticket} {visit : Visit} {request : Request} {a : Answer}

namespace Linked

theorem fresh (screen : Screen) (specs : List ControllerSpec) : (fresh screen specs).Linked := by
  refine ⟨?_, by simp [Stage.fresh], by simp [Stage.fresh, Schedule.ledger],
    by simp [Stage.fresh, Schedule.ledger]⟩
  intro i c at_i
  simp only [Stage.fresh, List.getElem?_map, Option.map_eq_some_iff] at at_i
  obtain ⟨spec, -, rfl⟩ := at_i
  exact ⟨.fresh (by simp [Stage.fresh, Schedule.ledger]) _, by simp, fun _ => rfl,
    by simp [Stage.fresh, Schedule.ledger]⟩

theorem note (linked : s.Linked) (e : StageEvent) : (s.note e).Linked := linked

theorem issuePage (linked : s.Linked) (at_k : s.pagers[k]? = some p) (mounted : p.mounted = true)
    (target : PageTarget) : (s.issuePage k p target).Linked := by
  have issued := linked.issue_pager at_k mounted target
  rw [← Schedule.ledger_abortSlot, Schedule.ledger_length] at issued
  rw [issuePage_eq, Stage.Linked, Schedule.ledger_start]
  exact s.schedule.abortSlot_nextJob p.task ▸ issued

theorem mount (linked : s.Linked) (container : Nat) (options : PagerOptions) :
    (s.mount container options).Linked := by
  have grown : ({ s with pagers := s.pagers ++ [{ container, options }] } : Stage).Linked :=
    linked.add_pager rfl rfl
  exact grown.issuePage List.getElem?_concat_length rfl options.mode.first

/-- Taking away a pager keeps the links, also while a controller is being changed. -/
theorem unmount_with (linked : MapSidebar.Linked s.schedule.ledger cs s.pagers) (k : Nat) :
    MapSidebar.Linked (s.unmount k).schedule.ledger cs (s.unmount k).pagers := by
  cases at_k : s.pagers[k]? with
  | none => rwa [unmount_of_none at_k]
  | some p =>
    rw [unmount_eq at_k, Schedule.ledger_abortSlot]
    exact linked.unmount_pager at_k

theorem unmount (linked : s.Linked) (k : Nat) : (s.unmount k).Linked := by
  rw [Stage.Linked, unmount_controllers]
  exact unmount_with linked k

theorem release (linked : s.Linked) (at_i : s.controllers[i]? = some c) :
    MapSidebar.Linked (s.release c).schedule.ledger (s.controllers.set i c.unloaded)
      (s.release c).pagers := by
  refine s.release_induction (motive := fun t => MapSidebar.Linked t.schedule.ledger
    (s.controllers.set i c.unloaded) t.pagers) c ?_ fun t k _ kept => unmount_with kept k
  rw [Schedule.ledger_abortSlot]
  exact linked.unload_controller at_i

theorem load (linked : s.Linked) (i : Nat) (visit : Visit) : (s.load i visit).Linked := by
  cases at_i : s.controllers[i]? with
  | none => rwa [load_of_none at_i]
  | some c =>
    have bound := (List.getElem?_eq_some_iff.mp at_i).1
    have loaded := (linked.release at_i).load_controller (List.getElem?_set_self bound) visit
    rw [List.set_set, Schedule.ledger_length] at loaded
    rw [load_eq at_i, Stage.Linked, start_ledger, ← s.release_nextJob c]
    rw [← s.release_controllers c] at loaded
    exact loaded

theorem unload (linked : s.Linked) (i : Nat) : (s.unload i).Linked := by
  cases at_i : s.controllers[i]? with
  | none => rwa [unload_of_none at_i]
  | some c =>
    have released := linked.release at_i
    rw [unload_eq at_i, Stage.Linked, writeAll_schedule, writeAll_controllers, writeAll_pagers]
    rw [← s.release_controllers c] at released
    exact released

/-! ## Turns -/

/-- The fetch that has its answer is the one that its controller waits for. -/
theorem content_waits (linked : s.Linked)
    (ready : s.HasAnswer n (.content i ticket visit request) a) :
    ∃ c, s.controllers[i]? = some c ∧ c.task = some n ∧ c.sequence.isCurrent ticket = true := by
  have bound := linked.controllers n _ _ i ready.entry rfl
  have at_i : s.controllers[i]? = some s.controllers[i] := List.getElem?_eq_getElem bound
  obtain ⟨task, current⟩ := (linked.controller i _ at_i).tied.live n _ ready.entry rfl
  exact ⟨_, at_i, task, decide_eq_true current⟩

/-- The request for a page that has its answer is the one that its pager waits for. -/
theorem page_waits (linked : s.Linked) (ready : s.HasAnswer n (.page k ticket request) a) :
    ∃ p, s.pagers[k]? = some p ∧ p.task = some n ∧ p.sequence.isCurrent ticket = true := by
  have bound := linked.pagers n _ _ k ready.entry rfl
  have at_k : s.pagers[k]? = some s.pagers[k] := List.getElem?_eq_getElem bound
  obtain ⟨task, current⟩ := (linked.pager k _ at_k).tied.live n _ ready.entry rfl
  exact ⟨_, at_k, task, decide_eq_true current⟩

theorem turn_content (linked : s.Linked)
    (ready : s.HasAnswer n (.content i ticket visit request) a)
    (at_i : s.controllers[i]? = some c) :
    s.turn n = match Controller.contentOf a with
      | .error e => (s.finish n).showContent i c (.error e)
      | .ok content => (c.spec.onReady visit content).foldl (act i)
          (((s.finish n).showContent i c (.ok content)).note
            (.ready i visit content.payload?.isSome)) := by
  obtain ⟨c', at_i', -, current⟩ := linked.content_waits ready
  cases at_i.symm.trans at_i'
  rw [turn_of_hasAnswer ready]
  exact applyContent_current (s := s.finish n) at_i current visit a

theorem turn_page (linked : s.Linked) (ready : s.HasAnswer n (.page k ticket request) a)
    (at_k : s.pagers[k]? = some p) :
    s.turn n = match Pager.pageOf a with
      | .error e => (s.finish n).failPage k p e
      | .ok page => ((s.finish n).showPage k p page).runHook k p := by
  obtain ⟨p', at_k', -, current⟩ := linked.page_waits ready
  cases at_k.symm.trans at_k'
  rw [turn_of_hasAnswer ready]
  exact applyPage_current (s := s.finish n) at_k current a

theorem turn_page_controllers (linked : s.Linked)
    (ready : s.HasAnswer n (.page k ticket request) a) : (s.turn n).controllers = s.controllers := by
  obtain ⟨p, at_k, -, -⟩ := linked.page_waits ready
  rw [linked.turn_page ready at_k]
  cases Pager.pageOf a with
  | error e => exact writeContainer_controllers _ _ _
  | ok page =>
    obtain ⟨screen, log, same, -⟩ := runHook_eq ((s.finish n).showPage k p page) k p
    dsimp only
    rw [same]
    exact writeContainer_controllers _ _ _

theorem turn_page_pagers (linked : s.Linked) (ready : s.HasAnswer n (.page k ticket request) a)
    (at_k : s.pagers[k]? = some p) :
    (s.turn n).pagers = s.pagers.set k (match Pager.pageOf a with
      | .ok page => p.showing page
      | .error _ => p.settled) := by
  rw [linked.turn_page ready at_k]
  cases Pager.pageOf a with
  | error e => exact writeContainer_pagers _ _ _
  | ok page =>
    obtain ⟨screen, log, same, -⟩ := runHook_eq ((s.finish n).showPage k p page) k p
    dsimp only
    rw [same]
    exact writeContainer_pagers _ _ _

/-- What a controller does once its content is shown keeps the links and leaves it loaded. -/
theorem acts (linked : s.Linked) (at_i : s.controllers[i]? = some c) (loaded : c.state = .loaded)
    (actions : List ReadyAction) :
    (actions.foldl (act i) s).Linked ∧ ∃ c', (actions.foldl (act i) s).controllers[i]? = some c' ∧
      c'.state = .loaded := by
  refine List.foldlRecOn actions (act i) (motive := fun t : Stage => t.Linked ∧
    ∃ c', t.controllers[i]? = some c' ∧ c'.state = .loaded) ⟨linked, c, at_i, loaded⟩ ?_
  rintro t ⟨linked, c, at_i, loaded⟩ action -
  cases action with
  | write w => exact ⟨linked, c, at_i, loaded⟩
  | mount container options =>
    have mounted := linked.mount container options
    rw [← t.mount_controllers container options] at at_i
    have bound := (List.getElem?_eq_some_iff.mp at_i).1
    rw [act, attach_eq at_i]
    exact ⟨mounted.attach_controller at_i loaded _, _, List.getElem?_set_self bound, loaded⟩

theorem showContent (linked : s.Linked) {task : StageTask} (ready : s.HasAnswer n task a)
    (at_i : s.controllers[i]? = some c) (waits : c.task = some n)
    (result : Except FetchError PartialContent) :
    ((s.finish n).showContent i c result).Linked := by
  rw [Stage.Linked, showContent_schedule, showContent_controllers, showContent_pagers,
    finish_ledger ready]
  exact linked.settle_controller at_i waits

theorem turn (linked : s.Linked) (n : Nat) : (s.turn n).Linked := by
  rcases s.turn_cases n with ⟨schedule, same, passes⟩ | ⟨task, a, ready⟩
  · rw [same, Stage.Linked, passes.ledger]
    exact linked
  · cases task with
    | content i ticket visit request =>
      obtain ⟨c, at_i, waits, -⟩ := linked.content_waits ready
      have bound := (List.getElem?_eq_some_iff.mp at_i).1
      rw [linked.turn_content ready at_i]
      split
      · exact linked.showContent ready at_i waits _
      next content _ =>
        have shown := linked.showContent ready at_i waits (.ok content)
        have at_i' : ((s.finish n).showContent i c (.ok content)).controllers[i]? =
            some c.settled := by
          rw [showContent_controllers]
          exact List.getElem?_set_self bound
        exact (acts (shown.note _) at_i' rfl _).1
    | page k ticket request =>
      obtain ⟨p, at_k, waits, -⟩ := linked.page_waits ready
      rw [linked.turn_page ready at_k]
      split
      · rw [failPage, Stage.Linked, writeContainer_schedule, writeContainer_controllers,
          writeContainer_pagers]
        exact finish_ledger ready ▸ linked.settle_pager at_k waits p.position
      next page _ =>
        obtain ⟨screen, log, same, -⟩ := runHook_eq ((s.finish n).showPage k p page) k p
        rw [same, showPage, Stage.Linked]
        dsimp only
        rw [writeContainer_schedule, writeContainer_controllers, writeContainer_pagers]
        exact finish_ledger ready ▸ linked.settle_pager at_k waits (p.showing page).position

theorem happen (linked : s.Linked) (h : Happening) : (s.happen h).Linked := by
  cases h with
  | turn n => exact linked.turn n
  | action a =>
    cases a with
    | load i visit => exact linked.load i visit
    | unload i => exact linked.unload i
    | mount container options => exact linked.mount container options
    | move k m =>
      rcases s.perform_move_cases k m with same | ⟨p, target, at_k, wanted, issued⟩
      · rwa [Stage.happen, same]
      · rw [Stage.happen, issued]
        exact linked.issuePage at_k (Pager.mounted_of_request wanted) target
    | unmount k => exact linked.unmount k
    | answer request a =>
      rw [Stage.happen, perform, Stage.Linked, Schedule.ledger_answer]
      exact linked
    | step =>
      rcases s.step_cases with ⟨-, same⟩ | ⟨n, rest, -, turned⟩
      · rwa [Stage.happen, perform, same]
      · rw [Stage.happen, perform, turned]
        exact linked.turn n

theorem run (linked : s.Linked) (history : List Happening) : (s.run history).Linked :=
  run_induction linked (fun _ h linked => linked.happen h) history

end Linked

end Stage

end MapSidebar
