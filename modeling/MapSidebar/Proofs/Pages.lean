import MapSidebar.Proofs.Uses

/-!
# The requests of a pager

A pager shows the answer to the last page that it asked for, and shows it once. A move that is
accepted asks for one page and takes back the request before it; a move that is refused does nothing.
-/
namespace MapSidebar

namespace Stage

/-- Job `n` asks for a page for pager `k`, and it is live. -/
def LivePage (s : Stage) (k n : Nat) : Prop :=
  ∃ ticket request, s.schedule.ledger[n]? = some (.page k ticket request, .live)

variable {s t : Stage} {k m n : Nat} {p : Pager} {request : Request} {ticket : Ticket} {a : Answer}

theorem LivePage.task_eq (live : s.LivePage k n) (linked : s.Linked)
    (at_k : s.pagers[k]? = some p) : p.task = some n := by
  obtain ⟨ticket, request, at_n⟩ := live
  exact ((linked.pager k p at_k).tied.live n _ at_n rfl).1

/-- At most one request of a pager is live. -/
theorem LivePage.unique (first : s.LivePage k m) (second : s.LivePage k n) (linked : s.Linked)
    (at_k : s.pagers[k]? = some p) : m = n :=
  Option.some.inj ((first.task_eq linked at_k).symm.trans (second.task_eq linked at_k))

/-- A live request is the last one of its pager. -/
theorem LivePage.last (live : s.LivePage k n) (linked : s.Linked) (at_k : s.pagers[k]? = some p)
    {task : StageTask} {st : JobStatus} (at_m : s.schedule.ledger[m]? = some (task, st))
    (own : task.owner = .pager k) : m ≤ n :=
  (linked.pager k p at_k).tied.last n (live.task_eq linked at_k) m task st at_m own

theorem LivePage.mounted (live : s.LivePage k n) (linked : s.Linked)
    (at_k : s.pagers[k]? = some p) : p.mounted = true := by
  have task := live.task_eq linked at_k
  cases on : p.mounted with
  | true => rfl
  | false => cases task.symm.trans ((linked.pager k p at_k).mounted on)

/-! ## Moves -/

theorem move_accepted (at_k : s.pagers[k]? = some p) {move : PageMove}
    (accepted : s.move k move = .ok (t, true)) :
    ∃ target, p.request? move = .ok (some target) ∧ t = s.issuePage k p target := by
  cases wanted : p.request? move with
  | error overflow => simp [Stage.move, at_k, wanted, Except.map] at accepted
  | ok found =>
    cases found with
    | none => simp [Stage.move, at_k, wanted, Except.map] at accepted
    | some target =>
      simp only [Stage.move, at_k, wanted, Except.map, Except.ok.injEq, Prod.mk.injEq,
        and_true] at accepted
      exact ⟨target, rfl, accepted.symm⟩

theorem move_refused {move : PageMove} (refused : s.move k move = .ok (t, false)) : t = s := by
  cases at_k : s.pagers[k]? with
  | none =>
    simp only [Stage.move, at_k, Except.ok.injEq, Prod.mk.injEq, and_true] at refused
    exact refused.symm
  | some p =>
    cases wanted : p.request? move with
    | error overflow => simp [Stage.move, at_k, wanted, Except.map] at refused
    | ok found =>
      cases found with
      | none =>
        simp only [Stage.move, at_k, wanted, Except.map, Except.ok.injEq, Prod.mk.injEq,
          and_true] at refused
        exact refused.symm
      | some target => simp [Stage.move, at_k, wanted, Except.map] at refused

/-- A pager that asks for a page starts one job and takes back the one before it. -/
theorem issuePage_ledger (s : Stage) (k : Nat) (p : Pager) (target : PageTarget) :
    (s.issuePage k p target).schedule.ledger = s.schedule.ledger.dropSlot p.task ++
      [(.page k p.nextTicket (p.requestFor target), .live)] := by
  rw [issuePage_eq, Schedule.ledger_start, Schedule.ledger_abortSlot]

theorem runHook_log (s : Stage) (k : Nat) (p : Pager) {hook : String → List Write}
    (given : p.options.hook = some hook) :
    (s.runHook k p).log = s.log ++ .hook k (s.screen.container p.container).items ::
      (hook (s.screen.container p.container).items).map fun w =>
        .write (.container p.container (.items w)) := by
  simp [runHook, given, writeContainer_eq, Function.comp_def]

theorem turn_page_ok (linked : s.Linked) (ready : s.HasAnswer n (.page k ticket request) a)
    (at_k : s.pagers[k]? = some p) {page : PageResponse} (decoded : Pager.pageOf a = .ok page) :
    s.turn n = runHook { s.finish n with
      screen := s.screen.update p.container fun _ =>
        ⟨String.join page.items, Pager.controls p.options (p.showing page).position⟩
      pagers := s.pagers.set k (p.showing page)
      log := s.log ++ [.write (.container p.container (.items (.replace (String.join page.items)))),
        .write (.container p.container
          (.controls (Pager.controls p.options (p.showing page).position)))] } k p := by
  rw [linked.turn_page ready at_k, decoded]
  simp [showPage, setPager, writeContainer_eq, ContainerWrite.apply, Write.apply]

theorem turn_page_failed (linked : s.Linked) (ready : s.HasAnswer n (.page k ticket request) a)
    (at_k : s.pagers[k]? = some p) {e : FetchError} (failed : Pager.pageOf a = .error e)
    (wanted : e.isCancellation = false) :
    s.turn n = { s.finish n with
      screen := s.screen.update p.container fun c => { c with items := Pager.failureMarkup e }
      pagers := s.pagers.set k p.settled
      log := s.log ++
        [.write (.container p.container (.items (.replace (Pager.failureMarkup e))))] } := by
  rw [linked.turn_page ready at_k, failed]
  simp [failPage, setPager, writeContainer_eq, wanted, ContainerWrite.apply, Write.apply]

theorem turn_page_cancelled (linked : s.Linked) (ready : s.HasAnswer n (.page k ticket request) a)
    (at_k : s.pagers[k]? = some p) {e : FetchError} (failed : Pager.pageOf a = .error e)
    (cancelled : e.isCancellation = true) :
    s.turn n = { s.finish n with pagers := s.pagers.set k p.settled } := by
  rw [linked.turn_page ready at_k, failed]
  simp [failPage, setPager, writeContainer, writeAll, cancelled]

/-! ## All of it -/

end Stage

end MapSidebar
