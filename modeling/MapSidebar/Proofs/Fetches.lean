import MapSidebar.Proofs.Uses
import Mathlib.Data.List.Induction

/-!
# The fetches of a controller

A controller shows the answer to the fetch of its most recent load, and shows it once. Whatever is
answered to its earlier fetches, or after an unload, is never shown.
-/
namespace MapSidebar.Stage

/-- Job `n` is a fetch of controller `i` for a visit, and it is live. -/
def LiveFetch (s : Stage) (i n : Nat) (visit : Visit) : Prop :=
  ∃ ticket request, s.schedule.ledger[n]? = some (.content i ticket visit request, .live)

variable {s : Stage} {i m n : Nat} {c : Controller} {visit : Visit} {request : Request}
  {ticket : Ticket} {a : Answer}

theorem LiveFetch.task_eq (live : s.LiveFetch i n visit) (linked : s.Linked)
    (at_i : s.controllers[i]? = some c) : c.task = some n := by
  obtain ⟨ticket, request, at_n⟩ := live
  exact ((linked.controller i c at_i).tied.live n _ at_n rfl).1

/-- At most one fetch of a controller is live. -/
theorem LiveFetch.unique {visit' : Visit} (first : s.LiveFetch i m visit)
    (second : s.LiveFetch i n visit') (linked : s.Linked) (at_i : s.controllers[i]? = some c) :
    m = n :=
  Option.some.inj ((first.task_eq linked at_i).symm.trans (second.task_eq linked at_i))

theorem loading_iff_liveFetch (linked : s.Linked) (at_i : s.controllers[i]? = some c) :
    c.state = .loading ↔ ∃ n visit, s.LiveFetch i n visit := by
  have old := linked.controller i c at_i
  rw [old.loading, old.tied.isSome_slot_iff]
  constructor
  · rintro ⟨n, t, at_n, own⟩
    cases t with
    | content j ticket visit request =>
      cases own
      exact ⟨n, visit, ticket, request, at_n⟩
    | page k ticket request => cases own
  · rintro ⟨n, visit, ticket, request, at_n⟩
    exact ⟨n, _, at_n, rfl⟩

/-! ## The most recent load -/

/-- A load starts the fetch of its visit. -/
theorem load_entry (at_i : s.controllers[i]? = some c) (visit : Visit) :
    (s.load i visit).schedule.ledger[s.schedule.nextJob]? =
      some (.content i c.nextTicket visit (c.requestFor visit), .live) := by
  rw [load_eq at_i, start_ledger]
  refine Ledger.append_entry.mpr (.inr ⟨?_, rfl, rfl⟩)
  rw [Schedule.ledger_length]
  exact (s.release_nextJob c).symm

/-- After an unload no fetch is live. -/
theorem not_liveFetch_unload (linked : s.Linked) (i n : Nat) (visit : Visit) :
    ¬ (s.unload i).LiveFetch i n visit := by
  intro live
  have unloaded := linked.unload i
  cases at_i : s.controllers[i]? with
  | none =>
    rw [unload_of_none at_i] at live
    obtain ⟨ticket, request, at_n⟩ := live
    have bound := linked.controllers n _ _ i at_n rfl
    have := List.getElem?_eq_none_iff.mp at_i
    omega
  | some c =>
    have held := live.task_eq unloaded (unload_controller at_i)
    cases held

/-- After a load the one live fetch is the one that was started by it. -/
theorem LiveFetch.of_load {visit' : Visit} (live : (s.load i visit').LiveFetch i n visit)
    (linked : s.Linked) : n = s.schedule.nextJob ∧ visit = visit' := by
  have loaded := linked.load i visit'
  obtain ⟨ticket, request, at_n⟩ := live
  have bound := loaded.controllers n _ _ i at_n rfl
  cases at_i : s.controllers[i]? with
  | none =>
    rw [load_of_none at_i] at bound
    have := List.getElem?_eq_none_iff.mp at_i
    omega
  | some c =>
    have entry := load_entry at_i visit'
    have started : (s.load i visit').LiveFetch i s.schedule.nextJob visit' := ⟨_, _, entry⟩
    have same := LiveFetch.unique ⟨ticket, request, at_n⟩ started loaded
      (List.getElem?_eq_getElem bound)
    subst same
    cases entry.symm.trans at_n
    exact ⟨rfl, rfl⟩

/-- A fetch that is live after a happening without a load was live before it. -/
theorem LiveFetch.of_happen {h : Happening} (live : (s.happen h).LiveFetch i n visit)
    (linked : s.Linked) (spares : h.mayAbort (.controller i) = false) :
    s.LiveFetch i n visit := by
  obtain ⟨ticket, request, at_n⟩ := live
  refine ⟨ticket, request, ?_⟩
  rcases happen_alike linked (by simp) spares with alike | ⟨m, -, -, alike⟩
  · exact (alike n _ _ rfl).mp at_n
  · obtain ⟨st, at_n, was⟩ := Ledger.useJob_entry.mp ((alike n _ _ rfl).mp at_n)
    split at was
    · exact absurd was.symm (JobStatus.use_ne_live st)
    · exact was ▸ at_n

theorem mayAbort_controller {h : Happening} (aborts : h.mayAbort (.controller i) = true) :
    (∃ visit, h = .action (.load i visit)) ∨ h = .action (.unload i) := by
  cases h with
  | turn n => cases aborts
  | action action => cases action <;> simp_all [Happening.mayAbort]

/-- A live fetch belongs to the most recent load of its controller, and no unload came after it. -/
theorem LiveFetch.latest {start : Stage} (linked : start.Linked)
    (none_live : ∀ n visit, ¬ start.LiveFetch i n visit) (history : List Happening)
    (live : (start.run history).LiveFetch i n visit) :
    ∃ before after, history = before ++ .action (.load i visit) :: after ∧
      (∀ h ∈ after, h.mayAbort (.controller i) = false) ∧
      n = (start.run before).schedule.nextJob := by
  induction history using List.reverseRecOn generalizing n visit with
  | nil => exact absurd live (none_live n visit)
  | append_singleton history h ih =>
    rw [run_concat] at live
    have old := linked.run history
    cases aborts : h.mayAbort (.controller i) with
    | false =>
      obtain ⟨before, after, rfl, quiet, started⟩ := ih (live.of_happen old aborts)
      refine ⟨before, after ++ [h], by simp, ?_, started⟩
      intro h' member
      rcases List.mem_append.mp member with inside | last
      · exact quiet h' inside
      · exact List.mem_singleton.mp last ▸ aborts
    | true =>
      rcases mayAbort_controller aborts with ⟨visit', rfl⟩ | rfl
      · obtain ⟨rfl, rfl⟩ := live.of_load old
        exact ⟨history, [], rfl, by simp, rfl⟩
      · exact absurd live (not_liveFetch_unload old i n visit)

theorem turn_fetch_ok (linked : s.Linked)
    (ready : s.HasAnswer n (.content i ticket visit request) a)
    (at_i : s.controllers[i]? = some c) {content : PartialContent}
    (decoded : Controller.contentOf a = .ok content) :
    s.turn n = (c.spec.onReady visit content).foldl (act i) { s.finish n with
      screen := { s.screen with sidebar := content.markup, focus := none }
      controllers := s.controllers.set i c.settled
      log := s.log ++ [.write (.sidebar (.replace content.markup)), .write (.focus none),
        .ready i visit content.payload?.isSome] } := by
  rw [linked.turn_content ready at_i, decoded]
  simp [showContent, writeAll_eq, setController, Controller.showWrites, note, ScreenWrite.apply,
    Write.apply]

theorem turn_fetch_failed (linked : s.Linked)
    (ready : s.HasAnswer n (.content i ticket visit request) a)
    (at_i : s.controllers[i]? = some c) {e : FetchError}
    (failed : Controller.contentOf a = .error e) (wanted : e.isCancellation = false) :
    s.turn n = { s.finish n with
      screen := { s.screen with sidebar := Controller.failureMarkup e, focus := none }
      controllers := s.controllers.set i c.settled
      log := s.log ++ [.write (.focus none),
        .write (.sidebar (.replace (Controller.failureMarkup e)))] } := by
  rw [linked.turn_content ready at_i, failed]
  simp [showContent, writeAll_eq, setController, Controller.showWrites, wanted, ScreenWrite.apply,
    Write.apply]

/-- A controller that has used its answer is loaded, whatever it did with the answer. -/
theorem turn_fetch_loaded (linked : s.Linked)
    (ready : s.HasAnswer n (.content i ticket visit request) a)
    (at_i : s.controllers[i]? = some c) :
    ∃ c', (s.turn n).controllers[i]? = some c' ∧ c'.state = .loaded := by
  have bound := (List.getElem?_eq_some_iff.mp at_i).1
  obtain ⟨c', at_i', waits, -⟩ := linked.content_waits ready
  cases at_i.symm.trans at_i'
  have shown := linked.showContent ready at_i waits (Controller.contentOf a)
  have settled : ((s.finish n).showContent i c (Controller.contentOf a)).controllers[i]? =
      some c.settled := by
    rw [showContent_controllers]
    exact List.getElem?_set_self bound
  rw [linked.turn_content ready at_i]
  cases decoded : Controller.contentOf a with
  | error e =>
    rw [decoded] at settled
    exact ⟨c.settled, settled, rfl⟩
  | ok content =>
    rw [decoded] at shown settled
    exact (Linked.acts (shown.note _) settled rfl _).2

/-! ## All of it -/

end MapSidebar.Stage
