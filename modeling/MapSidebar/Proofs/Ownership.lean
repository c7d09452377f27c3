import MapSidebar.Proofs.Navigation

/-!
# Exclusive ownership

All controllers of the sidebar share its surfaces and its one list container. At any time only the
active one may load, own a list or have a request out, and of these there is at most one.
-/
namespace MapSidebar

namespace Stage.Exclusive

variable {s : Stage} {specs : List ControllerSpec} {active : Option Nat} {i j k m n : Nat}
  {c : Controller} {p q : Pager} {t u : StageTask}

/-- A controller that is not active has nothing. -/
theorem not_active (ex : s.Exclusive specs active) (at_i : s.controllers[i]? = some c)
    (other : active ≠ some i) :
    c.state = .idle ∧ c.nested = [] ∧ ∀ n visit, ¬ s.LiveFetch i n visit := by
  have idle : c.state = .idle := by
    by_contra busy
    exact other ((ex.busy i c at_i).mp busy)
  refine ⟨idle, (ex.linked.controller i c at_i).bare (by simp [idle]), fun n visit live => ?_⟩
  have loading := (loading_iff_liveFetch ex.linked at_i).mpr ⟨n, visit, live⟩
  cases idle.symm.trans loading

/-- At most one list is mounted. -/
theorem single_mounted (ex : s.Exclusive specs active) (at_j : s.pagers[j]? = some p)
    (on_p : p.mounted = true) (at_k : s.pagers[k]? = some q) (on_q : q.mounted = true) : j = k := by
  obtain ⟨i, c, is_active, at_i, member_j, -⟩ := ex.owned_by_active at_j on_p
  have member_k := ex.nested_of_mounted (.inr is_active) at_i at_k on_q
  have few := ex.few i c at_i
  match nested : c.nested with
  | [] => simp [nested] at member_j
  | [x] =>
    rw [nested, List.mem_singleton] at member_j member_k
    exact member_j.trans member_k.symm
  | x :: y :: rest =>
    rw [nested, List.length_cons, List.length_cons] at few
    omega

/-- A live fetch is awaited by the active controller. -/
theorem fetch_owner (ex : s.Exclusive specs active) {visit : Visit} (live : s.LiveFetch i n visit) :
    active = some i ∧ ∃ c, s.controllers[i]? = some c ∧ c.task = some n := by
  obtain ⟨ticket, request, at_n⟩ := live
  have bound := ex.linked.controllers n _ _ i at_n rfl
  have at_i : s.controllers[i]? = some s.controllers[i] := List.getElem?_eq_getElem bound
  have waits := LiveFetch.task_eq ⟨ticket, request, at_n⟩ ex.linked at_i
  exact ⟨(ex.waits_active at_i waits).1, _, at_i, waits⟩

/-- A live request for a page is awaited by a list that is mounted. -/
theorem page_owner (ex : s.Exclusive specs active) (live : s.LivePage k n) :
    ∃ p, s.pagers[k]? = some p ∧ p.task = some n ∧ p.mounted = true := by
  obtain ⟨ticket, request, at_n⟩ := live
  have bound := ex.linked.pagers n _ _ k at_n rfl
  have at_k : s.pagers[k]? = some s.pagers[k] := List.getElem?_eq_getElem bound
  have live : s.LivePage k n := ⟨ticket, request, at_n⟩
  exact ⟨_, at_k, live.task_eq ex.linked at_k, live.mounted ex.linked at_k⟩

/-- A fetch and a request for a page are never live together. -/
theorem not_both_live (ex : s.Exclusive specs active) {visit : Visit}
    (fetch : s.LiveFetch i m visit) (page : s.LivePage k n) : False := by
  obtain ⟨-, c, at_i, waits⟩ := ex.fetch_owner fetch
  obtain ⟨p, at_k, -, on⟩ := ex.page_owner page
  cases ((ex.waits_active at_i waits).2.2 k p at_k).symm.trans on

/-- At most one request is live. -/
theorem single_live (ex : s.Exclusive specs active)
    (at_m : s.schedule.ledger[m]? = some (t, .live))
    (at_n : s.schedule.ledger[n]? = some (u, .live)) : m = n := by
  cases t with
  | content i ticket visit request =>
    cases u with
    | content j ticket' visit' request' =>
      obtain ⟨is_active, c, at_i, waits⟩ := ex.fetch_owner ⟨_, _, at_m⟩
      obtain ⟨is_active', d, at_j, waits'⟩ := ex.fetch_owner ⟨_, _, at_n⟩
      cases is_active.symm.trans is_active'
      cases at_i.symm.trans at_j
      exact Option.some.inj (waits.symm.trans waits')
    | page k ticket' request' => exact (ex.not_both_live ⟨_, _, at_m⟩ ⟨_, _, at_n⟩).elim
  | page j ticket request =>
    cases u with
    | content i ticket' visit request' => exact (ex.not_both_live ⟨_, _, at_n⟩ ⟨_, _, at_m⟩).elim
    | page k ticket' request' =>
      obtain ⟨p, at_j, waits, on_p⟩ := ex.page_owner ⟨_, _, at_m⟩
      obtain ⟨q, at_k, waits', on_q⟩ := ex.page_owner ⟨_, _, at_n⟩
      cases ex.single_mounted at_j on_p at_k on_q
      cases at_j.symm.trans at_k
      exact Option.some.inj (waits.symm.trans waits')

end Stage.Exclusive

namespace Explorer

variable {e : Explorer}

theorem happen_width (e : Explorer) (h : Happening) :
    (e.happen h).stage.screen.containers.length = e.stage.screen.containers.length := by
  rcases e.happen_cases h with ⟨url, rfl⟩ | rfl | ⟨stage, same, which⟩
  · have cleared : ∀ target, (e.cleared target).screen.containers.length =
        e.stage.screen.containers.length := by
      intro target
      unfold cleared
      split
      · rfl
      · split
        · exact Stage.unload_width _ _
        · rfl
    rw [happen, perform, dispatch_eq, goTo_stage]
    split
    · exact (Stage.load_width _ _ _).trans (cleared _)
    · exact cleared _
  · rw [happen, perform, leave_stage]
    split
    · exact Stage.unload_width _ _
    · rfl
  · rw [same]
    rcases which with rfl | ⟨r, a, rfl⟩ | ⟨n, rfl⟩
    · rfl
    · rfl
    · exact Stage.turn_width _ n

theorem run_width (e : Explorer) (history : List Happening) :
    (e.run history).stage.screen.containers.length = e.stage.screen.containers.length :=
  run_induction (motive := fun d => d.stage.screen.containers.length =
    e.stage.screen.containers.length) rfl history fun d h _ same => (d.happen_width h).trans same

/-- What holds of a sidebar with one list container. -/
structure OneOwner (e : Explorer) : Prop where
  /-- A controller that is not active is idle, fetches nothing and owns no list. -/
  idle : ∀ (i : Nat) (c : Controller), e.stage.controllers[i]? = some c →
    e.router.active ≠ some (.controller i) →
    c.state = .idle ∧ c.nested = [] ∧ ∀ n visit, ¬ e.stage.LiveFetch i n visit
  /-- Every list that is mounted is one of the active controller. -/
  owned : ∀ (k : Nat) (p : Pager), e.stage.pagers[k]? = some p → p.mounted = true →
    ∃ i c, e.router.active = some (.controller i) ∧ e.stage.controllers[i]? = some c ∧ k ∈ c.nested
  /-- At most one request is live. -/
  request : ∀ (m n : Nat) (t u : StageTask),
    e.stage.schedule.ledger[m]? = some (t, JobStatus.live) →
    e.stage.schedule.ledger[n]? = some (u, JobStatus.live) → m = n
  /-- At most one list is mounted. -/
  list : ∀ (j k : Nat) (p q : Pager), e.stage.pagers[j]? = some p → p.mounted = true →
    e.stage.pagers[k]? = some q → q.mounted = true → j = k
  /-- If none is, the list container is empty and has no controls. -/
  container : (∀ (k : Nat) (p : Pager), e.stage.pagers[k]? = some p → p.mounted = false) →
    e.stage.screen.containers = [{ items := "", controls := none }]

/-- Whatever is visited and left, whatever is answered, and in which order ever the jobs run, the
surfaces of the standard sidebar have one owner. -/
theorem exclusive_ownership (settings : Settings) :
    ∃ start, Explorer.new settings true = .ok start ∧
      ∀ history : List Happening, (start.run history).OneOwner := by
  obtain ⟨start, made, stage, -, orderly⟩ := new_eq settings true
  refine ⟨start, made, fun history => ?_⟩
  have exclusive := (orderly.run (specs_plain settings true) history).exclusive
  refine ⟨?_, ?_, ?_, ?_, ?_⟩
  · intro i c at_i other
    exact exclusive.not_active at_i fun own => other ((owner_eq_some _ i).mp own)
  · intro k p at_k on
    obtain ⟨i, c, is_active, at_i, member, -⟩ := exclusive.owned_by_active at_k on
    exact ⟨i, c, (owner_eq_some _ i).mp is_active, at_i, member⟩
  · exact fun m n t u at_m at_n => exclusive.single_live at_m at_n
  · exact fun j k p q at_j on_p at_k on_q => exclusive.single_mounted at_j on_p at_k on_q
  · intro off
    have empty := exclusive.tidy.empty off
    have width := start.run_width history
    rw [stage] at width
    obtain ⟨only, containers⟩ := List.length_eq_one_iff.mp width
    rw [Screen.container, containers] at empty
    rw [containers]
    exact congrArg (fun c => [c]) empty

end Explorer

end MapSidebar
