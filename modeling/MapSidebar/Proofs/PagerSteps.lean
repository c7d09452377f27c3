import MapSidebar.Proofs.Linked

/-!
# What becomes of a pager

Whatever happens on a stage comes to one of five things for a pager: it is left as it is, asks for
a page, shows the page that it waited for, gives up waiting, or is taken off its container.
`PagerStep` says which of them a happening is, and a pager that is new waits for its first page. Where
only one pager is concerned these are all that has to be known of a happening.
-/
namespace MapSidebar.Stage

/-- A happening takes pager `k` off its container, by itself or because the controller that owns it
lets go of everything. -/
def Unmounts (s : Stage) (k : Nat) : Happening → Prop
  | .action (.unmount j) => j = k
  | .action (.load i _) | .action (.unload i) => ∃ c, s.controllers[i]? = some c ∧ k ∈ c.nested
  | _ => False

/-- What a happening does to pager `k`, which is `p`. -/
inductive PagerStep (s : Stage) (k : Nat) (p : Pager) (h : Happening) : Pager → Prop where
  | kept : (∀ m target, h = .action (.move k m) → p.request? m ≠ .ok (some target)) →
    (∀ n ticket request a, s.turnOf h = some n → ¬ s.HasAnswer n (.page k ticket request) a) →
    ¬ s.Unmounts k h → PagerStep s k p h p
  | issued {m : PageMove} {target : PageTarget} : h = .action (.move k m) →
    p.request? m = .ok (some target) → PagerStep s k p h (p.issue target s.schedule.nextJob)
  | shown {n : Nat} {ticket : Ticket} {request : Request} {a : Answer} {page : PageResponse} :
    s.turnOf h = some n → s.HasAnswer n (.page k ticket request) a → Pager.pageOf a = .ok page →
    PagerStep s k p h (p.showing page)
  | failed {n : Nat} {ticket : Ticket} {request : Request} {a : Answer} {e : FetchError} :
    s.turnOf h = some n → s.HasAnswer n (.page k ticket request) a → Pager.pageOf a = .error e →
    PagerStep s k p h p.settled
  | unmounted (sequence : Sequence) : s.Unmounts k h →
    PagerStep s k p h { p.unmounted with sequence }

/-- Pager `k` has been mounted and waits for its first page, and nothing else has become of it. -/
def IsNew (s : Stage) (k : Nat) (p : Pager) : Prop :=
  ∃ (container : Nat) (options : PagerOptions) (job : Nat) (ticket : Ticket),
    p = Pager.issue { container, options } options.mode.first job ∧
    s.schedule.ledger[job]? = some (.page k ticket (p.requestFor options.mode.first), .live)

variable {s t : Stage} {k n : Nat} {p q : Pager}

/-! ## Pagers that are taken away -/

theorem unmount_pager_self (at_k : s.pagers[k]? = some p) :
    (s.unmount k).pagers[k]? = some p.unmounted := by
  rw [unmount_eq at_k]
  exact List.getElem?_set_self (List.getElem?_eq_some_iff.mp at_k).1

theorem unmount_pager_other (s : Stage) {j : Nat} (other : j ≠ k) :
    (s.unmount j).pagers[k]? = s.pagers[k]? := by
  cases at_j : s.pagers[j]? with
  | none => rw [unmount_of_none at_j]
  | some q =>
    rw [unmount_eq at_j]
    exact List.getElem?_set_ne other

/-- Of the pagers that are taken away one after the other, each is unmounted, and no other is
changed. -/
theorem unmounts_pager (ks : List Nat) (at_k : s.pagers[k]? = some p) :
    (k ∉ ks ∧ (ks.foldl unmount s).pagers[k]? = some p) ∨
      (k ∈ ks ∧ ∃ sequence, (ks.foldl unmount s).pagers[k]? =
        some { p.unmounted with sequence }) := by
  induction ks generalizing s p with
  | nil => exact .inl ⟨by simp, at_k⟩
  | cons j ks ih =>
    by_cases same : j = k
    · subst same
      refine .inr ⟨by simp, ?_⟩
      rcases ih (unmount_pager_self at_k) with ⟨-, last⟩ | ⟨-, sequence, again⟩
      · exact ⟨_, last⟩
      · exact ⟨sequence, again⟩
    · rcases ih ((s.unmount_pager_other same).trans at_k) with ⟨absent, kept⟩ | ⟨inside, gone⟩
      · exact .inl ⟨by simp [Ne.symm same, absent], kept⟩
      · exact .inr ⟨by simp [inside], gone⟩

theorem release_pager (c : Controller) (at_k : s.pagers[k]? = some p) :
    (k ∉ c.nested ∧ (s.release c).pagers[k]? = some p) ∨
      (k ∈ c.nested ∧ ∃ sequence, (s.release c).pagers[k]? =
        some { p.unmounted with sequence }) := by
  have stopped : (s.abort c.task).pagers[k]? = some p := by rwa [abort_eq]
  exact unmounts_pager c.nested stopped

theorem release_pagers_length (s : Stage) (c : Controller) :
    (s.release c).pagers.length = s.pagers.length := by
  refine s.release_induction (motive := fun t => t.pagers.length = s.pagers.length) c rfl ?_
  intro t j _ same
  rw [← same]
  cases at_j : t.pagers[j]? with
  | none => rw [unmount_of_none at_j]
  | some q => rw [unmount_eq at_j, List.length_set]

/-- The pagers once controller `i`, if it is there, has let go of everything. -/
def pagersAfterRelease (s : Stage) (i : Nat) : List Pager :=
  match s.controllers[i]? with
  | some c => (s.release c).pagers
  | none => s.pagers

theorem load_pagers (s : Stage) (i : Nat) (visit : Visit) :
    (s.load i visit).pagers = s.pagersAfterRelease i := by
  unfold pagersAfterRelease
  cases at_i : s.controllers[i]? with
  | none => rw [load_of_none at_i]
  | some c => rw [load_eq at_i]; rfl

theorem unload_pagers (s : Stage) (i : Nat) : (s.unload i).pagers = s.pagersAfterRelease i := by
  unfold pagersAfterRelease
  cases at_i : s.controllers[i]? with
  | none => rw [unload_of_none at_i]
  | some c => rw [unload_eq at_i, writeAll_pagers]; rfl

theorem pagersAfterRelease_length (s : Stage) (i : Nat) :
    (s.pagersAfterRelease i).length = s.pagers.length := by
  unfold pagersAfterRelease
  split
  · exact s.release_pagers_length _
  · rfl

/-! ## Pagers that are mounted -/

theorem mount_pagers (s : Stage) (container : Nat) (options : PagerOptions) :
    (s.mount container options).pagers = s.pagers ++
      [Pager.issue { container, options } options.mode.first s.schedule.nextJob] := by
  rw [mount, issuePage_eq, List.set_append_right _ _ (Nat.le_refl _), Nat.sub_self]
  rfl

theorem mount_pager_old (container : Nat) (options : PagerOptions) (at_k : s.pagers[k]? = some p) :
    (s.mount container options).pagers[k]? = some p := by
  rw [mount_pagers, List.getElem?_append_left (List.getElem?_eq_some_iff.mp at_k).1, at_k]

theorem mount_ledger (s : Stage) (container : Nat) (options : PagerOptions) :
    (s.mount container options).schedule.ledger = s.schedule.ledger ++
      [(.page s.pagers.length (Pager.nextTicket { container, options })
        (Pager.requestFor { container, options } options.mode.first), .live)] := by
  rw [mount, issuePage_eq, Schedule.ledger_start]
  rfl

theorem mount_isNew (container : Nat) (options : PagerOptions) (absent : s.pagers[k]? = none)
    (at_k : (s.mount container options).pagers[k]? = some q) :
    (s.mount container options).IsNew k q := by
  rw [List.getElem?_eq_none_iff] at absent
  rw [mount_pagers] at at_k
  have bound := (List.getElem?_eq_some_iff.mp at_k).1
  rw [List.length_append, List.length_singleton] at bound
  obtain rfl : k = s.pagers.length := by omega
  rw [List.getElem?_concat_length, Option.some.injEq] at at_k
  subst at_k
  refine ⟨container, options, s.schedule.nextJob, Pager.nextTicket { container, options }, rfl, ?_⟩
  rw [mount_ledger]
  refine Ledger.append_entry.mpr (.inr ⟨?_, rfl, rfl⟩)
  rw [Schedule.ledger_length, Schedule.nextJob]

theorem IsNew.mount (new : s.IsNew k p) (container : Nat) (options : PagerOptions) :
    (s.mount container options).IsNew k p := by
  obtain ⟨at_container, its_options, job, ticket, made, at_job⟩ := new
  refine ⟨at_container, its_options, job, ticket, made, ?_⟩
  rw [mount_ledger]
  exact Ledger.append_entry.mpr (.inl at_job)

/-- What a controller does once its content is shown leaves all pagers as they are and may mount new
ones. -/
theorem acts_pagers (s : Stage) (i : Nat) (actions : List ReadyAction) (k : Nat) :
    (∀ p, s.pagers[k]? = some p → (actions.foldl (act i) s).pagers[k]? = some p) ∧
      ∀ q, s.pagers[k]? = none → (actions.foldl (act i) s).pagers[k]? = some q →
        (actions.foldl (act i) s).IsNew k q := by
  refine List.foldlRecOn actions (act i) (motive := fun t : Stage =>
    (∀ p, s.pagers[k]? = some p → t.pagers[k]? = some p) ∧
      ∀ q, s.pagers[k]? = none → t.pagers[k]? = some q → t.IsNew k q) ⟨?_, ?_⟩ ?_
  · exact fun p at_k => at_k
  · intro q absent at_k
    cases absent.symm.trans at_k
  · rintro t ⟨old, new⟩ action -
    cases action with
    | write w => exact ⟨old, new⟩
    | mount container options =>
      refine ⟨fun p at_k => mount_pager_old container options (old p at_k), ?_⟩
      intro q absent at_k
      cases before : t.pagers[k]? with
      | none => exact mount_isNew container options before at_k
      | some p =>
        cases (mount_pager_old container options before).symm.trans at_k
        exact (new q absent before).mount container options

/-! ## Turns -/

/-- A job that passes its turn has no answer to use. -/
theorem not_hasAnswer_of_passes {schedule : Schedule StageTask}
    (passes : s.schedule.Passes StageTask.request n schedule) {task : StageTask} {a : Answer} :
    ¬ s.HasAnswer n task a := by
  intro ready
  cases passes with
  | absent at_n => cases at_n.symm.trans ready
  | idle at_n _ idle =>
    cases at_n.symm.trans ready
    cases idle
  | gone at_n aborted =>
    cases at_n.symm.trans ready
    cases aborted
  | send at_n queued _ =>
    cases at_n.symm.trans ready
    cases queued

/-- A turn lets pager `k` use an answer, or leaves it alone. -/
theorem turn_pager (linked : s.Linked) (at_k : s.pagers[k]? = some p) (n : Nat) :
    ((s.turn n).pagers[k]? = some p ∧
      ∀ ticket request a, ¬ s.HasAnswer n (.page k ticket request) a) ∨
    ∃ ticket request a, s.HasAnswer n (.page k ticket request) a ∧
      (s.turn n).pagers[k]? = some (match Pager.pageOf a with
        | .ok page => p.showing page
        | .error _ => p.settled) := by
  rcases s.turn_cases n with ⟨schedule, same, passes⟩ | ⟨task, a, ready⟩
  · exact .inl ⟨by rw [same]; exact at_k, fun ticket request a => not_hasAnswer_of_passes passes⟩
  · cases task with
    | content i ticket visit request =>
      refine .inl ⟨?_, fun ticket request b waits => by cases ready.symm.trans waits⟩
      obtain ⟨c, at_i, -, -⟩ := linked.content_waits ready
      rw [linked.turn_content ready at_i]
      split
      · rwa [showContent_pagers]
      · refine (acts_pagers _ i _ k).1 p ?_
        rwa [note_pagers, showContent_pagers]
    | page j ticket request =>
      obtain ⟨q, at_j, -, -⟩ := linked.page_waits ready
      have shown := linked.turn_page_pagers ready at_j
      by_cases own : j = k
      · subst own
        cases at_k.symm.trans at_j
        refine .inr ⟨ticket, request, a, ready, ?_⟩
        rw [shown]
        exact List.getElem?_set_self (List.getElem?_eq_some_iff.mp at_k).1
      · refine .inl ⟨?_, fun ticket request b waits => ?_⟩
        · rw [shown, List.getElem?_set_ne own, at_k]
        · cases ready.symm.trans waits
          exact own rfl

theorem turn_isNew (linked : s.Linked) (absent : s.pagers[k]? = none)
    (at_k : (s.turn n).pagers[k]? = some q) : (s.turn n).IsNew k q := by
  rcases s.turn_cases n with ⟨schedule, same, -⟩ | ⟨task, a, ready⟩
  · rw [same] at at_k
    cases absent.symm.trans at_k
  · cases task with
    | content i ticket visit request =>
      obtain ⟨c, at_i, -, -⟩ := linked.content_waits ready
      rw [linked.turn_content ready at_i] at at_k ⊢
      cases decoded : Controller.contentOf a with
      | error e =>
        rw [decoded] at at_k
        dsimp only at at_k
        rw [showContent_pagers] at at_k
        cases absent.symm.trans at_k
      | ok content =>
        rw [decoded] at at_k
        refine (acts_pagers _ i _ k).2 q ?_ at_k
        rwa [note_pagers, showContent_pagers]
    | page j ticket request =>
      obtain ⟨p, at_j, -, -⟩ := linked.page_waits ready
      have length : (s.turn n).pagers.length = s.pagers.length := by
        rw [linked.turn_page_pagers ready at_j, List.length_set]
      have := (List.getElem?_eq_some_iff.mp at_k).1
      have := List.getElem?_eq_none_iff.mp absent
      omega

/-! ## Happenings -/

theorem unmounts_of_turnOf {h : Happening} (given : s.turnOf h = some n) : ¬ s.Unmounts k h := by
  cases h with
  | turn m => exact id
  | action action => cases action <;> first | exact id | cases given

/-- A move asks for what the pager wants, if it wants anything. -/
theorem perform_move (at_k : s.pagers[k]? = some p) (m : PageMove) :
    s.perform (.move k m) = match p.request? m with
      | .ok (some target) => s.issuePage k p target
      | _ => s := by
  cases wanted : p.request? m with
  | error overflow => simp [perform, move, at_k, wanted, Except.map]
  | ok found => cases found <;> simp [perform, move, at_k, wanted, Except.map]

/-- The turn that a happening gives to a job comes to one of three steps. -/
theorem PagerStep.of_turn (linked : s.Linked) (at_k : s.pagers[k]? = some p) {h : Happening}
    (given : s.turnOf h = some n) (turned : s.happen h = s.turn n) :
    ∃ q, (s.happen h).pagers[k]? = some q ∧ s.PagerStep k p h q := by
  rw [turned]
  have no_move : ∀ m, h ≠ .action (.move k m) := by
    rintro m rfl
    cases given
  rcases turn_pager linked at_k n with ⟨same, quiet⟩ | ⟨ticket, request, a, ready, used⟩
  · refine ⟨p, same, .kept (fun m target moved => absurd moved (no_move m)) ?_
      (unmounts_of_turnOf given)⟩
    intro m ticket request a own
    cases given.symm.trans own
    exact quiet ticket request a
  · refine ⟨_, used, ?_⟩
    cases decoded : Pager.pageOf a with
    | ok page => exact .shown given ready decoded
    | error e => exact .failed given ready decoded

/-- When a controller lets go of everything, that unmounts its pagers and no other. -/
theorem PagerStep.of_release (at_k : s.pagers[k]? = some p) {h : Happening} {i : Nat}
    (pagers : (s.happen h).pagers = s.pagersAfterRelease i)
    (unmounts : s.Unmounts k h ↔ ∃ c, s.controllers[i]? = some c ∧ k ∈ c.nested)
    (no_move : ∀ m, h ≠ .action (.move k m)) (no_turn : s.turnOf h = none) :
    ∃ q, (s.happen h).pagers[k]? = some q ∧ s.PagerStep k p h q := by
  have kept : ¬ s.Unmounts k h → s.PagerStep k p h p :=
    .kept (fun m target moved => absurd moved (no_move m))
      (fun n ticket request a given => by cases no_turn.symm.trans given)
  rw [pagers, pagersAfterRelease]
  cases at_i : s.controllers[i]? with
  | none => exact ⟨p, at_k, kept (by simp [unmounts, at_i])⟩
  | some c =>
    rcases release_pager c at_k with ⟨outside, same⟩ | ⟨inside, sequence, gone⟩
    · exact ⟨p, same, kept (by simp [unmounts, at_i, outside])⟩
    · exact ⟨_, gone, .unmounted sequence (unmounts.mpr ⟨c, at_i, inside⟩)⟩

/-- Whatever happens to a pager is one of its steps. -/
theorem pager_step (linked : s.Linked) (at_k : s.pagers[k]? = some p) (h : Happening) :
    ∃ q, (s.happen h).pagers[k]? = some q ∧ s.PagerStep k p h q := by
  rcases s.happen_cases h with ⟨n, given, turned⟩ | ⟨none_given, -⟩
  · exact PagerStep.of_turn linked at_k given turned
  have no_turn : ∀ n ticket request a, s.turnOf h = some n →
      ¬ s.HasAnswer n (.page k ticket request) a := by
    intro n ticket request a given
    cases none_given.symm.trans given
  cases h with
  | turn n => cases none_given
  | action action =>
    cases action with
    | load i visit =>
      exact PagerStep.of_release at_k (s.load_pagers i visit) Iff.rfl (by simp) none_given
    | unload i => exact PagerStep.of_release at_k (s.unload_pagers i) Iff.rfl (by simp) none_given
    | mount container options =>
      exact ⟨p, mount_pager_old container options at_k, .kept (by simp) no_turn id⟩
    | move j m =>
      by_cases own : j = k
      · subst own
        rw [happen, perform_move at_k]
        split
        next target wanted =>
          rw [issuePage_eq]
          exact ⟨_, List.getElem?_set_self (List.getElem?_eq_some_iff.mp at_k).1,
            .issued rfl wanted⟩
        next refused =>
          refine ⟨p, at_k, .kept ?_ no_turn id⟩
          rintro m' target moved wanted
          cases moved
          exact refused target wanted
      · refine ⟨p, ?_, .kept ?_ no_turn id⟩
        · rcases s.perform_move_cases j m with same | ⟨p', target, -, -, issued⟩
          · rwa [happen, same]
          · rw [happen, issued, issuePage_eq]
            exact (List.getElem?_set_ne own).trans at_k
        · intro m' target moved
          cases moved
          exact absurd rfl own
    | unmount j =>
      rw [happen, perform]
      by_cases own : j = k
      · subst own
        exact ⟨_, unmount_pager_self at_k, .unmounted _ rfl⟩
      · exact ⟨p, (s.unmount_pager_other own).trans at_k, .kept (by simp) no_turn own⟩
    | answer request a => exact ⟨p, at_k, .kept (by simp) no_turn id⟩
    | step =>
      rcases s.step_cases with ⟨-, same⟩ | ⟨n, rest, agenda, -⟩
      · exact ⟨p, by rwa [happen, perform, same], .kept (by simp) no_turn id⟩
      · simp [turnOf, agenda] at none_given

theorem PagerStep.options_eq {h : Happening} (step : s.PagerStep k p h q) :
    q.options = p.options := by
  cases step <;> rfl

theorem PagerStep.container_eq {h : Happening} (step : s.PagerStep k p h q) :
    q.container = p.container := by
  cases step <;> rfl

/-- A pager that was not there before has just been mounted. -/
theorem isNew_of_happen (linked : s.Linked) (absent : s.pagers[k]? = none) {h : Happening}
    (at_k : (s.happen h).pagers[k]? = some q) : (s.happen h).IsNew k q := by
  rcases s.happen_cases h with ⟨n, -, turned⟩ | ⟨none_given, -⟩
  · rw [turned] at at_k ⊢
    exact turn_isNew linked absent at_k
  have gone := List.getElem?_eq_none_iff.mp absent
  have there := (List.getElem?_eq_some_iff.mp at_k).1
  cases h with
  | turn n => cases none_given
  | action action =>
    cases action with
    | mount container options => exact mount_isNew container options absent at_k
    | load i visit =>
      rw [happen, perform, load_pagers, pagersAfterRelease_length] at there
      omega
    | unload i =>
      rw [happen, perform, unload_pagers, pagersAfterRelease_length] at there
      omega
    | move j m =>
      rcases s.perform_move_cases j m with same | ⟨p', target, -, -, issued⟩
      · rw [happen, same] at there
        omega
      · rw [happen, issued, issuePage_eq, List.length_set] at there
        omega
    | unmount j =>
      rw [happen, perform] at there
      cases at_j : s.pagers[j]? with
      | none =>
        rw [unmount_of_none at_j] at there
        omega
      | some p' =>
        rw [unmount_eq at_j, List.length_set] at there
        omega
    | answer request a => exact absurd there (by simpa [happen, perform] using gone)
    | step =>
      rcases s.step_cases with ⟨-, same⟩ | ⟨n, rest, agenda, -⟩
      · rw [happen, perform, same] at there
        omega
      · simp [turnOf, agenda] at none_given

end MapSidebar.Stage
