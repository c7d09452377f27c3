import MapSidebar.Proofs.NestedLists
import MapSidebar.Proofs.Phases

/-!
# Whose doing it is

Whatever can be seen of a run is the doing of a controller or of a pager. A pager clears its container
when it is taken away, and writes to it and calls its hook when it has its answer; a controller clears
the surfaces when it unloads, and shows its content and acts on it when it has its answer. `DoneBy`
says this of one happening, and the log of a run grows by nothing else.
-/
namespace MapSidebar

def writesOf (actions : List ReadyAction) : List ScreenWrite :=
  actions.filterMap fun
    | .write w => some w
    | .mount _ _ => none

theorem mem_writesOf {actions : List ReadyAction} {w : ScreenWrite} :
    w ∈ writesOf actions ↔ .write w ∈ actions := by
  induction actions with
  | nil => simp [writesOf]
  | cons action actions ih => cases action <;> simp_all [writesOf]

namespace Stage

/-- In a happening an owner lets something be seen. -/
inductive DoneBy (s : Stage) (h : Happening) : Owner → StageEvent → Prop where
  | cleared {k : Nat} {p : Pager} {w : ContainerWrite} : s.pagers[k]? = some p →
    s.Unmounts k h → w ∈ Pager.unmountWrites →
    DoneBy s h (.pager k) (.write (.container p.container w))
  | page {n k : Nat} {ticket : Ticket} {request : Request} {a : Answer} {p : Pager}
    (w : ContainerWrite) : s.turnOf h = some n → s.HasAnswer n (.page k ticket request) a →
    s.pagers[k]? = some p → DoneBy s h (.pager k) (.write (.container p.container w))
  | hook {n k : Nat} {ticket : Ticket} {request : Request} {a : Answer} (items : String) :
    s.turnOf h = some n → s.HasAnswer n (.page k ticket request) a →
    DoneBy s h (.pager k) (.hook k items)
  | unloaded {i : Nat} {c : Controller} {w : ScreenWrite} : h = .action (.unload i) →
    s.controllers[i]? = some c → w ∈ c.unloadWrites → DoneBy s h (.controller i) (.write w)
  | content {n i : Nat} {ticket : Ticket} {visit : Visit} {request : Request} {a : Answer}
    {w : ScreenWrite} : s.turnOf h = some n → s.HasAnswer n (.content i ticket visit request) a →
    w ∈ Controller.showWrites (Controller.contentOf a) → DoneBy s h (.controller i) (.write w)
  | ready {n i : Nat} {ticket : Ticket} {visit : Visit} {request : Request} {a : Answer}
    (structured : Bool) : s.turnOf h = some n →
    s.HasAnswer n (.content i ticket visit request) a →
    DoneBy s h (.controller i) (.ready i visit structured)
  | acted {n i : Nat} {ticket : Ticket} {visit : Visit} {request : Request} {a : Answer}
    {c : Controller} {content : PartialContent} {w : ScreenWrite} : s.turnOf h = some n →
    s.HasAnswer n (.content i ticket visit request) a → s.controllers[i]? = some c →
    Controller.contentOf a = .ok content → .write w ∈ c.spec.onReady visit content →
    DoneBy s h (.controller i) (.write w)

variable {s t : Stage} {i k n : Nat} {c : Controller} {p : Pager} {h : Happening}

/-! ## What each call adds to the log -/

theorem acts_writes (s : Stage) (i : Nat) (actions : List ReadyAction) :
    (actions.foldl (act i) s).log = s.log ++ (writesOf actions).map .write := by
  induction actions generalizing s with
  | nil => simp [writesOf]
  | cons action actions ih =>
    rw [List.foldl_cons, ih]
    cases action with
    | write w => simp [act, write, writesOf]
    | mount container options => simp [act, attach, writesOf]

/-- Letting go of everything clears the containers of the pagers that the controller owns. -/
theorem release_log (s : Stage) (c : Controller) : ∃ doings : List (Owner × StageEvent),
    (s.release c).log = s.log ++ doings.map Prod.snd ∧ ∀ o e, (o, e) ∈ doings →
      ∃ k ∈ c.nested, ∃ p, s.pagers[k]? = some p ∧ o = .pager k ∧
        ∃ w ∈ Pager.unmountWrites, e = .write (.container p.container w) := by
  -- A pager that is taken away is changed, but its container stays the same.
  refine (s.release_induction (motive := fun t =>
    (∃ doings : List (Owner × StageEvent), t.log = s.log ++ doings.map Prod.snd ∧
      ∀ o e, (o, e) ∈ doings → ∃ k ∈ c.nested, ∃ p, s.pagers[k]? = some p ∧ o = .pager k ∧
        ∃ w ∈ Pager.unmountWrites, e = .write (.container p.container w)) ∧
    ∀ (k : Nat) (q : Pager), t.pagers[k]? = some q →
      ∃ p, s.pagers[k]? = some p ∧ p.container = q.container)
    c ⟨⟨[], by simp, by simp⟩, fun k q at_k => ⟨q, at_k, rfl⟩⟩ ?_).1
  intro t k inside ⟨⟨doings, log, done⟩, same⟩
  cases at_k : t.pagers[k]? with
  | none =>
    rw [unmount_of_none at_k]
    exact ⟨⟨doings, log, done⟩, same⟩
  | some q =>
    obtain ⟨p, at_k', container⟩ := same k q at_k
    refine ⟨⟨doings ++ Pager.unmountWrites.map fun w =>
      (.pager k, .write (.container q.container w)), ?_, ?_⟩, ?_⟩
    · rw [unmount_eq at_k, log]
      simp [Function.comp_def]
    · intro o e member
      rcases List.mem_append.mp member with old | new
      · exact done o e old
      · obtain ⟨w, known, equal⟩ := List.mem_map.mp new
        cases equal
        exact ⟨k, inside, p, at_k', rfl, w, known, by rw [container]⟩
    · intro j r at_j
      by_cases own : k = j
      · subst own
        cases (unmount_pager_self at_k).symm.trans at_j
        exact ⟨p, at_k', container⟩
      · rw [t.unmount_pager_other own] at at_j
        exact same j r at_j

/-- The log of a happening is told by who has done what. -/
def Tells (s : Stage) (h : Happening) (log : List StageEvent) : Prop :=
  ∃ doings : List (Owner × StageEvent), log = s.log ++ doings.map Prod.snd ∧
    ∀ o e, (o, e) ∈ doings → s.DoneBy h o e

namespace Tells

theorem nothing (s : Stage) (h : Happening) : s.Tells h s.log := ⟨[], by simp, by simp⟩

theorem append {log : List StageEvent} (tells : s.Tells h log) (o : Owner)
    (events : List StageEvent) (done : ∀ e ∈ events, s.DoneBy h o e) :
    s.Tells h (log ++ events) := by
  obtain ⟨doings, rfl, old⟩ := tells
  refine ⟨doings ++ events.map (o, ·), by simp [Function.comp_def], ?_⟩
  intro o' e member
  rcases List.mem_append.mp member with before | new
  · exact old o' e before
  · obtain ⟨e', known, equal⟩ := List.mem_map.mp new
    cases equal
    exact done e known

theorem release (gone : ∀ k ∈ c.nested, s.Unmounts k h) :
    s.Tells h (s.release c).log := by
  obtain ⟨doings, log, done⟩ := s.release_log c
  refine ⟨doings, log, fun o e member => ?_⟩
  obtain ⟨k, inside, p, at_k, rfl, w, known, rfl⟩ := done o e member
  exact .cleared at_k (gone k inside) known

theorem writeContainer {log : List StageEvent} (tells : s.Tells h log) (o : Owner) {m : Nat}
    (ws : List ContainerWrite) (done : ∀ w ∈ ws, s.DoneBy h o (.write (.container m w))) :
    s.Tells h (log ++ ws.map fun w => .write (.container m w)) := by
  refine tells.append o _ fun e member => ?_
  obtain ⟨w, known, rfl⟩ := List.mem_map.mp member
  exact done w known

theorem writes {log : List StageEvent} (tells : s.Tells h log) (o : Owner) (ws : List ScreenWrite)
    (done : ∀ w ∈ ws, s.DoneBy h o (.write w)) : s.Tells h (log ++ ws.map .write) := by
  refine tells.append o _ fun e member => ?_
  obtain ⟨w, known, rfl⟩ := List.mem_map.mp member
  exact done w known

/-- In the turn of a fetch its controller shows what has been answered. -/
theorem turn_content {i : Nat} {ticket : Ticket} {visit : Visit} {request : Request} {a : Answer}
    (linked : s.Linked) (given : s.turnOf h = some n)
    (ready : s.HasAnswer n (.content i ticket visit request) a) : s.Tells h (s.turn n).log := by
  obtain ⟨c, at_i, -, -⟩ := linked.content_waits ready
  have shown : s.Tells h (s.log ++
      (Controller.showWrites (Controller.contentOf a)).map .write) :=
    (nothing s h).writes _ _ fun w known => .content given ready known
  rw [linked.turn_content ready at_i]
  cases decoded : Controller.contentOf a with
  | error e =>
    rw [decoded] at shown
    dsimp only
    rw [showContent, writeAll_eq]
    exact shown
  | ok content =>
    rw [decoded] at shown
    have noted := shown.append (.controller i) [.ready i visit content.payload?.isSome]
      fun e member => by
        cases List.mem_singleton.mp member
        exact .ready _ given ready
    rw [acts_writes, note_log, showContent, writeAll_eq]
    exact noted.writes (.controller i) _ fun w member =>
      .acted given ready at_i decoded (mem_writesOf.mp member)

/-- In the turn of a request its pager shows what has been answered. -/
theorem turn_page {k : Nat} {ticket : Ticket} {request : Request} {a : Answer} (linked : s.Linked)
    (given : s.turnOf h = some n) (ready : s.HasAnswer n (.page k ticket request) a) :
    s.Tells h (s.turn n).log := by
  obtain ⟨p, at_k, -, -⟩ := linked.page_waits ready
  have written : ∀ {log}, s.Tells h log → ∀ ws : List ContainerWrite,
      s.Tells h (log ++ ws.map fun w => .write (.container p.container w)) :=
    fun tells ws => tells.writeContainer (.pager k) ws fun w _ => .page w given ready at_k
  rw [linked.turn_page ready at_k]
  cases decoded : Pager.pageOf a with
  | error e =>
    dsimp only
    rw [failPage, writeContainer_eq]
    exact written (.nothing s h) _
  | ok page =>
    dsimp only
    have shown : s.Tells h ((s.finish n).showPage k p page).log := by
      rw [showPage, writeContainer_eq]
      exact written (.nothing s h) _
    cases made : p.options.hook with
    | none =>
      rw [runHook, made]
      exact shown
    | some hook =>
      rw [runHook_log _ k p made, ← List.singleton_append, ← List.append_assoc]
      have called := shown.append (.pager k) [.hook k
          (((s.finish n).showPage k p page).screen.container p.container).items]
        fun e member => by
          cases List.mem_singleton.mp member
          exact .hook _ given ready
      have dressed := written called ((hook
        (((s.finish n).showPage k p page).screen.container p.container).items).map .items)
      simpa [Function.comp_def] using dressed

/-- In its turn a job lets its owner use its answer. -/
theorem turn (linked : s.Linked) (given : s.turnOf h = some n) : s.Tells h (s.turn n).log := by
  rcases s.turn_cases n with ⟨schedule, same, -⟩ | ⟨task, a, ready⟩
  · rw [same]
    exact .nothing s h
  · cases task with
    | content i ticket visit request => exact turn_content linked given ready
    | page k ticket request => exact turn_page linked given ready

end Tells

/-- Whatever can be seen of a happening is somebody's doing. -/
theorem happen_tells (linked : s.Linked) (h : Happening) : s.Tells h (s.happen h).log := by
  rcases s.happen_cases h with ⟨n, given, turned⟩ | ⟨none_given, -⟩
  · rw [turned]
    exact .turn linked given
  cases h with
  | turn n => cases none_given
  | action action =>
    rw [happen]
    cases action with
    | load i visit =>
      cases at_i : s.controllers[i]? with
      | none =>
        rw [perform, load_of_none at_i]
        exact .nothing s _
      | some c =>
        rw [perform, load_eq at_i]
        exact Tells.release (h := .action (.load i visit)) fun k inside => ⟨c, at_i, inside⟩
    | unload i =>
      cases at_i : s.controllers[i]? with
      | none =>
        rw [perform, unload_of_none at_i]
        exact .nothing s _
      | some c =>
        rw [perform, unload_eq at_i, writeAll_eq]
        exact (Tells.release (h := .action (.unload i)) fun k inside => ⟨c, at_i, inside⟩).writes
          (.controller i) _ fun w known => .unloaded rfl at_i known
    | mount container options =>
      rw [perform, mount_log]
      exact .nothing s _
    | move k m =>
      rcases s.perform_move_cases k m with same | ⟨p, target, -, -, issued⟩
      · rw [same]
        exact .nothing s _
      · rw [issued, issuePage_log]
        exact .nothing s _
    | unmount k =>
      rw [perform]
      cases at_k : s.pagers[k]? with
      | none =>
        rw [unmount_of_none at_k]
        exact .nothing s _
      | some p =>
        rw [unmount_eq at_k]
        exact (Tells.nothing s _).writeContainer (.pager k) _ fun w known => .cleared at_k rfl known
    | answer request a => exact .nothing s _
    | step =>
      rcases s.step_cases with ⟨-, same⟩ | ⟨n, rest, agenda, -⟩
      · rw [perform, same]
        exact .nothing s _
      · simp [turnOf, agenda] at none_given

theorem run_cons (s : Stage) (h : Happening) (later : List Happening) :
    s.run (h :: later) = (s.happen h).run later := rfl

/-- Whatever can be seen of a run is somebody's doing in one of its happenings. -/
theorem run_tells (linked : s.Linked) (later : List Happening) :
    ∃ doings : List (Owner × StageEvent), (s.run later).log = s.log ++ doings.map Prod.snd ∧
      ∀ o e, (o, e) ∈ doings → ∃ before h after, later = before ++ h :: after ∧
        (s.run before).DoneBy h o e := by
  induction later generalizing s with
  | nil => exact ⟨[], by simp [run], by simp⟩
  | cons h later ih =>
    obtain ⟨first, log, done⟩ := happen_tells linked h
    obtain ⟨rest, log', done'⟩ := ih (linked.happen h)
    refine ⟨first ++ rest, ?_, ?_⟩
    · rw [run_cons, log', log, List.map_append, List.append_assoc]
    · intro o e member
      rcases List.mem_append.mp member with early | late
      · exact ⟨[], h, later, rfl, done o e early⟩
      · obtain ⟨before, h', after, rfl, does⟩ := done' o e late
        exact ⟨h :: before, h', after, rfl, does⟩

/-! ## Requests -/

/-- A request is sent in the turn of its job, which is live. -/
theorem happen_posts (s : Stage) (h : Happening) :
    (s.happen h).schedule.posts = s.schedule.posts ∨
      ∃ n task, s.turnOf h = some n ∧ s.schedule.ledger[n]? = some (task, .live) ∧
        (s.happen h).schedule.posts = s.schedule.posts ++ [(n, task.request)] := by
  rcases s.happen_cases h with ⟨n, given, turned⟩ | ⟨-, calls⟩
  · rw [turned]
    rcases s.turn_cases n with ⟨schedule, same, passes⟩ | ⟨task, a, ready⟩
    · rw [same]
      cases passes with
      | absent _ | idle _ _ _ => exact .inl rfl
      | gone at_n _ => exact .inl (by simp [Schedule.posts])
      | @send j at_n queued kept =>
        refine .inr ⟨n, j.task, given, ?_, by simp [Schedule.posts]⟩
        rw [Schedule.ledger_of_job at_n, Job.status_eq_live.mpr ⟨kept, by simp [queued]⟩]
    · rw [turn_of_hasAnswer ready, ((s.finish n).applyTask_calls a task).posts]
      exact .inl (by simp [finish, Schedule.posts])
  · exact .inl calls.posts

end Stage

end MapSidebar
