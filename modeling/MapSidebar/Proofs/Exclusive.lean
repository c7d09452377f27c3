import MapSidebar.Proofs.Fetches
import MapSidebar.Proofs.Pages
import MapSidebar.Route.Standard

/-!
# One owner of the surfaces

On a stage with exclusive ownership at most one controller is not idle, and all that is mounted is
its one list. The sidebar and the focus are empty as long as no controller owns them, and so is the
list container as long as no list is mounted.
-/
namespace MapSidebar

/-- A controller that highlights the geometry of its content and may mount one list on the first
container. -/
def ControllerSpec.Plain (spec : ControllerSpec) : Prop :=
  ∀ visit content, ∃ list : Option PagerOptions,
    spec.onReady visit content = StandardRoute.highlight content ++ list.toList.map (.mount 0)

theorem StandardRoute.spec_plain (settings : Settings) {container : Option Nat}
    (first : container = none ∨ container = some 0) (route : StandardRoute) :
    (route.spec settings container).Plain := by
  intro visit content
  rcases first with rfl | rfl
  · exact ⟨none, by simp [spec, mountList]⟩
  · refine ⟨route.nested settings visit, ?_⟩
    cases wanted : route.nested settings visit <;> simp [spec, mountList, wanted]

theorem Screen.container_update (s : Screen) (k : Nat) :
    (s.update k fun _ => {}).container k = {} := by
  simp only [update, container, List.getD_eq_getElem?_getD, List.getElem?_modify_eq]
  cases s.containers[k]? <;> rfl

theorem ScreenWrite.apply_width (w : ScreenWrite) (s : Screen) :
    (w.apply s).containers.length = s.containers.length := by
  cases w <;> simp [apply]

namespace Stage

/-! ## Containers are written to, and none is lost -/

theorem writeAll_width (s : Stage) (ws : List ScreenWrite) :
    (s.writeAll ws).screen.containers.length = s.screen.containers.length := by
  induction ws generalizing s with
  | nil => rfl
  | cons w ws ih => exact (ih (s.write w)).trans (w.apply_width s.screen)

theorem unmount_width (s : Stage) (k : Nat) :
    (s.unmount k).screen.containers.length = s.screen.containers.length := by
  cases at_k : s.pagers[k]? with
  | none => rw [unmount_of_none at_k]
  | some p => simp [unmount_eq at_k, Screen.update]

theorem release_width (s : Stage) (c : Controller) :
    (s.release c).screen.containers.length = s.screen.containers.length :=
  s.release_induction
    (motive := fun t => t.screen.containers.length = s.screen.containers.length) c rfl
    fun t k _ same => (t.unmount_width k).trans same

theorem load_width (s : Stage) (i : Nat) (visit : Visit) :
    (s.load i visit).screen.containers.length = s.screen.containers.length := by
  cases at_i : s.controllers[i]? with
  | none => rw [load_of_none at_i]
  | some c =>
    rw [load_eq at_i]
    exact s.release_width c

theorem unload_width (s : Stage) (i : Nat) :
    (s.unload i).screen.containers.length = s.screen.containers.length := by
  cases at_i : s.controllers[i]? with
  | none => rw [unload_of_none at_i]
  | some c =>
    rw [unload_eq at_i, writeAll_width]
    exact s.release_width c

theorem acts_width (s : Stage) (i : Nat) (actions : List ReadyAction) :
    (actions.foldl (act i) s).screen.containers.length = s.screen.containers.length := by
  refine List.foldlRecOn actions (act i)
    (motive := fun t : Stage => t.screen.containers.length = s.screen.containers.length) rfl ?_
  intro t same action _
  cases action with
  | write w => exact (w.apply_width t.screen).trans same
  | mount container options => rwa [act, attach, mount_screen]

theorem applyTask_width (s : Stage) (a : Answer) (task : StageTask) :
    (s.applyTask a task).screen.containers.length = s.screen.containers.length := by
  cases task with
  | content i ticket visit request =>
    unfold applyTask applyContent
    dsimp only
    split
    · rfl
    · split
      · split
        · exact writeAll_width _ _
        · exact (acts_width _ i _).trans (writeAll_width _ _)
      · rfl
  | page k ticket request =>
    unfold applyTask applyPage
    dsimp only
    split
    · rfl
    · split
      · rfl
      · split
        · unfold runHook
          split
          · exact writeAll_width _ _
          · exact (writeAll_width _ _).trans (writeAll_width _ _)
        · exact writeAll_width _ _

theorem turn_width (s : Stage) (n : Nat) :
    (s.turn n).screen.containers.length = s.screen.containers.length := by
  rcases s.turn_cases n with ⟨schedule, same, -⟩ | ⟨task, a, ready⟩
  · rw [same]
  · rw [turn_of_hasAnswer ready]
    exact applyTask_width (s.finish n) a task

variable {s t : Stage} {i k n : Nat} {c : Controller} {p : Pager}

/-! ## Ownership -/

/-- The first container is the only one that pagers are mounted on, and it holds nothing but what a
mounted pager shows. -/
structure Tidy (s : Stage) : Prop where
  first : ∀ (k : Nat) (p : Pager), s.pagers[k]? = some p → p.container = 0
  empty : (∀ (k : Nat) (p : Pager), s.pagers[k]? = some p → p.mounted = false) →
    s.screen.container 0 = {}

theorem Tidy.unmount (tidy : s.Tidy) (k : Nat) :
    (s.unmount k).Tidy ∧ ∀ (m : Nat) (q : Pager), (s.unmount k).pagers[m]? = some q →
      q.mounted = true → m ≠ k ∧ s.pagers[m]? = some q := by
  cases at_k : s.pagers[k]? with
  | none =>
    rw [unmount_of_none at_k]
    refine ⟨tidy, fun m q at_m _ => ⟨?_, at_m⟩⟩
    rintro rfl
    cases at_k.symm.trans at_m
  | some p =>
    have container := tidy.first k p at_k
    rw [unmount_eq at_k]
    refine ⟨⟨fun m q at_m => ?_, fun _ => ?_⟩, fun m q at_m on => ?_⟩
    · rcases entry_of_set at_m with ⟨rfl, rfl⟩ | ⟨-, at_m⟩
      · exact container
      · exact tidy.first m q at_m
    · rw [container]
      exact s.screen.container_update 0
    · rcases entry_of_set at_m with ⟨rfl, rfl⟩ | ⟨other, at_m⟩
      · cases on
      · exact ⟨Ne.symm other, at_m⟩

/-- A controller that owns all that is mounted leaves nothing of it. -/
theorem Tidy.release (tidy : s.Tidy) (c : Controller)
    (owned : ∀ (k : Nat) (p : Pager), s.pagers[k]? = some p → p.mounted = true → k ∈ c.nested) :
    (s.release c).Tidy ∧ ∀ (k : Nat) (p : Pager), (s.release c).pagers[k]? = some p →
      p.mounted = false := by
  have taken : ∀ (ks : List Nat) (t : Stage), t.Tidy →
      (∀ (k : Nat) (p : Pager), t.pagers[k]? = some p → p.mounted = true → k ∈ ks) →
      (ks.foldl Stage.unmount t).Tidy ∧ ∀ (k : Nat) (p : Pager),
        (ks.foldl Stage.unmount t).pagers[k]? = some p → p.mounted = false := by
    intro ks
    induction ks with
    | nil =>
      exact fun t tidy owned => ⟨tidy, fun k p at_k =>
        Bool.eq_false_iff.mpr fun on => List.not_mem_nil (owned k p at_k on)⟩
    | cons m ks ih =>
      intro t tidy owned
      obtain ⟨tidy', left⟩ := tidy.unmount m
      refine ih (t.unmount m) tidy' fun k p at_k on => ?_
      obtain ⟨other, before⟩ := left k p at_k on
      exact (List.mem_cons.mp (owned k p before on)).resolve_left other
  rw [Stage.release, abort_eq]
  exact taken c.nested _ ⟨tidy.first, tidy.empty⟩ owned

/-- What holds of a stage on which at most the controller `active` owns anything. -/
structure Exclusive (specs : List ControllerSpec) (active : Option Nat) (s : Stage) : Prop where
  linked : s.Linked
  made : s.controllers.map Controller.spec = specs
  busy : ∀ (i : Nat) (c : Controller), s.controllers[i]? = some c →
    (c.state ≠ .idle ↔ active = some i)
  few : ∀ (i : Nat) (c : Controller), s.controllers[i]? = some c → c.nested.length ≤ 1
  owned : ∀ (k : Nat) (p : Pager), s.pagers[k]? = some p → p.mounted = true →
    ∃ (i : Nat) (c : Controller), s.controllers[i]? = some c ∧ k ∈ c.nested
  tidy : s.Tidy
  blank : active = none → s.screen.sidebar = "" ∧ s.screen.focus = none

namespace Exclusive

variable {specs : List ControllerSpec} {active : Option Nat} {visit : Visit}

/-- Whatever is mounted belongs to the active controller, which shows its content. -/
theorem owned_by_active (ex : s.Exclusive specs active) (at_k : s.pagers[k]? = some p)
    (on : p.mounted = true) : ∃ (i : Nat) (c : Controller), active = some i ∧
      s.controllers[i]? = some c ∧ k ∈ c.nested ∧ c.state = .loaded := by
  obtain ⟨i, c, at_i, member⟩ := ex.owned k p at_k on
  have loaded : c.state = .loaded := by
    by_contra other
    rw [(ex.linked.controller i c at_i).bare other] at member
    exact List.not_mem_nil member
  exact ⟨i, c, (ex.busy i c at_i).mp (by simp [loaded]), at_i, member, loaded⟩

/-- A list that is mounted belongs to controller `i` if no other one is active. -/
theorem nested_of_mounted (ex : s.Exclusive specs active) (own : active = none ∨ active = some i)
    (at_i : s.controllers[i]? = some c) (at_k : s.pagers[k]? = some p) (on : p.mounted = true) :
    k ∈ c.nested := by
  obtain ⟨j, d, is_active, at_j, member, -⟩ := ex.owned_by_active at_k on
  rcases own with none_active | own
  · cases none_active.symm.trans is_active
  · cases own.symm.trans is_active
    cases at_i.symm.trans at_j
    exact member

/-- The controllers keep what they are made with. -/
theorem made_set {cs : List Controller} (at_i : cs[i]? = some c) {c' : Controller}
    (same : c'.spec = c.spec) :
    (cs.set i c').map Controller.spec = cs.map Controller.spec := by
  obtain ⟨bound, rfl⟩ := List.getElem?_eq_some_iff.mp at_i
  apply List.ext_getElem?
  intro j
  by_cases equal : i = j
  · subst equal
    simp [bound, same]
  · simp [equal]

/-- Controller `i` is changed and owns all that is mounted: if no other controller is active, it is
active from then on unless it is idle. -/
theorem set_controller (ex : s.Exclusive specs active) (own : active = none ∨ active = some i)
    (at_i : s.controllers[i]? = some c) (c' : Controller) (same : c'.spec = c.spec)
    (few : c'.nested.length ≤ 1) (linked : t.Linked)
    (controllers : t.controllers = s.controllers.set i c') (tidy : t.Tidy)
    (owned : ∀ (k : Nat) (p : Pager), t.pagers[k]? = some p → p.mounted = true → k ∈ c'.nested)
    {active' : Option Nat} (next : active' = if c'.state = .idle then none else some i)
    (blank : active' = none → t.screen.sidebar = "" ∧ t.screen.focus = none) :
    t.Exclusive specs active' := by
  have bound := (List.getElem?_eq_some_iff.mp at_i).1
  refine ⟨linked, ?_, ?_, ?_, ?_, tidy, blank⟩
  · rw [controllers, made_set at_i same, ex.made]
  · intro j d at_j
    rw [controllers] at at_j
    rcases entry_of_set at_j with ⟨rfl, rfl⟩ | ⟨other, at_j⟩
    · rw [next]
      split <;> simp_all
    · have idle : d.state = .idle := by
        by_contra busy
        have is_active := (ex.busy j d at_j).mp busy
        rcases own with none_active | own
        · cases none_active.symm.trans is_active
        · exact other (Option.some.inj (own.symm.trans is_active))
      rw [next]
      split <;> simp [idle, other]
  · intro j d at_j
    rw [controllers] at at_j
    rcases entry_of_set at_j with ⟨rfl, rfl⟩ | ⟨-, at_j⟩
    · exact few
    · exact ex.few j d at_j
  · intro k p at_k on
    refine ⟨i, c', ?_, owned k p at_k on⟩
    rw [controllers]
    exact List.getElem?_set_self bound

theorem load (ex : s.Exclusive specs active) (own : active = none ∨ active = some i)
    (at_i : s.controllers[i]? = some c) (visit : Visit) :
    (s.load i visit).Exclusive specs (some i) := by
  have linked := ex.linked.load i visit
  obtain ⟨tidy, off⟩ := ex.tidy.release c fun k p at_k on => ex.nested_of_mounted own at_i at_k on
  rw [load_eq at_i] at linked ⊢
  refine ex.set_controller own at_i (c.issue s.schedule.nextJob) rfl (Nat.zero_le 1) linked ?_
    ⟨tidy.first, tidy.empty⟩ (fun k p at_k on => ?_) rfl (by simp)
  · rw [start, setController, release_controllers]
  · cases (off k p at_k).symm.trans on

theorem unload (ex : s.Exclusive specs (some i)) (at_i : s.controllers[i]? = some c) :
    (s.unload i).Exclusive specs none := by
  have linked := ex.linked.unload i
  obtain ⟨tidy, off⟩ := ex.tidy.release c fun k p at_k on =>
    ex.nested_of_mounted (.inr rfl) at_i at_k on
  have busy : c.state ≠ .idle := (ex.busy i c at_i).mpr rfl
  have writes : c.unloadWrites = [.sidebar .clear, .focus none] := by
    simp [Controller.unloadWrites, busy]
  rw [unload_eq at_i, writes, writeAll_eq] at linked ⊢
  refine ex.set_controller (.inr rfl) at_i c.unloaded rfl (Nat.zero_le 1) linked ?_
    ⟨tidy.first, tidy.empty⟩ (fun k p at_k on => ?_) rfl fun _ => ⟨rfl, rfl⟩
  · rw [setController, release_controllers]
  · cases (off k p at_k).symm.trans on

/-! ## Turns -/

/-- A controller that uses an answer is active, and nothing is mounted. -/
theorem waits_active (ex : s.Exclusive specs active) (at_i : s.controllers[i]? = some c)
    (waits : c.task = some n) : active = some i ∧ c.nested = [] ∧
      ∀ (k : Nat) (p : Pager), s.pagers[k]? = some p → p.mounted = false := by
  have loading := (ex.linked.controller i c at_i).loading.mpr (by simp [waits])
  have is_active := (ex.busy i c at_i).mp (by simp [loading])
  refine ⟨is_active, (ex.linked.controller i c at_i).bare (by simp [loading]), fun k p at_k => ?_⟩
  refine Bool.eq_false_iff.mpr fun on => ?_
  obtain ⟨j, d, active_j, at_j, -, loaded⟩ := ex.owned_by_active at_k on
  cases is_active.symm.trans active_j
  cases at_i.symm.trans at_j
  rw [loading] at loaded
  cases loaded

theorem showContent (ex : s.Exclusive specs active) {task : StageTask} {a : Answer}
    (ready : s.HasAnswer n task a) (at_i : s.controllers[i]? = some c) (waits : c.task = some n)
    (result : Except FetchError PartialContent) :
    ((s.finish n).showContent i c result).Exclusive specs (some i) := by
  obtain ⟨is_active, -, off⟩ := ex.waits_active at_i waits
  have same : ((s.finish n).showContent i c result).screen.containers = s.screen.containers := by
    rw [Stage.showContent, writeAll_eq]
    unfold Controller.showWrites
    split
    · rfl
    · split <;> rfl
  refine ex.set_controller (.inr is_active) at_i c.settled rfl (ex.few i c at_i)
    (ex.linked.showContent ready at_i waits result) (showContent_controllers _ i c result)
    ⟨fun k p at_k => ?_, fun none_mounted => ?_⟩ (fun k p at_k on => ?_) rfl (by simp)
  · rw [showContent_pagers] at at_k
    exact ex.tidy.first k p at_k
  · rw [showContent_pagers] at none_mounted
    rw [Screen.container, same]
    exact ex.tidy.empty none_mounted
  · rw [showContent_pagers] at at_k
    cases (off k p at_k).symm.trans on

theorem note (ex : s.Exclusive specs active) (e : StageEvent) : (s.note e).Exclusive specs active :=
  ⟨ex.linked, ex.made, ex.busy, ex.few, ex.owned, ⟨ex.tidy.first, ex.tidy.empty⟩, ex.blank⟩

/-- The active controller may highlight what it likes. -/
theorem highlight (ex : s.Exclusive specs (some i)) (data : Option RenderData) :
    (s.write (.focus data)).Exclusive specs (some i) :=
  ⟨ex.linked, ex.made, ex.busy, ex.few, ex.owned, ⟨ex.tidy.first, ex.tidy.empty⟩, by simp⟩

/-- The active controller may mount a list if none is mounted. -/
theorem mount (ex : s.Exclusive specs (some i)) (at_i : s.controllers[i]? = some c)
    (loaded : c.state = .loaded) (bare : c.nested = [])
    (off : ∀ (k : Nat) (p : Pager), s.pagers[k]? = some p → p.mounted = false)
    (options : PagerOptions) : (act i s (.mount 0 options)).Exclusive specs (some i) := by
  have linked := ex.linked.mount 0 options
  have pagers : ∃ p : Pager, p.container = 0 ∧ p.mounted = true ∧
      (s.mount 0 options).pagers = s.pagers ++ [p] := by
    refine ⟨Pager.issue { options } options.mode.first s.schedule.nextJob, rfl, rfl, ?_⟩
    rw [Stage.mount, issuePage_eq, List.set_append_right _ _ (Nat.le_refl _), Nat.sub_self]
    rfl
  obtain ⟨p, container, on, pagers⟩ := pagers
  have at_i' : (s.mount 0 options).controllers[i]? = some c := by rwa [mount_controllers]
  have new_mounted : (s.mount 0 options).pagers[s.pagers.length]? = some p := by
    rw [pagers]
    exact List.getElem?_concat_length
  rw [act, attach_eq at_i', bare]
  have attached : ((s.mount 0 options).setController i
      { c with nested := [s.pagers.length] }).Linked :=
    linked.attach_controller at_i' loaded _
  refine ex.set_controller (.inr rfl) at_i { c with nested := [s.pagers.length] } rfl
    (Nat.le_refl 1) attached ?_ ⟨?_, ?_⟩ ?_ (by simp [loaded]) (by simp)
  · rw [setController, mount_controllers]
  · intro k q at_k
    rw [setController, pagers] at at_k
    rcases List.mem_append.mp (List.mem_of_getElem? at_k) with old | new
    · obtain ⟨m, at_m⟩ := List.getElem?_of_mem old
      exact ex.tidy.first m q at_m
    · exact List.mem_singleton.mp new ▸ container
  · intro none_mounted
    cases (none_mounted _ p new_mounted).symm.trans on
  · intro k q at_k on_q
    rw [setController, pagers] at at_k
    by_cases old : k < s.pagers.length
    · rw [List.getElem?_append_left old] at at_k
      cases (off k q at_k).symm.trans on_q
    · have inside := (List.getElem?_eq_some_iff.mp at_k).1
      simp only [List.length_append, List.length_singleton] at inside
      simp only [List.mem_singleton]
      omega

/-- A pager that is mounted and stays so may show what it likes. -/
theorem set_pager (ex : s.Exclusive specs active) (at_k : s.pagers[k]? = some p)
    (on : p.mounted = true) {p' : Pager} (on' : p'.mounted = true)
    (same : p'.container = p.container) (linked : t.Linked)
    (controllers : t.controllers = s.controllers) (pagers : t.pagers = s.pagers.set k p')
    (sidebar : t.screen.sidebar = s.screen.sidebar) (focus : t.screen.focus = s.screen.focus) :
    t.Exclusive specs active := by
  have bound := (List.getElem?_eq_some_iff.mp at_k).1
  have at_k' : t.pagers[k]? = some p' := by
    rw [pagers]
    exact List.getElem?_set_self bound
  refine ⟨linked, ?_, ?_, ?_, ?_, ⟨?_, ?_⟩, ?_⟩
  · rw [controllers]
    exact ex.made
  · rw [controllers]
    exact ex.busy
  · rw [controllers]
    exact ex.few
  · intro m q at_m on_q
    rw [pagers] at at_m
    rw [controllers]
    rcases entry_of_set at_m with ⟨rfl, -⟩ | ⟨-, at_m⟩
    · exact ex.owned k p at_k on
    · exact ex.owned m q at_m on_q
  · intro m q at_m
    rw [pagers] at at_m
    rcases entry_of_set at_m with ⟨rfl, rfl⟩ | ⟨-, at_m⟩
    · exact same.trans (ex.tidy.first k p at_k)
    · exact ex.tidy.first m q at_m
  · intro none_mounted
    cases (none_mounted k p' at_k').symm.trans on'
  · rw [sidebar, focus]
    exact ex.blank

/-- What a plain controller does with content keeps the ownership exclusive. -/
theorem acts (ex : s.Exclusive specs (some i)) (at_i : s.controllers[i]? = some c)
    (loaded : c.state = .loaded) (bare : c.nested = [])
    (off : ∀ (k : Nat) (p : Pager), s.pagers[k]? = some p → p.mounted = false)
    (content : PartialContent) (list : Option PagerOptions) :
    ((StandardRoute.highlight content ++ list.toList.map (ReadyAction.mount 0)).foldl (act i)
      s).Exclusive specs (some i) := by
  rw [List.foldl_append]
  have shown : ∀ t : Stage, t.Exclusive specs (some i) → t.controllers[i]? = some c →
      (∀ (k : Nat) (p : Pager), t.pagers[k]? = some p → p.mounted = false) →
      ((list.toList.map (ReadyAction.mount 0)).foldl (act i) t).Exclusive specs (some i) := by
    intro t ex at_i off
    cases list with
    | none => exact ex
    | some options => exact ex.mount at_i loaded bare off options
  unfold StandardRoute.highlight
  split
  · split
    · exact shown s ex at_i off
    · exact shown _ (ex.highlight _) at_i off
  · exact shown s ex at_i off

theorem turn (ex : s.Exclusive specs active) (plain : ∀ spec ∈ specs, spec.Plain) (n : Nat) :
    (s.turn n).Exclusive specs active := by
  have linked := ex.linked.turn n
  rcases s.turn_cases n with ⟨schedule, same, passes⟩ | ⟨task, a, ready⟩
  · rw [same] at linked ⊢
    exact ⟨linked, ex.made, ex.busy, ex.few, ex.owned, ⟨ex.tidy.first, ex.tidy.empty⟩, ex.blank⟩
  · cases task with
    | content i ticket visit request =>
      obtain ⟨c, at_i, waits, -⟩ := ex.linked.content_waits ready
      obtain ⟨is_active, bare, off⟩ := ex.waits_active at_i waits
      have shown := ex.showContent ready at_i waits (Controller.contentOf a)
      rw [is_active, ex.linked.turn_content ready at_i]
      cases decoded : Controller.contentOf a with
      | error e =>
        rw [decoded] at shown
        exact shown
      | ok content =>
        rw [decoded] at shown
        have known : c.spec ∈ specs := by
          rw [← ex.made]
          exact List.mem_map_of_mem (List.mem_of_getElem? at_i)
        obtain ⟨list, actions⟩ := plain c.spec known visit content
        dsimp only
        rw [actions]
        have at_i' : ((s.finish n).showContent i c (.ok content)).controllers[i]? =
            some c.settled := by
          rw [showContent_controllers]
          exact List.getElem?_set_self (List.getElem?_eq_some_iff.mp at_i).1
        refine (shown.note _).acts at_i' rfl bare (fun k p at_k => ?_) content list
        rw [note_pagers, showContent_pagers] at at_k
        exact off k p at_k
    | page k ticket request =>
      obtain ⟨p, at_k, -, -⟩ := ex.linked.page_waits ready
      have on : p.mounted = true := LivePage.mounted ⟨ticket, request, ready.entry⟩ ex.linked at_k
      rw [ex.linked.turn_page ready at_k] at linked ⊢
      cases decoded : Pager.pageOf a with
      | error e =>
        rw [decoded] at linked
        have on' : p.settled.mounted = true := on
        refine ex.set_pager at_k on on' rfl linked ?_ ?_ ?_ ?_ <;> simp [failPage, setPager]
      | ok page =>
        rw [decoded] at linked
        dsimp only at linked ⊢
        obtain ⟨screen, log, same, sidebar, focus⟩ :=
          runHook_eq ((s.finish n).showPage k p page) k p
        rw [same] at linked ⊢
        have on' : (p.showing page).mounted = true := on
        refine ex.set_pager at_k on on' rfl linked ?_ ?_ ?_ ?_
        · simp [showPage, setPager]
        · simp [showPage, setPager]
        · simp [sidebar, showPage, setPager]
        · simp [focus, showPage, setPager]

theorem answer (ex : s.Exclusive specs active) (request : Nat) (a : Answer) :
    (s.perform (.answer request a)).Exclusive specs active :=
  ⟨ex.linked.happen (.action (.answer request a)), ex.made, ex.busy, ex.few, ex.owned,
    ⟨ex.tidy.first, ex.tidy.empty⟩, ex.blank⟩

end Exclusive

end Stage

end MapSidebar
