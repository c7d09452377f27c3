import MapSidebar.Explorer.Basic
import MapSidebar.Proofs.Exclusive

/-!
# Navigation

The sidebar with the standard routes keeps its surfaces in the hands of the active controller: it is
unloaded before another one is loaded, and whatever happens in between concerns it alone.
-/
namespace MapSidebar

/-- Where a URL leads, and what is loaded there. -/
def Router.destination {κ : Type} (r : Router κ) (url : String) : κ × Visit :=
  match r.resolve (Location.parse url).path with
  | some (route, groups) =>
    (route.target, ⟨groups, (Location.parse url).query, (Location.parse url).fragment⟩)
  | none => (r.fallback, ⟨[], (Location.parse url).query, (Location.parse url).fragment⟩)

theorem Router.destination_target {κ : Type} (r : Router κ) (url : String) :
    (∃ route ∈ r.routes, route.target = (r.destination url).1) ∨
      (r.destination url).1 = r.fallback := by
  unfold destination
  split
  next route groups found =>
    obtain ⟨_, member, taken⟩ := List.exists_of_findSome?_eq_some found
    obtain ⟨_, -, same⟩ := Option.map_eq_some_iff.mp taken
    cases same
    exact .inl ⟨_, member, rfl⟩
  · exact .inr rfl

def Target.controller? : Target → Option Nat
  | .browsing => none
  | .controller i => some i

namespace Explorer

inductive Happening where
  | action (a : Action)
  /-- A job is given its turn out of order. -/
  | turn (job : Nat)

def happen (e : Explorer) : Happening → Explorer
  | .action a => e.perform a
  | .turn job => { e with stage := e.stage.turn job }

def run (e : Explorer) (history : List Happening) : Explorer := history.foldl happen e

theorem run_append (e : Explorer) (first last : List Happening) :
    e.run (first ++ last) = (e.run first).run last := List.foldl_append

/-- What every happening keeps holds after every run. -/
theorem run_induction {motive : Explorer → Prop} {e : Explorer} (start : motive e)
    (history : List Happening)
    (kept : ∀ (d : Explorer) (h : Happening), h ∈ history → motive d → motive (d.happen h)) :
    motive (e.run history) :=
  List.foldlRecOn history happen start fun d hd h member => kept d h member hd

/-- The active controller. -/
def owner (e : Explorer) : Option Nat := e.router.active.bind Target.controller?

/-- A controller is active exactly when its target is. -/
theorem owner_eq_some (e : Explorer) (i : Nat) :
    e.owner = some i ↔ e.router.active = some (.controller i) := by
  unfold owner
  rcases e.router.active with _ | _ | j <;> simp [Target.controller?]

/-- The sidebar once a target has been made the active one and has been given a visit. -/
def goTo (e : Explorer) (target : Target) (visit : Visit) : Explorer :=
  (Router.calls e.router.active target visit).foldl call
    { e with router := { e.router with active := some target } }

theorem dispatch_eq (e : Explorer) (url : String) :
    (e.dispatch url).1 = e.goTo (e.router.destination url).1 (e.router.destination url).2 := by
  unfold dispatch Router.dispatch Router.destination goTo
  cases found : e.router.resolve (Location.parse url).path with
  | none => simp [found]
  | some taken => simp [found]

@[simp] theorem call_router (e : Explorer) (c : Call Target) : (e.call c).router = e.router := by
  cases c with
  | load target visit => cases target <;> rfl
  | unload target => cases target <;> rfl

theorem call_load_stage (e : Explorer) (target : Target) (visit : Visit) :
    (e.call (.load target visit)).stage = match target.controller? with
      | some i => e.stage.load i visit
      | none => e.stage := by
  cases target <;> rfl

theorem call_unload_stage (e : Explorer) (target : Target) :
    (e.call (.unload target)).stage = match target.controller? with
      | some i => e.stage.unload i
      | none => e.stage := by
  cases target <;> rfl

theorem goTo_router (e : Explorer) (target : Target) (visit : Visit) :
    (e.goTo target visit).router = { e.router with active := some target } := by
  unfold goTo Router.calls
  split
  · split <;> simp
  · simp

/-- The stage on which a target is given its visit. -/
def cleared (e : Explorer) (target : Target) : Stage :=
  if e.router.active = some target then e.stage
  else match e.owner with
    | some i => e.stage.unload i
    | none => e.stage

theorem goTo_stage (e : Explorer) (target : Target) (visit : Visit) :
    (e.goTo target visit).stage = match target.controller? with
      | some i => (e.cleared target).load i visit
      | none => e.cleared target := by
  unfold goTo Router.calls cleared owner
  cases active : e.router.active with
  | none => simp [call_load_stage]
  | some previous =>
    by_cases same : previous = target
    · simp [same, call_load_stage]
    · simp [same, call_load_stage, call_unload_stage]

theorem leave_router (e : Explorer) :
    e.leave.router = { e.router with active := none } := by
  unfold leave Router.leave
  cases active : e.router.active with
  | none =>
    obtain ⟨stage, ⟨routes, fallback, active'⟩, browsing⟩ := e
    cases active
    rfl
  | some previous => simp

theorem leave_stage (e : Explorer) :
    e.leave.stage = match e.owner with
      | some i => e.stage.unload i
      | none => e.stage := by
  unfold leave Router.leave owner
  cases active : e.router.active with
  | none => rfl
  | some previous => simp [call_unload_stage]

/-- A happening is a dispatch or a leave, or concerns the stage alone: an answer comes or a job has
its turn, or there is nothing to do. -/
theorem happen_cases (e : Explorer) (h : Happening) :
    (∃ url, h = .action (.dispatch url)) ∨ h = .action .leave ∨
      ∃ stage, e.happen h = { e with stage } ∧ (stage = e.stage ∨
        (∃ r a, stage = e.stage.perform (.answer r a)) ∨ ∃ n, stage = e.stage.turn n) := by
  cases h with
  | turn n => exact .inr (.inr ⟨_, rfl, .inr (.inr ⟨n, rfl⟩)⟩)
  | action a =>
    cases a with
    | dispatch url => exact .inl ⟨url, rfl⟩
    | leave => exact .inr (.inl rfl)
    | answer r a => exact .inr (.inr ⟨_, rfl, .inr (.inl ⟨r, a, rfl⟩)⟩)
    | step =>
      rcases e.stage.step_cases with ⟨-, idle⟩ | ⟨n, rest, -, turned⟩
      · exact .inr (.inr ⟨_, rfl, .inl idle⟩)
      · exact .inr (.inr ⟨_, rfl, .inr (.inr ⟨n, turned⟩)⟩)

theorem cleared_calls (e : Explorer) (target : Target) :
    e.stage.schedule.Calls (e.cleared target).schedule := by
  unfold cleared
  split
  · exact .refl
  · split
    · exact Stage.unload_calls _ _
    · exact .refl

theorem cleared_nextJob (e : Explorer) (target : Target) :
    (e.cleared target).schedule.nextJob = e.stage.schedule.nextJob := by
  unfold cleared
  split
  · rfl
  · split
    · exact Stage.unload_nextJob _ _
    · rfl

theorem happen_sound (e : Explorer) (sound : e.stage.Sound) (h : Happening) :
    (e.happen h).stage.Sound := by
  rcases e.happen_cases h with ⟨url, rfl⟩ | rfl | ⟨stage, same, which⟩
  · rw [happen, perform, dispatch_eq, goTo_stage]
    split
    · exact ((e.cleared_calls _).trans (Stage.load_calls _ _ _)).sound sound
    · exact (e.cleared_calls _).sound sound
  · rw [happen, perform, leave_stage]
    split
    · exact (Stage.unload_calls _ _).sound sound
    · exact sound
  · rw [same]
    rcases which with rfl | ⟨r, a, rfl⟩ | ⟨n, rfl⟩
    · exact sound
    · exact sound.happen (.action (.answer r a))
    · exact sound.turn n

theorem run_sound (e : Explorer) (sound : e.stage.Sound) (history : List Happening) :
    (e.run history).stage.Sound :=
  run_induction (motive := fun d => d.stage.Sound) sound history
    fun d h _ sound => d.happen_sound sound h

/-- No happening changes what is registered. -/
theorem happen_registered (e : Explorer) (h : Happening) :
    (e.happen h).router.routes = e.router.routes ∧
      (e.happen h).router.fallback = e.router.fallback := by
  rcases e.happen_cases h with ⟨url, rfl⟩ | rfl | ⟨stage, same, -⟩
  · rw [happen, perform, dispatch_eq, goTo_router]
    exact ⟨rfl, rfl⟩
  · rw [happen, perform, leave_router]
    exact ⟨rfl, rfl⟩
  · rw [same]
    exact ⟨rfl, rfl⟩

theorem run_registered (e : Explorer) (history : List Happening) :
    (e.run history).router.routes = e.router.routes ∧
      (e.run history).router.fallback = e.router.fallback :=
  run_induction (motive := fun d => d.router.routes = e.router.routes ∧
    d.router.fallback = e.router.fallback) ⟨rfl, rfl⟩ history fun d h _ same =>
      ⟨(d.happen_registered h).1.trans same.1, (d.happen_registered h).2.trans same.2⟩

def specs (settings : Settings) (withList : Bool) : List ControllerSpec :=
  StandardRoute.all.map fun route => route.spec settings (if withList then some 0 else none)

theorem specs_plain (settings : Settings) (withList : Bool) :
    ∀ spec ∈ specs settings withList, spec.Plain := by
  intro spec member
  obtain ⟨route, -, rfl⟩ := List.mem_map.mp member
  refine StandardRoute.spec_plain settings ?_ route
  cases withList <;> simp

/-- The standard routes are accepted, and each leads to the controller of its place. -/
theorem standardRouter_eq : ∃ router, standardRouter = .ok router ∧
    router.routes.map Route.target = (List.range StandardRoute.all.length).map .controller ∧
    router.fallback = .browsing ∧ router.active = none :=
  ⟨_, rfl, rfl, rfl, rfl⟩

/-- What holds of the sidebar between any two happenings. -/
structure Orderly (specs : List ControllerSpec) (e : Explorer) : Prop where
  exclusive : e.stage.Exclusive specs e.owner
  active : ∀ i, e.owner = some i → i < specs.length
  routes : ∀ route ∈ e.router.routes, ∃ i, route.target = .controller i ∧ i < specs.length
  fallback : e.router.fallback = .browsing

/-- A sidebar can be made, and nothing has been done on it. -/
theorem new_eq (settings : Settings) (withList : Bool) :
    ∃ start, Explorer.new settings withList = .ok start ∧
      start.stage = Stage.fresh { containers := if withList then [{}] else [] }
        (specs settings withList) ∧
      start.router.active = none ∧ start.Orderly (specs settings withList) := by
  obtain ⟨router, made, targets, fallback, active⟩ := standardRouter_eq
  have stage : Stage.mk { containers := if withList then [{}] else [] }
      (StandardRoute.all.map fun route =>
        { spec := route.spec settings (if withList then some 0 else none) }) [] {} [] =
      Stage.fresh { containers := if withList then [{}] else [] } (specs settings withList) := by
    simp only [Stage.fresh, specs, List.map_map, Function.comp_def]
  have owner : router.active.bind Target.controller? = none := by rw [active]; rfl
  refine ⟨_, by rw [Explorer.new, made]; rfl, stage, active, ⟨?_, ?_, ?_, fallback⟩⟩
  · dsimp only [Explorer.owner]
    rw [stage, owner]
    refine ⟨.fresh _ _, ?_, ?_, ?_, by simp [Stage.fresh], ⟨by simp [Stage.fresh], ?_⟩,
      fun _ => ⟨rfl, rfl⟩⟩
    · simp [Stage.fresh, Function.comp_def]
    · intro i c at_i
      simp only [Stage.fresh, List.getElem?_map, Option.map_eq_some_iff] at at_i
      obtain ⟨spec, -, rfl⟩ := at_i
      simp
    · intro i c at_i
      simp only [Stage.fresh, List.getElem?_map, Option.map_eq_some_iff] at at_i
      obtain ⟨spec, -, rfl⟩ := at_i
      simp
    · intro _
      cases withList <;> rfl
  · intro i own
    cases owner.symm.trans own
  · intro route member
    have target := List.mem_map_of_mem (f := Route.target) member
    rw [targets] at target
    obtain ⟨i, small, same⟩ := List.mem_map.mp target
    refine ⟨i, same.symm, ?_⟩
    rw [specs, List.length_map]
    exact List.mem_range.mp small

namespace Orderly

variable {specs : List ControllerSpec} {e : Explorer}

theorem controller_at (orderly : e.Orderly specs) {i : Nat} (bound : i < specs.length) :
    ∃ c, e.stage.controllers[i]? = some c := by
  have made := congrArg List.length orderly.exclusive.made
  rw [List.length_map] at made
  exact ⟨_, List.getElem?_eq_getElem (made ▸ bound)⟩

/-- Clearing the way to a target leaves its controller, if it has one, as the only one that may be
active. -/
theorem cleared (orderly : e.Orderly specs) (target : Target) :
    (e.router.active = some target ∧
        (e.cleared target).Exclusive specs target.controller?) ∨
      (e.cleared target).Exclusive specs none := by
  unfold Explorer.cleared
  split
  next same =>
    have owner : e.owner = target.controller? := by simp [owner, same]
    exact .inl ⟨same, owner ▸ orderly.exclusive⟩
  next =>
    refine .inr ?_
    have exclusive := orderly.exclusive
    cases own : e.owner with
    | none =>
      rw [own] at exclusive
      exact exclusive
    | some i =>
      obtain ⟨c, at_i⟩ := orderly.controller_at (orderly.active i own)
      rw [own] at exclusive
      exact exclusive.unload at_i

theorem goTo (orderly : e.Orderly specs) {target : Target} (visit : Visit)
    (known : ∀ i, target.controller? = some i → i < specs.length) :
    (e.goTo target visit).Orderly specs := by
  have owner : (e.goTo target visit).owner = target.controller? := by
    rw [Explorer.owner, goTo_router]
    rfl
  refine ⟨?_, ?_, ?_, ?_⟩
  · rw [owner, goTo_stage]
    cases is_target : target.controller? with
    | none =>
      rcases orderly.cleared target with ⟨-, ex⟩ | ex
      · rw [is_target] at ex
        exact ex
      · exact ex
    | some i =>
      have at_i : ∀ {active : Option Nat}, (e.cleared target).Exclusive specs active →
          ∃ c, (e.cleared target).controllers[i]? = some c := by
        intro active ex
        have made := congrArg List.length ex.made
        rw [List.length_map] at made
        exact ⟨_, List.getElem?_eq_getElem (made ▸ known i is_target)⟩
      rcases orderly.cleared target with ⟨-, ex⟩ | ex
      · obtain ⟨c, at_i⟩ := at_i ex
        exact ex.load (.inr is_target) at_i visit
      · obtain ⟨c, at_i⟩ := at_i ex
        exact ex.load (.inl rfl) at_i visit
  · intro i own
    exact known i (owner.symm.trans own)
  · rw [goTo_router]
    exact orderly.routes
  · rw [goTo_router]
    exact orderly.fallback

/-- A URL leads to a controller of the stage or to plain browsing. -/
theorem destination_known (orderly : e.Orderly specs) (url : String) {i : Nat}
    (leads : (e.router.destination url).1.controller? = some i) : i < specs.length := by
  rcases e.router.destination_target url with ⟨route, member, same⟩ | same
  · obtain ⟨j, is_target, bound⟩ := orderly.routes route member
    rw [← same, is_target] at leads
    cases leads
    exact bound
  · rw [same, orderly.fallback] at leads
    cases leads

theorem leave (orderly : e.Orderly specs) : e.leave.Orderly specs := by
  have owner : e.leave.owner = none := by
    rw [Explorer.owner, leave_router]
    rfl
  refine ⟨?_, ?_, ?_, ?_⟩
  · rw [owner, leave_stage]
    have exclusive := orderly.exclusive
    cases own : e.owner with
    | none =>
      rw [own] at exclusive
      exact exclusive
    | some i =>
      obtain ⟨c, at_i⟩ := orderly.controller_at (orderly.active i own)
      rw [own] at exclusive
      exact exclusive.unload at_i
  · intro i own
    cases owner.symm.trans own
  · rw [leave_router]
    exact orderly.routes
  · rw [leave_router]
    exact orderly.fallback

theorem happen (orderly : e.Orderly specs) (plain : ∀ spec ∈ specs, spec.Plain) (h : Happening) :
    (e.happen h).Orderly specs := by
  rcases e.happen_cases h with ⟨url, rfl⟩ | rfl | ⟨stage, same, which⟩
  · rw [Explorer.happen, perform, dispatch_eq]
    exact orderly.goTo _ fun i => orderly.destination_known url
  · exact orderly.leave
  · have exclusive : stage.Exclusive specs e.owner := by
      rcases which with rfl | ⟨r, a, rfl⟩ | ⟨n, rfl⟩
      · exact orderly.exclusive
      · exact orderly.exclusive.answer r a
      · exact orderly.exclusive.turn plain n
    rw [same]
    exact ⟨exclusive, orderly.active, orderly.routes, orderly.fallback⟩

theorem run (orderly : e.Orderly specs) (plain : ∀ spec ∈ specs, spec.Plain)
    (history : List Happening) : (e.run history).Orderly specs :=
  run_induction orderly history fun _ h _ orderly => orderly.happen plain h

end Orderly

end Explorer

end MapSidebar
