import MapSidebar.Route.Router

/-!
# The lifecycle of targets

Whatever is registered, visited and left, the calls that a router makes on its targets are well
bracketed: a target is loaded when none is active or when it is active itself, and only the active
one is unloaded. So at any time at most one target has been loaded and not been unloaded since, and
it is the active one. Routes may share a target with each other and with the fallback; it is the
target that counts, and not the route that leads to it.
-/
namespace MapSidebar

variable {κ : Type}

/-! ## Well bracketed calls -/

/-- Calls that lead from one active target to another: whatever is loaded stays the active target
until it is unloaded, and nothing else is loaded or unloaded in between. -/
inductive Bracketed : Option κ → List (Call κ) → Option κ → Prop where
  | done (active : Option κ) : Bracketed active [] active
  | load {target : κ} {visit : Visit} {calls : List (Call κ)} {last : Option κ} :
    Bracketed (some target) calls last → Bracketed none (.load target visit :: calls) last
  | reload {target : κ} {visit : Visit} {calls : List (Call κ)} {last : Option κ} :
    Bracketed (some target) calls last →
      Bracketed (some target) (.load target visit :: calls) last
  | unload {target : κ} {calls : List (Call κ)} {last : Option κ} :
    Bracketed none calls last → Bracketed (some target) (.unload target :: calls) last

/-- A target has been loaded and has not been unloaded since. -/
def IsOpen (calls : List (Call κ)) (target : κ) : Prop :=
  ∃ before visit after, calls = before ++ .load target visit :: after ∧ .unload target ∉ after

theorem not_isOpen_nil (target : κ) : ¬ IsOpen [] target := by
  rintro ⟨before, visit, after, same, -⟩
  cases before <;> cases same

theorem isOpen_load {target other : κ} {visit : Visit} {calls : List (Call κ)} :
    IsOpen (.load target visit :: calls) other ↔
      IsOpen calls other ∨ target = other ∧ .unload other ∉ calls := by
  constructor
  · rintro ⟨before, visit', after, same, kept⟩
    cases before with
    | nil =>
      cases same
      exact .inr ⟨rfl, kept⟩
    | cons first before =>
      cases same
      exact .inl ⟨before, visit', after, rfl, kept⟩
  · rintro (⟨before, visit', after, rfl, kept⟩ | ⟨rfl, kept⟩)
    · exact ⟨.load target visit :: before, visit', after, rfl, kept⟩
    · exact ⟨[], visit, calls, rfl, kept⟩

theorem isOpen_unload {target other : κ} {calls : List (Call κ)} :
    IsOpen (.unload target :: calls) other ↔ IsOpen calls other := by
  constructor
  · rintro ⟨before, visit, after, same, kept⟩
    cases before with
    | nil => cases same
    | cons first before =>
      cases same
      exact ⟨before, visit, after, rfl, kept⟩
  · rintro ⟨before, visit, after, rfl, kept⟩
    exact ⟨.unload target :: before, visit, after, rfl, kept⟩

namespace Bracketed

variable {first middle last : Option κ} {calls more : List (Call κ)} {target other : κ}
  {visit : Visit}

theorem append (start : Bracketed first calls middle) (rest : Bracketed middle more last) :
    Bracketed first (calls ++ more) last := by
  induction start with
  | done active => exact rest
  | load _ ih => exact .load (ih rest)
  | reload _ ih => exact .reload (ih rest)
  | unload _ ih => exact .unload (ih rest)

/-- Well bracketed calls are so up to any point, and from there on. -/
theorem split (whole : Bracketed first (calls ++ more) last) :
    ∃ middle, Bracketed first calls middle ∧ Bracketed middle more last := by
  induction calls generalizing first with
  | nil => exact ⟨first, .done first, whole⟩
  | cons call calls ih =>
    cases whole with
    | load rest =>
      obtain ⟨middle, start, rest⟩ := ih rest
      exact ⟨middle, .load start, rest⟩
    | reload rest =>
      obtain ⟨middle, start, rest⟩ := ih rest
      exact ⟨middle, .reload start, rest⟩
    | unload rest =>
      obtain ⟨middle, start, rest⟩ := ih rest
      exact ⟨middle, .unload start, rest⟩

/-- The active target is the one that has been loaded last, or the one from before, if it has not
been unloaded since. -/
theorem active_iff (calls_in : Bracketed first calls last) :
    last = some other ↔ IsOpen calls other ∨ first = some other ∧ .unload other ∉ calls := by
  induction calls_in with
  | done active => simp [not_isOpen_nil]
  | @load target visit calls last _ ih =>
    rw [ih, isOpen_load]
    simp
  | @reload target visit calls last _ ih =>
    rw [ih, isOpen_load]
    simp
  | @unload target calls last _ ih =>
    rw [ih, isOpen_unload]
    simp +contextual [eq_comm]

/-- From a state in which nothing is active, the active target is the one that is open. -/
theorem isOpen_iff (calls_in : Bracketed none calls last) :
    IsOpen calls other ↔ last = some other := by
  rw [calls_in.active_iff]
  simp

/-- At any point at most one target is open. -/
theorem single (whole : Bracketed none (calls ++ more) last) (opened : IsOpen calls target)
    (also : IsOpen calls other) : target = other := by
  obtain ⟨middle, start, -⟩ := whole.split
  exact Option.some.inj ((start.isOpen_iff.mp opened).symm.trans (start.isOpen_iff.mp also))

/-- Only what is open is unloaded. -/
theorem isOpen_of_unload (whole : Bracketed none (calls ++ .unload target :: more) last) :
    IsOpen calls target := by
  obtain ⟨middle, start, rest⟩ := whole.split
  cases rest with
  | unload _ => exact start.isOpen_iff.mpr rfl

/-- When a target is loaded, no other one is open. -/
theorem eq_of_load (whole : Bracketed none (calls ++ .load target visit :: more) last)
    (also : IsOpen calls other) : other = target := by
  obtain ⟨middle, start, rest⟩ := whole.split
  have active := start.isOpen_iff.mp also
  cases rest with
  | load _ => cases active
  | reload _ => exact (Option.some.inj active).symm

end Bracketed

namespace Router

/-! ## Where a path leads -/

/-- A path leads to the first route whose pattern matches it, and to the fallback if none does. -/
inductive Leads (r : Router κ) (path : String) : Option String → Groups → κ → Prop where
  | route {earlier later : List (Route κ)} {route : Route κ} {groups : Groups} :
    r.routes = earlier ++ route :: later → (∀ e ∈ earlier, e.pattern.match? path = none) →
      route.pattern.match? path = some groups → Leads r path (some route.name) groups route.target
  | fallback : (∀ e ∈ r.routes, e.pattern.match? path = none) → Leads r path none [] r.fallback

variable {r : Router κ}

/-- A registration that is accepted adds its route, and nothing else changes. -/
theorem register_eq {pattern name : String} {target : κ} {next : Router κ}
    (accepted : r.register pattern name target = .ok next) :
    ∃ p, Pattern.parse pattern = .ok p ∧
      next = { r with routes := r.routes ++ [⟨name, p, target⟩] } := by
  cases parsed : Pattern.parse pattern with
  | error e => simp [register, parsed, bind, Except.bind] at accepted
  | ok p =>
    simp only [register, parsed, bind, Except.bind] at accepted
    split at accepted
    · cases accepted
    · cases accepted
      exact ⟨p, rfl, rfl⟩

/-- Leaving unloads the active target, if there is one. -/
theorem leave_cases (r : Router κ) :
    r.active = none ∧ r.leave = (r, []) ∨ ∃ previous, r.active = some previous ∧
      r.leave = ({ r with active := none }, [.unload previous]) := by
  cases active : r.active with
  | none => exact .inl ⟨rfl, by simp [leave, active]⟩
  | some previous => exact .inr ⟨previous, rfl, by simp [leave, active]⟩

variable [DecidableEq κ]

theorem dispatch_leads (r : Router κ) (url : String) :
    ∃ name groups target, r.Leads (Location.parse url).path name groups target ∧
      r.dispatch url = ({ r with active := some target },
        ⟨name, groups, decide (r.active ≠ some target)⟩,
        calls r.active target ⟨groups, (Location.parse url).query, (Location.parse url).fragment⟩) := by
  cases found : r.resolve (Location.parse url).path with
  | none =>
    refine ⟨none, [], r.fallback, .fallback fun e member => ?_, by simp [dispatch, found]⟩
    have missed := List.findSome?_eq_none_iff.mp found e member
    exact Option.map_eq_none_iff.mp missed
  | some taken =>
    obtain ⟨route, groups⟩ := taken
    obtain ⟨earlier, matching, later, routes, matched, missed⟩ :=
      List.findSome?_eq_some_iff.mp found
    obtain ⟨captured, matched, same⟩ := Option.map_eq_some_iff.mp matched
    cases same
    refine ⟨some route.name, groups, route.target, .route routes (fun e member => ?_) matched,
      by simp [dispatch, found]⟩
    exact Option.map_eq_none_iff.mp (missed e member)

/-! ## Runs -/

/-- Something that is asked of a router. -/
inductive Operation (κ : Type) where
  | register (pattern name : String) (target : κ)
  | dispatch (url : String)
  | leave

/-- The router after an operation, and the calls that it makes. A registration that is refused
changes nothing. -/
def perform (r : Router κ) : Operation κ → Router κ × List (Call κ)
  | .register pattern name target =>
    match r.register pattern name target with
    | .ok next => (next, [])
    | .error _ => (r, [])
  | .dispatch url => ((r.dispatch url).1, (r.dispatch url).2.2)
  | .leave => r.leave

/-- The router after a run, and all calls that it has made. -/
def run (r : Router κ) (history : List (Operation κ)) : Router κ × List (Call κ) :=
  history.foldl (fun (r, made) operation => ((r.perform operation).1, made ++ (r.perform operation).2))
    (r, [])

/-- A registration makes no call and leaves the active target. -/
theorem perform_register (r : Router κ) (pattern name : String) (target : κ) :
    (r.perform (.register pattern name target)).2 = [] ∧
      (r.perform (.register pattern name target)).1.active = r.active := by
  unfold perform
  dsimp only
  split
  next next accepted =>
    obtain ⟨p, -, rfl⟩ := register_eq accepted
    exact ⟨rfl, rfl⟩
  next => exact ⟨rfl, rfl⟩

/-- Whatever was active before a load, the target is active after it. -/
theorem calls_cases (active : Option κ) (target : κ) (visit : Visit) :
    ∃ unloads, calls active target visit = unloads ++ [.load target visit] ∧
      (unloads = [] ∧ (active = none ∨ active = some target) ∨
        ∃ previous, active = some previous ∧ previous ≠ target ∧
          unloads = [.unload previous]) := by
  unfold calls
  split
  next previous =>
    by_cases same : previous = target
    · exact ⟨[], by simp [same], .inl ⟨rfl, .inr (by rw [same])⟩⟩
    · exact ⟨[.unload previous], by simp [same], .inr ⟨previous, rfl, same, rfl⟩⟩
  next => exact ⟨[], rfl, .inl ⟨rfl, .inl rfl⟩⟩

theorem calls_bracketed (active : Option κ) (target : κ) (visit : Visit) :
    Bracketed active (calls active target visit) (some target) := by
  obtain ⟨unloads, same, ⟨rfl, rfl | rfl⟩ | ⟨previous, rfl, -, rfl⟩⟩ :=
    calls_cases active target visit
  · exact same ▸ .load (.done _)
  · exact same ▸ .reload (.done _)
  · exact same ▸ .unload (.load (.done _))

/-- The calls of an operation lead from the target that was active to the one that is. -/
theorem perform_bracketed (r : Router κ) (operation : Operation κ) :
    Bracketed r.active (r.perform operation).2 (r.perform operation).1.active := by
  cases operation with
  | register pattern name target =>
    obtain ⟨none_made, active⟩ := r.perform_register pattern name target
    rw [none_made, active]
    exact .done _
  | dispatch url =>
    obtain ⟨name, groups, target, -, same⟩ := r.dispatch_leads url
    simp only [perform, same]
    exact calls_bracketed _ _ _
  | leave =>
    rcases r.leave_cases with ⟨-, same⟩ | ⟨previous, active, same⟩
    · rw [perform, same]
      exact .done _
    · rw [perform, same, active]
      exact .unload (.done _)

/-- The calls of a run lead from nothing to the target that is active. -/
theorem run_bracketed (fallback : κ) (history : List (Operation κ)) :
    Bracketed none (({ fallback } : Router κ).run history).2
      (({ fallback } : Router κ).run history).1.active := by
  refine List.foldlRecOn history _
    (motive := fun reached : Router κ × List (Call κ) => Bracketed none reached.2 reached.1.active)
    (.done none) ?_
  rintro ⟨r, made⟩ past operation -
  exact past.append (r.perform_bracketed operation)

/-- An operation unloads nothing but the active target. -/
theorem active_of_unload {operation : Operation κ} {target : κ}
    (made : .unload target ∈ (r.perform operation).2) : r.active = some target := by
  cases operation with
  | register pattern name target' =>
    rw [(r.perform_register pattern name target').1] at made
    cases made
  | dispatch url =>
    obtain ⟨name, groups, target', -, same⟩ := r.dispatch_leads url
    simp only [perform, same] at made
    obtain ⟨unloads, calls, ⟨rfl, -⟩ | ⟨previous, active, -, rfl⟩⟩ := calls_cases r.active target'
      ⟨groups, (Location.parse url).query, (Location.parse url).fragment⟩
    · simp [calls] at made
    · simp only [calls, List.cons_append, List.nil_append, List.mem_cons, Call.unload.injEq,
        reduceCtorEq, List.not_mem_nil, or_false] at made
      rw [active, made]
  | leave =>
    rcases r.leave_cases with ⟨-, same⟩ | ⟨previous, active, same⟩
    · rw [perform, same] at made
      cases made
    · rw [perform, same] at made
      cases List.mem_singleton.mp made
      exact active

/-! ## All of it -/

/-- What holds of a router once it has made the calls `made`. -/
structure CallsInOrder (r : Router κ) (made : List (Call κ)) : Prop where
  /-- A dispatch makes one load, on the target of the first route that matches or on the fallback.
  Before it, and if it is another one, the active target is unloaded once. -/
  dispatch : ∀ url, ∃ name groups target visit unloads,
    r.Leads (Location.parse url).path name groups target ∧
    visit = ⟨groups, (Location.parse url).query, (Location.parse url).fragment⟩ ∧
    (r.dispatch url).2.2 = unloads ++ [.load target visit] ∧
    (unloads = [] ∧ (r.active = none ∨ r.active = some target) ∨
      ∃ previous, r.active = some previous ∧ previous ≠ target ∧ unloads = [.unload previous]) ∧
    (r.dispatch url).1.active = some target ∧
    ((r.dispatch url).2.1.changed = true ↔
      r.active = none ∨ ∃ previous, r.active = some previous ∧ previous ≠ target)
  /-- Leaving makes one unload if something is active, and no call if nothing is. -/
  leave : r.active = none ∧ r.leave.2 = [] ∨
    ∃ previous, r.active = some previous ∧ r.leave.2 = [.unload previous]
  left : r.leave.1.active = none
  /-- A registration makes no call, whether or not it is accepted. -/
  register : ∀ pattern name target, (r.perform (.register pattern name target)).2 = [] ∧
    (r.perform (.register pattern name target)).1.active = r.active
  /-- Nothing is unloaded that is not active. -/
  unloads : ∀ operation target, .unload target ∈ (r.perform operation).2 → r.active = some target
  /-- What is unloaded had been loaded, and had not been unloaded since. -/
  opened : ∀ before target after, made = before ++ .unload target :: after → IsOpen before target
  /-- When a target is loaded, no other one has been loaded and not been unloaded since. -/
  loads : ∀ before target visit after, made = before ++ .load target visit :: after →
    ∀ other, IsOpen before other → other = target
  /-- At every point at most one target has been loaded and not been unloaded since. -/
  single : ∀ before after, made = before ++ after →
    ∀ target other, IsOpen before target → IsOpen before other → target = other
  /-- It is the active one. -/
  active : ∀ target, IsOpen made target ↔ r.active = some target

/-- Whatever is registered, visited and left, in which order ever, the calls that are made on the
targets are well bracketed. -/
theorem calls_in_order (fallback : κ) (history : List (Operation κ)) :
    CallsInOrder (({ fallback } : Router κ).run history).1 (({ fallback } : Router κ).run history).2 := by
  have bracketed := run_bracketed fallback history
  generalize (({ fallback } : Router κ).run history).1 = r at bracketed ⊢
  generalize (({ fallback } : Router κ).run history).2 = made at bracketed ⊢
  refine ⟨?_, ?_, ?_, ?_, ?_, ?_, ?_, ?_, ?_⟩
  · intro url
    obtain ⟨name, groups, target, leads, same⟩ := r.dispatch_leads url
    obtain ⟨unloads, calls, which⟩ := calls_cases r.active target
      ⟨groups, (Location.parse url).query, (Location.parse url).fragment⟩
    refine ⟨name, groups, target, _, unloads, leads, rfl, by rw [same, calls], which,
      by rw [same], ?_⟩
    rw [same]
    cases r.active <;> simp
  · rcases r.leave_cases with ⟨idle, same⟩ | ⟨previous, active, same⟩
    · exact .inl ⟨idle, by rw [same]⟩
    · exact .inr ⟨previous, active, by rw [same]⟩
  · rcases r.leave_cases with ⟨idle, same⟩ | ⟨previous, -, same⟩
    · rw [same, idle]
    · rw [same]
  · exact r.perform_register
  · exact fun operation target => active_of_unload
  · rintro before target after rfl
    exact bracketed.isOpen_of_unload
  · rintro before target visit after rfl other
    exact bracketed.eq_of_load
  · rintro before after rfl target other
    exact bracketed.single
  · exact fun target => bracketed.isOpen_iff

end Router

end MapSidebar
