import MapSidebar.Proofs.Lifecycle
import Mathlib.Data.List.Nodup
import Mathlib.Data.List.Induction

/-!
# The table of routes

A registration adds one route at the end of the table, or it is refused and changes nothing. It is
refused for no other reason than that its pattern cannot be read or is registered. As the first route
that matches a path wins, a route that is added takes over no path that led to a route before; so the
order of the registrations alone decides where a path leads.
-/
namespace MapSidebar

theorem Pattern.text_of_parse {text : String} {p : Pattern} (parsed : parse text = .ok p) :
    p.text = text := by
  unfold parse at parsed
  split at parsed
  · cases parts : parseParts text [] (Text.segments text) with
    | error e => simp [parts, Except.map] at parsed
    | ok segments =>
      simp only [parts, Except.map, Except.ok.injEq] at parsed
      rw [← parsed]
  · cases parsed

namespace Router

variable {κ : Type}

def texts (r : Router κ) : List String := r.routes.map fun route => route.pattern.text

def adding (r : Router κ) (route : Route κ) : Router κ := { r with routes := r.routes ++ [route] }

inductive Registers (r : Router κ) (pattern name : String) (target : κ) :
    Except RouteError (Router κ) → Prop where
  | malformed {e : RouteError} : Pattern.parse pattern = .error e →
    Registers r pattern name target (.error e)
  | taken {p : Pattern} : Pattern.parse pattern = .ok p → pattern ∈ r.texts →
    Registers r pattern name target (.error (.duplicateRoute pattern))
  | added {p : Pattern} : Pattern.parse pattern = .ok p → pattern ∉ r.texts →
    Registers r pattern name target (.ok (r.adding ⟨name, p, target⟩))

/-- The route that an operation asks for, if it is a registration whose pattern can be read. -/
def Operation.route? : Operation κ → Option (Route κ)
  | .register pattern name target =>
    (Pattern.parse pattern).toOption.map fun p => ⟨name, p, target⟩
  | .dispatch _ | .leave => none

/-- An operation is a registration that is accepted, and adds a route. -/
inductive Adds (r : Router κ) : Operation κ → Route κ → Prop where
  | accepted {pattern name : String} {target : κ} {p : Pattern} {next : Router κ} :
    r.register pattern name target = .ok next → Pattern.parse pattern = .ok p →
      Adds r (.register pattern name target) ⟨name, p, target⟩

variable {r next : Router κ} {pattern name path : String} {target : κ} {route : Route κ}
  {groups : Groups}

/-! ## One registration -/

theorem isRegistered_iff : r.isRegistered pattern = true ↔ pattern ∈ r.texts := by
  simp [isRegistered, texts]

theorem registers (r : Router κ) (pattern name : String) (target : κ) :
    r.Registers pattern name target (r.register pattern name target) := by
  cases parsed : Pattern.parse pattern with
  | error e =>
    have refused : r.register pattern name target = .error e := by
      simp [register, parsed, bind, Except.bind]
    exact refused ▸ .malformed parsed
  | ok p =>
    have text := Pattern.text_of_parse parsed
    by_cases known : pattern ∈ r.texts
    · have refused : r.register pattern name target = .error (.duplicateRoute pattern) := by
        simp [register, parsed, bind, Except.bind, text, isRegistered_iff.mpr known]
      exact refused ▸ .taken parsed known
    · have new : r.isRegistered pattern = false := by
        rwa [← Bool.not_eq_true, isRegistered_iff]
      have accepted : r.register pattern name target = .ok (r.adding ⟨name, p, target⟩) := by
        simp [register, parsed, bind, Except.bind, text, new, adding]
      exact accepted ▸ .added parsed known

/-- A route that is added comes into question where no other one matches. -/
theorem resolve_adding (r : Router κ) (route : Route κ) (path : String) :
    (r.adding route).resolve path =
      (r.resolve path).or ((route.pattern.match? path).map (route, ·)) := by
  simp [resolve, adding, List.findSome?_append]

theorem resolve_eq_none : r.resolve path = none ↔
    ∀ route ∈ r.routes, route.pattern.match? path = none := by
  simp [resolve]

theorem resolve_eq_some_iff : r.resolve path = some (route, groups) ↔
    ∃ first last, r.routes = first ++ route :: last ∧ route.pattern.match? path = some groups ∧
      ∀ other ∈ first, other.pattern.match? path = none := by
  rw [resolve, List.findSome?_eq_some_iff]
  constructor
  · rintro ⟨first, found, last, table, matched, missed⟩
    obtain ⟨captured, matched, pair⟩ := Option.map_eq_some_iff.mp matched
    cases pair
    exact ⟨first, last, table, matched, fun other inside =>
      Option.map_eq_none_iff.mp (missed other inside)⟩
  · rintro ⟨first, last, table, matched, missed⟩
    exact ⟨first, route, last, table, by rw [matched]; rfl, fun other inside => by
      rw [missed other inside]; rfl⟩

/-- What holds of a table that registrations have made: its patterns are what is read from their texts,
and no text is there twice. -/
structure WellKept (r : Router κ) : Prop where
  read : ∀ route ∈ r.routes, Pattern.parse route.pattern.text = .ok route.pattern
  distinct : r.texts.Nodup

theorem Operation.parse_of_route? {operation : Operation κ} (asked : operation.route? = some route) :
    Pattern.parse route.pattern.text = .ok route.pattern := by
  cases operation with
  | register pattern name target =>
    simp only [route?, Option.map_eq_some_iff] at asked
    obtain ⟨p, read, rfl⟩ := asked
    cases parsed : Pattern.parse pattern with
    | error e =>
      rw [parsed] at read
      cases read
    | ok q =>
      rw [parsed] at read
      cases read
      rw [Pattern.text_of_parse parsed, parsed]
  | dispatch url | leave => cases asked

/-! ## Runs -/

variable [DecidableEq κ] {history before later : List (Operation κ)} {operation : Operation κ}

/-- A registration that is refused changes nothing. -/
theorem perform_refused {e : RouteError} (refused : r.register pattern name target = .error e) :
    r.perform (.register pattern name target) = (r, []) := by
  simp only [perform, refused]

/-- An operation adds one route at the end of the table, or leaves the table. -/
theorem perform_routes (r : Router κ) (operation : Operation κ) :
    (∃ route, r.Adds operation route ∧ operation.route? = some route ∧
      route.pattern.text ∉ r.texts ∧ (r.perform operation).1.routes = r.routes ++ [route]) ∨
    (∀ route, ¬ r.Adds operation route) ∧ (r.perform operation).1.routes = r.routes ∧
      ∀ route, operation.route? = some route → route.pattern.text ∈ r.texts := by
  cases operation with
  | register pattern name target =>
    generalize outcome : r.register pattern name target = result
    cases outcome ▸ r.registers pattern name target with
    | malformed unread =>
      refine .inr ⟨fun route adds => ?_, by rw [perform_refused outcome],
        by simp [Operation.route?, unread, Except.toOption]⟩
      cases adds with
      | accepted accepted parsed => cases outcome.symm.trans accepted
    | taken parsed known =>
      refine .inr ⟨fun route adds => ?_, by rw [perform_refused outcome], fun route asked => ?_⟩
      · cases adds with
        | accepted accepted parsed => cases outcome.symm.trans accepted
      · simp only [Operation.route?, parsed, Except.toOption, Option.map_some,
          Option.some.injEq] at asked
        rw [← asked, Pattern.text_of_parse parsed]
        exact known
    | @added p parsed new =>
      refine .inl ⟨⟨name, p, target⟩, .accepted outcome parsed, ?_, ?_, ?_⟩
      · simp [Operation.route?, parsed, Except.toOption]
      · rwa [Pattern.text_of_parse parsed]
      · simp only [perform, outcome, adding]
  | dispatch url => exact .inr ⟨by rintro _ ⟨⟩, rfl, by simp [Operation.route?]⟩
  | leave =>
    refine .inr ⟨by rintro _ ⟨⟩, ?_, by simp [Operation.route?]⟩
    rcases r.leave_cases with ⟨-, same⟩ | ⟨previous, -, same⟩
    · rw [perform, same]
    · rw [perform, same]

theorem run_concat (r : Router κ) (history : List (Operation κ)) (operation : Operation κ) :
    (r.run (history ++ [operation])).1 = ((r.run history).1.perform operation).1 := by
  simp [run]

theorem run_append (r : Router κ) (before later : List (Operation κ)) :
    (r.run (before ++ later)).1 = ((r.run before).1.run later).1 := by
  induction later using List.reverseRecOn with
  | nil => rw [List.append_nil]; rfl
  | append_singleton later operation ih =>
    rw [← List.append_assoc, run_concat, run_concat, ih]

theorem Adds.routes_eq (adds : r.Adds operation route) :
    (r.perform operation).1.routes = r.routes ++ [route] := by
  cases adds with
  | accepted accepted parsed =>
    obtain ⟨p, parsed', rfl⟩ := register_eq accepted
    cases parsed.symm.trans parsed'
    simp only [perform, accepted]

theorem run_cons (r : Router κ) (operation : Operation κ) (later : List (Operation κ)) :
    (r.run (operation :: later)).1 = ((r.perform operation).1.run later).1 :=
  r.run_append [operation] later

/-- No route is ever taken out of the table. -/
theorem run_routes (r : Router κ) (later : List (Operation κ)) :
    ∃ more, (r.run later).1.routes = r.routes ++ more := by
  induction later using List.reverseRecOn with
  | nil => exact ⟨[], (List.append_nil _).symm⟩
  | append_singleton later operation ih =>
    obtain ⟨more, same⟩ := ih
    rw [run_concat]
    rcases (r.run later).1.perform_routes operation with ⟨route, -, -, -, added⟩ | ⟨-, left, -⟩
    · exact ⟨more ++ [route], by rw [added, same, List.append_assoc]⟩
    · exact ⟨more, by rw [left, same]⟩

/-- What has been added in a run stands in the table after those that were there. -/
theorem run_routes_of_adds (adds : (r.run before).1.Adds operation route)
    (later : List (Operation κ)) : ∃ more,
      (r.run (before ++ operation :: later)).1.routes = (r.run before).1.routes ++ route :: more := by
  obtain ⟨more, same⟩ := ((r.run before).1.perform operation).1.run_routes later
  exact ⟨more, by rw [run_append, run_cons, same, adds.routes_eq, List.append_assoc]; rfl⟩

/-- Every route of the table has been added in the run, when those before it were there. -/
theorem adds_of_routes (blank : r.routes = []) {first last : List (Route κ)}
    (table : (r.run history).1.routes = first ++ route :: last) :
    ∃ before operation later, history = before ++ operation :: later ∧
      (r.run before).1.routes = first ∧ (r.run before).1.Adds operation route := by
  induction history using List.reverseRecOn generalizing last with
  | nil =>
    have empty : (r.run []).1.routes = [] := blank
    simp [empty] at table
  | append_singleton history operation ih =>
    -- The route is the one that the last operation adds, or has been there before.
    have old : ∀ last, (r.run history).1.routes = first ++ route :: last → ∃ before middle later,
        history ++ [operation] = before ++ middle :: later ∧
          (r.run before).1.routes = first ∧ (r.run before).1.Adds middle route := by
      intro last table
      obtain ⟨before, middle, later, rfl, there⟩ := ih table
      exact ⟨before, middle, later ++ [operation], by simp, there⟩
    rw [run_concat] at table
    rcases (r.run history).1.perform_routes operation with ⟨new, adds, -, -, added⟩ | ⟨-, left, -⟩
    · rw [added] at table
      rcases List.eq_nil_or_concat last with rfl | ⟨last, final, rfl⟩
      · obtain ⟨same, one⟩ := List.append_inj' table rfl
        cases one
        exact ⟨history, operation, [], rfl, same, adds⟩
      · rw [List.concat_eq_append, ← List.cons_append, ← List.append_assoc] at table
        exact old last (List.append_inj' table rfl).1
    · exact old last (left ▸ table)

/-- A path leads to the route that has been added first among those that match it. -/
theorem resolve_run_iff (blank : r.routes = []) :
    (r.run history).1.resolve path = some (route, groups) ↔
      ∃ before operation later, history = before ++ operation :: later ∧
        (r.run before).1.Adds operation route ∧ route.pattern.match? path = some groups ∧
        ∀ earlier middle between other, before = earlier ++ middle :: between →
          (r.run earlier).1.Adds middle other → other.pattern.match? path = none := by
  rw [resolve_eq_some_iff]
  constructor
  · rintro ⟨first, last, table, matched, missed⟩
    obtain ⟨before, operation, later, rfl, there, adds⟩ := adds_of_routes blank table
    refine ⟨before, operation, later, rfl, adds, matched, ?_⟩
    rintro earlier middle between other rfl adds'
    obtain ⟨more, same⟩ := run_routes_of_adds adds' between
    exact missed other (by rw [← there, same]; simp)
  · rintro ⟨before, operation, later, rfl, adds, matched, earliest⟩
    obtain ⟨more, same⟩ := run_routes_of_adds adds later
    refine ⟨_, more, same, matched, fun other inside => ?_⟩
    obtain ⟨first, last, table⟩ := List.append_of_mem inside
    obtain ⟨earlier, middle, between, cut, -, adds'⟩ := adds_of_routes blank table
    exact earliest earlier middle between other cut adds'

theorem WellKept.perform (kept : r.WellKept) (operation : Operation κ) :
    (r.perform operation).1.WellKept := by
  rcases r.perform_routes operation with ⟨route, -, asked, new, added⟩ | ⟨-, left, -⟩
  · refine ⟨fun other inside => ?_, ?_⟩
    · rw [added] at inside
      rcases List.mem_append.mp inside with old | last
      · exact kept.read other old
      · exact List.mem_singleton.mp last ▸ Operation.parse_of_route? asked
    · rw [texts, added, List.map_append]
      refine List.nodup_append.mpr ⟨kept.distinct, by simp, ?_⟩
      rintro text old _ last rfl
      cases List.mem_singleton.mp last
      exact new old
  · exact ⟨by rw [left]; exact kept.read, by rw [texts, left]; exact kept.distinct⟩

theorem WellKept.run (kept : r.WellKept) (history : List (Operation κ)) :
    (r.run history).1.WellKept := by
  induction history using List.reverseRecOn with
  | nil => exact kept
  | append_singleton history operation ih => rw [run_concat]; exact ih.perform operation

/-- A path leads to the first route that has been asked for and matches it; that some of the
registrations have been refused makes no difference. -/
theorem resolve_run_eq (blank : r.routes = []) (history : List (Operation κ)) (path : String) :
    (r.run history).1.resolve path = (history.filterMap Operation.route?).findSome? fun route =>
      (route.pattern.match? path).map (route, ·) := by
  have kept : r.WellKept := ⟨by simp [blank], by simp [texts, blank]⟩
  induction history using List.reverseRecOn with
  | nil =>
    have empty : (r.run []).1.routes = [] := blank
    simp [resolve, empty]
  | append_singleton history operation ih =>
    rw [run_concat, List.filterMap_append, List.findSome?_append, ← ih]
    have before := kept.run history
    generalize (r.run history).1 = s at before ⊢
    rcases s.perform_routes operation with ⟨route, -, asked, -, added⟩ | ⟨-, left, taken⟩
    · rw [resolve, added, List.findSome?_append, ← resolve]
      simp [asked]
    · rw [resolve, left, ← resolve]
      cases found : s.resolve path with
      | some led => rfl
      | none =>
        cases asked : operation.route? with
        | none => simp [asked]
        | some route =>
          -- A route of the same text is there, so it has the same pattern, and that does not match.
          obtain ⟨other, inside, same⟩ := List.mem_map.mp (taken route asked)
          have parsed := before.read other inside
          rw [same, Operation.parse_of_route? asked] at parsed
          have missed := resolve_eq_none.mp found other inside
          rw [← Except.ok.inj parsed] at missed
          simp [asked, missed]

/-! ## All of it -/

/-- What it is for the registrations of a router to be atomic and stable. -/
structure RegistersAtomically (r : Router κ) : Prop where
  /-- A registration is refused exactly if its pattern cannot be read or is registered, -/
  refused : ∀ pattern name target, (∃ e, r.register pattern name target = .error e) ↔
    (∃ e, Pattern.parse pattern = .error e) ∨ ∃ route ∈ r.routes, route.pattern.text = pattern
  /-- and then nothing changes; -/
  unchanged : ∀ pattern name target e, r.register pattern name target = .error e →
    r.perform (.register pattern name target) = (r, [])
  /-- otherwise one route is added at the end of the table, and nothing else changes. -/
  added : ∀ pattern name target next, r.register pattern name target = .ok next →
    ∃ p, Pattern.parse pattern = .ok p ∧ p.text = pattern ∧
      next = { r with routes := r.routes ++ [⟨name, p, target⟩] }
  /-- A path that led to a route leads to it still, and captures the same. -/
  kept : ∀ pattern name target next, r.register pattern name target = .ok next →
    ∀ path route groups, r.resolve path = some (route, groups) →
      next.resolve path = some (route, groups)
  /-- A path that led to none leads to the new route exactly if its pattern matches, and to no
  other. -/
  gained : ∀ pattern name target next p, r.register pattern name target = .ok next →
    Pattern.parse pattern = .ok p → ∀ path, r.resolve path = none → ∀ route groups,
      next.resolve path = some (route, groups) ↔
        route = ⟨name, p, target⟩ ∧ p.match? path = some groups

/-- What holds of the table of a router after a run from `start`. -/
structure TableInOrder (start : Router κ) (history : List (Operation κ)) (r : Router κ) : Prop where
  /-- No text is registered twice. -/
  distinct : (r.routes.map fun route => route.pattern.text).Nodup
  /-- A path leads to the route of the earliest registration that was accepted and whose pattern
  matches. -/
  earliest : ∀ path route groups, r.resolve path = some (route, groups) ↔
    ∃ before operation later, history = before ++ operation :: later ∧
      (start.run before).1.Adds operation route ∧ route.pattern.match? path = some groups ∧
      ∀ earlier middle between other, before = earlier ++ middle :: between →
        (start.run earlier).1.Adds middle other → other.pattern.match? path = none
  /-- The order of the registrations alone decides, the refused ones included. -/
  order : ∀ path, r.resolve path = (history.filterMap Operation.route?).findSome? fun route =>
    (route.pattern.match? path).map (route, ·)

theorem registersAtomically (r : Router κ) : r.RegistersAtomically := by
  refine ⟨?_, fun _ _ _ _ => perform_refused, ?_, ?_, ?_⟩
  · intro pattern name target
    have known : pattern ∈ r.texts ↔ ∃ route ∈ r.routes, route.pattern.text = pattern :=
      List.mem_map
    rw [← known]
    generalize outcome : r.register pattern name target = result
    cases outcome ▸ r.registers pattern name target with
    | malformed unread => simp [unread]
    | taken parsed known => simp [known]
    | added parsed new => simp [parsed, new]
  · intro pattern name target next accepted
    obtain ⟨p, parsed, same⟩ := register_eq accepted
    exact ⟨p, parsed, Pattern.text_of_parse parsed, same⟩
  · intro pattern name target next accepted path route groups found
    obtain ⟨p, -, rfl⟩ := register_eq accepted
    have resolved := r.resolve_adding ⟨name, p, target⟩ path
    rw [found] at resolved
    exact resolved
  · intro pattern name target next p accepted parsed path missed route groups
    obtain ⟨p', parsed', rfl⟩ := register_eq accepted
    cases parsed.symm.trans parsed'
    have resolved := r.resolve_adding ⟨name, p, target⟩ path
    rw [missed, Option.none_or] at resolved
    change (r.adding ⟨name, p, target⟩).resolve path = _ ↔ _
    rw [resolved, Option.map_eq_some_iff]
    constructor
    · rintro ⟨captured, matched, pair⟩
      cases pair
      exact ⟨rfl, matched⟩
    · rintro ⟨rfl, matched⟩
      exact ⟨groups, matched, rfl⟩

/-- Registrations are atomic in every state of a router, and whatever is registered, visited and left,
the table is in the order of the registrations. -/
theorem registrations_in_order (r : Router κ) (fallback : κ) (history : List (Operation κ)) :
    r.RegistersAtomically ∧
    TableInOrder { fallback } history (({ fallback } : Router κ).run history).1 := by
  have blank : ({ fallback } : Router κ).routes = [] := rfl
  have kept : ({ fallback } : Router κ).WellKept := ⟨by simp, by simp [texts]⟩
  exact ⟨r.registersAtomically, (kept.run history).distinct,
    fun path route groups => resolve_run_iff blank, resolve_run_eq blank history⟩

end Router

end MapSidebar
