import MapSidebar.Proofs.Visits

/-!
# What a tour shows and logs

A tour visits its URLs with one router, one sidebar and one focus. As every visit begins and ends at
rest, what it shows of a URL is the same wherever the URL stands among the others: a header that
names the route, the markup that the answer makes, and the geometry that it makes, if any. Only the log
tells what came before: it has a line when another route takes over, and one for content that could not
be had, with the number of its ticket.
-/
namespace MapSidebar

/-- A piece of what a run writes. -/
inductive Output where
  | logged (line : LogLine)
  | shown (text : String)
  deriving DecidableEq

/-- The text of a piece that is no line of the log. -/
def Output.printed? : Output → Option String
  | logged _ => none
  | shown text => some text

theorem Output.printed_logged (log : List LogLine) :
    (log.map logged).filterMap printed? = [] := by
  simp [List.filterMap_map, Function.comp_def, printed?]

namespace StandardRoute

/-- What a path captures if the pattern of a route matches it. -/
def match? (route : StandardRoute) (path : String) : Option Groups :=
  match Pattern.parse route.pattern with
  | .ok pattern => pattern.match? path
  | .error _ => none

/-- The first standard route that matches a path, with what the path captures. -/
def leading? (path : String) : Option (StandardRoute × Groups) :=
  all.findSome? fun route => (route.match? path).map (route, ·)

theorem spec_bare (settings : Settings) (route : StandardRoute) :
    Stage.Bare (route.spec settings none) :=
  fun _ _ => List.append_nil _

end StandardRoute

/-- A failed fetch that has not been cancelled is logged. -/
theorem Controller.resultLog_eq (c : Controller) (ticket : Ticket) {a : Answer}
    (wanted : a ≠ .error .cancelled) : c.resultLog ticket (Controller.contentOf a) =
      match Controller.contentOf a with
      | .ok _ => []
      | .error e => [.contentFailed c.spec.name ticket.value e.message] := by
  cases failed : Controller.contentOf a with
  | ok content => rfl
  | error e =>
    have kept := Controller.not_cancellation_of_failed wanted failed
    simp [Controller.resultLog, kept]

namespace Explorer

variable {e : Explorer} {settings : Settings} {serve : Request → Answer} {url text : String}

/-! ## The route of a URL -/

/-- An entry of a router is for a route and leads to the controller of a place. -/
structure EntryOf (x : StandardRoute × Nat) (entry : Route Target) : Prop where
  name : entry.name = x.1.name
  target : entry.target = .controller x.2
  parsed : Pattern.parse x.1.pattern = .ok entry.pattern

/-- The entries of the standard router are those of the standard routes, in their order. -/
theorem standardRouter_entries {router : Router Target} (made : standardRouter = .ok router) :
    List.Forall₂ EntryOf StandardRoute.all.zipIdx router.routes := by
  obtain ⟨same, made', targets, -, -⟩ := standardRouter_eq
  cases made.symm.trans made'
  have length : router.routes.length = StandardRoute.all.length := by
    simpa using congrArg List.length targets
  refine List.forall₂_iff_get.mpr ⟨by simp [length], fun i inside bound => ?_⟩
  have target : router.routes[i].target = .controller i := by
    have at_i : (router.routes.map Route.target)[i]? = some (.controller i) := by
      rw [targets]
      simp [length ▸ bound]
    rw [List.getElem?_map, List.getElem?_eq_getElem bound] at at_i
    exact Option.some.inj at_i
  obtain ⟨j, route, at_j, name, target', parsed⟩ :=
    standardRouter_isStandard made _ (List.getElem_mem bound)
  cases target.symm.trans target'
  obtain ⟨_, rfl⟩ := List.getElem?_eq_some_iff.mp at_j
  exact ⟨by simpa using name, by simpa using target, by simpa using parsed⟩

/-- Of entries for routes, the first one that matches a path is for the first route that does. -/
theorem findSome?_entries {all : List StandardRoute} {entries : List (Route Target)} {k : Nat}
    (same : List.Forall₂ EntryOf (all.zipIdx k) entries) (path : String) :
    (all.findSome? (fun route => (route.match? path).map (route, ·)) = none ∧
      entries.findSome? (fun entry => (entry.pattern.match? path).map (entry, ·)) = none) ∨
    ∃ route groups i entry, (route, i) ∈ all.zipIdx k ∧ EntryOf (route, i) entry ∧
      all.findSome? (fun route => (route.match? path).map (route, ·)) = some (route, groups) ∧
      entries.findSome? (fun entry => (entry.pattern.match? path).map (entry, ·)) =
        some (entry, groups) := by
  induction all generalizing k entries with
  | nil =>
    cases same
    exact .inl ⟨rfl, rfl⟩
  | cons route all ih =>
    rw [List.zipIdx_cons] at same
    cases same with
    | @cons _ entry _ entries first rest =>
      have alike : route.match? path = entry.pattern.match? path := by
        simp only [StandardRoute.match?, first.parsed]
      rw [List.findSome?_cons, List.findSome?_cons, alike, List.zipIdx_cons]
      cases entry.pattern.match? path with
      | some groups => exact .inr ⟨route, groups, k, entry, by simp, first, rfl, rfl⟩
      | none =>
        rcases ih rest with none_left | ⟨route', groups, i, entry', member, leads⟩
        · exact .inl none_left
        · exact .inr ⟨route', groups, i, entry', List.mem_cons_of_mem _ member, leads⟩

/-- A path is resolved to the first standard route that matches it. -/
theorem resolve_standard {router : Router Target} (made : standardRouter = .ok router)
    (path : String) :
    (StandardRoute.leading? path = none ∧ router.resolve path = none) ∨
    ∃ route groups i entry, StandardRoute.all[i]? = some route ∧ EntryOf (route, i) entry ∧
      StandardRoute.leading? path = some (route, groups) ∧
      router.resolve path = some (entry, groups) := by
  rcases findSome?_entries (standardRouter_entries made) path with
    none_there | ⟨route, groups, i, entry, member, leads⟩
  · exact .inl none_there
  · exact .inr ⟨route, groups, i, entry, List.mem_zipIdx_iff_getElem?.mp member, leads⟩

/-! ## The block of a URL -/

/-- What is printed of a URL when its request is answered as `serve` says. -/
structure IsBlock (settings : Settings) (serve : Request → Answer) (url text : String) : Prop where
  /-- A URL that no route matches leads to plain browsing, where nothing is shown. -/
  index : StandardRoute.leading? (Location.parse url).path = none →
    text = "== " ++ url ++ " -> index\n\n"
  /-- The answer to the endpoint of its route makes the markup; there is a line of geometry exactly if
  the answer is structured content with a point or a line. -/
  route : ∀ route groups visit a,
    StandardRoute.leading? (Location.parse url).path = some (route, groups) →
    visit = ⟨groups, (Location.parse url).query, (Location.parse url).fragment⟩ →
    a = serve { url := route.endpoint settings visit } →
    ∃ focus : Option RenderData,
      text = "== " ++ url ++ " -> " ++ route.name ++ "\n"
        ++ (match Controller.contentOf a with
          | .ok content => content.markup
          | .error e => Controller.failureMarkup e) ++ "\n"
        ++ (match focus with
          | some data => "focus: " ++ data.json.text ++ "\n"
          | none => "") ∧
      ∀ data, focus = some data ↔ ∃ payload, Controller.contentOf a = .ok (.data payload) ∧
        (payload.render.points ≠ [] ∨ payload.render.lines ≠ []) ∧ data = payload.render

/-- A URL has one block. -/
theorem IsBlock.unique {text' : String} (first : IsBlock settings serve url text)
    (second : IsBlock settings serve url text') : text = text' := by
  cases leads : StandardRoute.leading? (Location.parse url).path with
  | none => rw [first.index leads, second.index leads]
  | some found =>
    obtain ⟨route, groups⟩ := found
    obtain ⟨focus, rfl, known⟩ := first.route route groups _ _ leads rfl rfl
    obtain ⟨focus', rfl, known'⟩ := second.route route groups _ _ leads rfl rfl
    have same : focus = focus' := Option.ext fun data => (known data).trans (known' data).symm
    rw [same]

/-! ## The log of a URL -/

/-- The name of the route that a URL leads to. -/
def nameOf (url : String) : String :=
  ((StandardRoute.leading? (Location.parse url).path).map (·.1.name)).getD "index"

/-- The name that a target is logged by. -/
def targetName? : Target → Option String
  | .browsing => some "index"
  | .controller i => StandardRoute.all[i]?.map (·.name)

/-- What is logged when the route `next` takes over. -/
def takeover (previous : Option String) (next : String) : List LogLine :=
  match previous with
  | some previous => if previous = next then [] else [.switching previous next]
  | none => []

/-- What is logged of a URL when its request is answered as `serve` says; `previous` is the name of the
route before, if there was one. -/
structure IsLog (settings : Settings) (serve : Request → Answer) (previous : Option String)
    (url : String) (log : List LogLine) : Prop where
  index : StandardRoute.leading? (Location.parse url).path = none → log = takeover previous "index"
  /-- A fetch that fails is logged with the reason and the number of its ticket. -/
  route : ∀ route groups visit a,
    StandardRoute.leading? (Location.parse url).path = some (route, groups) →
    visit = ⟨groups, (Location.parse url).query, (Location.parse url).fragment⟩ →
    a = serve { url := route.endpoint settings visit } →
    ∃ ticket, log = takeover previous route.name ++ match Controller.contentOf a with
      | .ok _ => []
      | .error e => [.contentFailed route.name ticket e.message]

/-! ## A visit from rest -/

/-- Where a URL leads. -/
inductive Leads (e : Explorer) (url : String) : Prop
  | index (unmatched : StandardRoute.leading? (Location.parse url).path = none)
      (goes : (e.router.destination url).1 = .browsing) (named : (e.dispatch url).2.route = none)
  | route {route groups i} (at_i : StandardRoute.all[i]? = some route)
      (first : StandardRoute.leading? (Location.parse url).path = some (route, groups))
      (goes : e.router.destination url = (.controller i,
        ⟨groups, (Location.parse url).query, (Location.parse url).fragment⟩))
      (named : (e.dispatch url).2.route = some route.name)

theorem Leads.named (leads : e.Leads url) :
    targetName? (e.router.destination url).1 = some (nameOf url) := by
  cases leads with
  | index unmatched goes named => rw [goes, nameOf, unmatched]; rfl
  | route at_i first goes named => rw [goes, nameOf, first, targetName?, at_i]; rfl

theorem dispatch_route (e : Explorer) (url : String) :
    (e.dispatch url).2.route = (e.router.resolve (Location.parse url).path).map (·.1.name) := by
  unfold dispatch Router.dispatch
  cases found : e.router.resolve (Location.parse url).path with
  | none => simp [found]
  | some taken => simp [found]

theorem dispatch_changed (e : Explorer) (url : String) :
    (e.dispatch url).2.changed = decide (e.router.active ≠ some (e.router.destination url).1) := by
  unfold dispatch Router.dispatch Router.destination
  cases found : e.router.resolve (Location.parse url).path with
  | none => simp [found]
  | some taken => simp [found]

/-- A URL leads where the first standard route that matches it leads. -/
theorem leads_of_routes {router : Router Target} (made : standardRouter = .ok router)
    (same : e.router.routes = router.routes) (fallback : e.router.fallback = .browsing)
    (url : String) : e.Leads url := by
  have resolves : e.router.resolve (Location.parse url).path =
      router.resolve (Location.parse url).path := by
    simp only [Router.resolve, same]
  have named := e.dispatch_route url
  rw [resolves] at named
  rcases resolve_standard made (Location.parse url).path with
    ⟨none_leads, unresolved⟩ | ⟨route, groups, i, entry, at_i, is_entry, leads, resolved⟩
  · refine .index none_leads ?_ ?_
    · simp only [Router.destination, resolves, unresolved, fallback]
    · rw [named, unresolved]
      rfl
  · refine .route at_i leads ?_ ?_
    · simp only [Router.destination, resolves, resolved, is_entry.target]
    · rw [named, resolved, Option.map_some, is_entry.name]

theorem visited_router (serve : Request → Answer) (e : Explorer) (url : String) :
    (e.visited serve url).1.router = (e.dispatch url).1.router := by
  have kept (e : Explorer) : (e.served serve).1.router = e.router := by
    unfold served
    split <;> rfl
  exact kept _

theorem visited_routes (serve : Request → Answer) (e : Explorer) (url : String) :
    (e.visited serve url).1.router.routes = e.router.routes := by
  rw [visited_router, dispatch_eq, goTo_router]

theorem specs_bare : ∀ spec ∈ specs settings false, Stage.Bare spec := by
  intro spec member
  obtain ⟨route, -, rfl⟩ := List.mem_map.mp member
  exact route.spec_bare settings

theorem specs_at {route : StandardRoute} {i : Nat} (at_i : StandardRoute.all[i]? = some route) :
    (specs settings false)[i]? = some (route.spec settings none) := by
  rw [specs, List.getElem?_map, at_i]
  rfl

/-- At rest a URL has its block, and the sidebar is at rest again. -/
theorem AtRest.visit (rest : e.AtRest (specs settings false)) (leads : e.Leads url)
    (wanted : ∀ request, serve request ≠ .error .cancelled) :
    (e.visited serve url).1.AtRest (specs settings false) ∧
      IsBlock settings serve url (e.visited serve url).2.2 := by
  have plain := specs_plain settings false
  have text : (e.visited serve url).2.2 =
      block url (e.dispatch url).2 (e.visited serve url).1.stage.screen := rfl
  cases leads with
  | index unmatched goes named =>
    obtain ⟨rests, sidebar, focus, -⟩ := rest.browse plain goes
    refine ⟨rests, fun _ => ?_, fun route groups _ _ leads => ?_⟩
    · rw [text, block, named, sidebar, focus]
      simp only [Option.getD_none, String.append_empty, String.append_assoc]
      rfl
    · cases unmatched.symm.trans leads
  | @route route groups i at_i first goes named =>
    obtain ⟨rests, shows, -⟩ := rest.fetch plain specs_bare wanted goes (specs_at at_i)
    refine ⟨rests, fun none_leads => ?_, ?_⟩
    · cases none_leads.symm.trans first
    · rintro route' groups' _ _ leads' rfl rfl
      cases first.symm.trans leads'
      refine ⟨_, ?_, fun data => Controller.focusOf_eq_some_iff⟩
      rw [text, block, named, shows.sidebar, shows.focus]
      rfl

/-- A note that could not be had. -/
example : (Explorer.new {} false).toOption.map (fun start =>
      (start.visited (fun _ => .error (.network "refused")) "/note/1").2) =
    some ([.contentFailed "note" 1 "network error: refused"],
      "== /note/1 -> note\n" ++ Controller.failureMarkup (.network "refused") ++ "\n") := by
  decide +kernel

/-! ## Names that are logged -/

/-- Different targets have different names. -/
theorem targetName?_inj {target other : Target} {name : String}
    (named : targetName? target = some name) (also : targetName? other = some name) :
    target = other := by
  have distinct : (StandardRoute.all.map StandardRoute.name).Nodup := by decide
  have apart : "index" ∉ StandardRoute.all.map StandardRoute.name := by decide
  have at_place {i : Nat} {name : String} (named : targetName? (.controller i) = some name) :
      (StandardRoute.all.map StandardRoute.name)[i]? = some name := by
    rwa [List.getElem?_map]
  cases target with
  | browsing =>
    cases named
    cases other with
    | browsing => rfl
    | controller j => exact absurd (List.mem_of_getElem? (at_place also)) apart
  | controller i =>
    have at_i := at_place named
    cases other with
    | browsing =>
      cases also
      exact absurd (List.mem_of_getElem? at_i) apart
    | controller j =>
      have bound := (List.getElem?_eq_some_iff.mp at_i).1
      rw [(List.getElem?_inj bound distinct).mp (at_i.trans (at_place also).symm)]

namespace Orderly

variable {withList : Bool}

theorem targetState_name (orderly : e.Orderly (specs settings withList)) (target : Target) :
    (e.targetState target).map Prod.fst = targetName? target := by
  cases target with
  | browsing => rfl
  | controller i =>
    have named : (e.stage.controllers.map Controller.spec)[i]? = (specs settings withList)[i]? := by
      rw [orderly.exclusive.made]
    rw [specs, List.getElem?_map, List.getElem?_map] at named
    have same := congrArg (Option.map ControllerSpec.name) named
    rw [Option.map_map, Option.map_map] at same
    rw [targetState, Option.map_map]
    exact same

/-- What is active has the name of its target. -/
theorem active?_name (orderly : e.Orderly (specs settings withList)) :
    e.active?.map Prod.fst = e.router.active.bind targetName? := by
  rw [active?, Option.map_bind]
  exact congrArg _ (funext orderly.targetState_name)

/-- What is active has a name. -/
theorem active_named (orderly : e.Orderly (specs settings withList)) {target : Target}
    (active : e.router.active = some target) : ∃ name, targetName? target = some name := by
  cases target with
  | browsing => exact ⟨_, rfl⟩
  | controller i =>
    have bound := orderly.active i ((e.owner_eq_some i).mpr active)
    rw [specs, List.length_map] at bound
    exact ⟨_, by rw [targetName?, List.getElem?_eq_getElem bound]; rfl⟩

/-- What has been led to a URL has the name of its target. -/
theorem led_name (orderly : e.Orderly (specs settings withList)) (url : String) :
    (e.dispatch url).1.active?.map Prod.fst = targetName? (e.router.destination url).1 := by
  have led : (e.dispatch url).1.Orderly (specs settings withList) :=
    orderly.happen (specs_plain settings withList) (.action (.dispatch url))
  rw [led.active?_name, dispatch_eq, goTo_router]
  rfl

/-- A dispatch logs that another route takes over, if one was active before. -/
theorem dispatchLog_eq (orderly : e.Orderly (specs settings withList)) (url : String) {name : String}
    (named : targetName? (e.router.destination url).1 = some name) :
    e.dispatchLog (e.dispatch url).1 (e.dispatch url).2 = takeover (e.active?.map Prod.fst) name := by
  have after := (orderly.led_name url).trans named
  obtain ⟨⟨next, state⟩, led, rfl⟩ := Option.map_eq_some_iff.mp after
  cases active : e.router.active with
  | none => simp [dispatchLog, active?, active, takeover]
  | some target =>
    obtain ⟨former, named_former⟩ := orderly.active_named active
    have before := orderly.active?_name
    rw [active, Option.bind_some, named_former] at before
    obtain ⟨⟨previous, old⟩, was, rfl⟩ := Option.map_eq_some_iff.mp before
    have changed := e.dispatch_changed url
    rw [active] at changed
    simp only [dispatchLog, was, led, changed, takeover, Option.map_some]
    by_cases same : target = (e.router.destination url).1
    · cases named_former.symm.trans (same ▸ named)
      simp [same]
    · have apart : previous ≠ next := fun alike =>
        same (targetName?_inj named_former (named.trans (congrArg some alike.symm)))
      simp [same, apart]

end Orderly

namespace AtRest

theorem visited_name (rest : (e.visited serve url).1.AtRest (specs settings false))
    (leads : e.Leads url) :
    (e.visited serve url).1.active?.map Prod.fst = some (nameOf url) := by
  rw [rest.orderly.active?_name, visited_router, dispatch_eq, goTo_router]
  exact leads.named

/-- At rest a URL is logged as it is after any visit to the same route. -/
theorem visit_log (rest : e.AtRest (specs settings false)) (leads : e.Leads url)
    (wanted : ∀ request, serve request ≠ .error .cancelled) :
    IsLog settings serve (e.active?.map Prod.fst) url (e.visited serve url).2.1 := by
  have plain := specs_plain settings false
  have taken := rest.orderly.dispatchLog_eq url leads.named
  rw [visited_log, taken]
  cases leads with
  | index unmatched goes named =>
    have silent : ((e.dispatch url).1.settle.served serve).2 = [] := (rest.browse plain goes).2.2.2
    refine ⟨fun _ => ?_, fun route groups _ _ leads => ?_⟩
    · rw [silent, List.append_nil, nameOf, unmatched]
      rfl
    · cases unmatched.symm.trans leads
  | @route route groups i at_i first goes named =>
    obtain ⟨-, -, c, ticket, made, logged⟩ := rest.fetch plain specs_bare wanted goes
      (specs_at at_i)
    refine ⟨fun none_leads => ?_, ?_⟩
    · cases none_leads.symm.trans first
    · rintro route' groups' _ _ leads' rfl rfl
      cases first.symm.trans leads'
      have name : nameOf url = route.name := by rw [nameOf, first]; rfl
      exact ⟨ticket.value, by rw [name, logged, Controller.resultLog_eq c ticket (wanted _), made]; rfl⟩

end AtRest

/-! ## Tours -/

/-- What is logged and shown of URLs that are visited one after another. -/
inductive Tells (settings : Settings) (serve : Request → Answer) :
    Option String → List String → List Output → Prop
  | nil {previous} : Tells settings serve previous [] []
  | cons {previous url urls log text pieces} (logged : IsLog settings serve previous url log)
      (shown : IsBlock settings serve url text)
      (rest : Tells settings serve (some (nameOf url)) urls pieces) :
      Tells settings serve previous (url :: urls) (log.map .logged ++ .shown text :: pieces)

/-- What a tour hands over. -/
def pieces (serve : Request → Answer) : Explorer → List String → List Output
  | _, [] => []
  | e, url :: urls =>
    (e.visited serve url).2.1.map .logged ++ .shown (e.visited serve url).2.2 ::
      pieces serve (e.visited serve url).1 urls

/-- From rest each URL has its block, wherever it stands, and its lines of the log. -/
theorem AtRest.tells (rest : e.AtRest (specs settings false)) {router : Router Target}
    (made : standardRouter = .ok router) (same : e.router.routes = router.routes)
    (wanted : ∀ request, serve request ≠ .error .cancelled) (urls : List String) :
    Tells settings serve (e.active?.map Prod.fst) urls (e.pieces serve urls) := by
  induction urls generalizing e with
  | nil => exact .nil
  | cons url urls ih =>
    have leads := leads_of_routes made same rest.orderly.fallback url
    obtain ⟨rests, shown⟩ := rest.visit leads wanted
    have later := ih rests ((visited_routes serve e url).trans same)
    rw [visited_name rests leads] at later
    exact .cons (rest.visit_log leads wanted) shown later

/-- What is handed over is kept as the pieces of what is written. -/
def keep (piece : Output) : StateM (List Output) Unit := modify (· ++ [piece])

end Explorer

end MapSidebar
