import MapSidebar.Proofs.Lifecycle
import MapSidebar.Proofs.Navigation
import MapSidebar.Proofs.Pairs
import MapSidebar.Proofs.Subjects

/-!
# Endpoints

Two URLs that lead to standard routes make the sidebar fetch the same endpoint exactly when they ask
for the same content: the same route, the same kind of element, the same numbers, and the same value
for every parameter that the route passes on. How a URL spells a number, what else stands in its query
and what the sidebar has done before play no part.
-/
namespace MapSidebar

namespace StandardRoute

/-- What a parameter that is passed on is for a visit, if it is anything. -/
def given? (visit : Visit) (parameter : Forwarded) : Option String :=
  (visit.queryParam? parameter.name).or parameter.default

/-! ## What follows the path -/

/-- The query of an endpoint, with the mark before it; without pairs there is none. -/
def queryText : List (String × String) → List Char
  | [] => []
  | pairs => '?' :: Query.encodePairs pairs

theorem toList_endpoint (settings : Settings) (route : StandardRoute) (visit : Visit) :
    (route.endpoint settings visit).toList = settings.partialPrefix.toList ++
      ((route.path visit).toList ++ queryText (forwardedPairs route.forwarded visit)) := by
  unfold endpoint endpointUrl
  cases given : forwardedPairs route.forwarded visit with
  | nil => simp [queryText]
  | cons pair pairs => simp [queryText, Query.encode]

/-- A path without a mark and the pairs after it can be told apart. -/
theorem append_queryText_inj {path other : List Char} (absent : '?' ∉ path) (absent' : '?' ∉ other)
    {pairs more : List (String × String)} :
    path ++ queryText pairs = other ++ queryText more ↔ path = other ∧ pairs = more := by
  refine ⟨fun same => ?_, fun ⟨path, pairs⟩ => path ▸ pairs ▸ rfl⟩
  have cut := congrArg (Text.cutFirst '?') same
  cases pairs with
  | nil =>
    cases more with
    | nil => exact ⟨by simpa [queryText] using same, rfl⟩
    | cons next more =>
      rw [queryText, queryText, Text.cutFirst_append absent', List.append_nil,
        (Text.cutFirst_eq_none '?' path).mpr absent] at cut
      · cases cut
      · simp
  | cons pair pairs =>
    cases more with
    | nil =>
      rw [queryText, queryText, Text.cutFirst_append absent, List.append_nil,
        (Text.cutFirst_eq_none '?' other).mpr absent'] at cut
      · cases cut
      · simp
    | cons next more =>
      rw [queryText, queryText, Text.cutFirst_append absent, Text.cutFirst_append absent'] at cut
      · obtain ⟨paths, texts⟩ := Prod.mk.inj (Option.some.inj cut)
        exact ⟨paths, Query.encode_inj.mp (congrArg String.ofList texts)⟩
      · simp
      · simp

theorem forwardedPairs_cons (first : Forwarded) (forwarded : List Forwarded) (visit : Visit) :
    forwardedPairs (first :: forwarded) visit =
      ((given? visit first).map (first.name, ·)).toList ++ forwardedPairs forwarded visit := by
  cases given : given? visit first with
  | none => exact List.filterMap_cons_none (congrArg (Option.map (first.name, ·)) given)
  | some value => exact List.filterMap_cons_some (congrArg (Option.map (first.name, ·)) given)

/-- Only the names of parameters are passed on. -/
theorem lookup_forwardedPairs_of_absent {forwarded : List Forwarded} {name : String}
    (absent : name ∉ forwarded.map Forwarded.name) (visit : Visit) :
    (forwardedPairs forwarded visit).lookup name = none := by
  refine List.lookup_eq_none_iff.mpr fun pair member => ?_
  obtain ⟨parameter, inside, given⟩ := List.mem_filterMap.mp member
  obtain ⟨value, -, rfl⟩ := Option.map_eq_some_iff.mp given
  rw [bne_iff_ne]
  rintro rfl
  exact absent (List.mem_map_of_mem inside)

/-- Among the pairs that are passed on, each parameter is found by its name. -/
theorem lookup_forwardedPairs {forwarded : List Forwarded}
    (distinct : (forwarded.map Forwarded.name).Nodup) {parameter : Forwarded}
    (member : parameter ∈ forwarded) (visit : Visit) :
    (forwardedPairs forwarded visit).lookup parameter.name = given? visit parameter := by
  induction forwarded with
  | nil => cases member
  | cons first forwarded ih =>
    rw [List.map_cons, List.nodup_cons] at distinct
    rw [forwardedPairs_cons]
    rcases List.mem_cons.mp member with rfl | later
    · have rest := lookup_forwardedPairs_of_absent distinct.1 visit
      cases given? visit parameter <;> simp [rest]
    · have other : (parameter.name == first.name) = false :=
        beq_false_of_ne fun same => distinct.1 (same ▸ List.mem_map_of_mem later)
      have rest := ih distinct.2 later
      cases given? visit first <;> simp [List.lookup_cons, other, rest]

/-- The pairs that are passed on are the same exactly when every parameter is. -/
theorem forwardedPairs_eq_iff {forwarded : List Forwarded}
    (distinct : (forwarded.map Forwarded.name).Nodup) {visit other : Visit} :
    forwardedPairs forwarded visit = forwardedPairs forwarded other ↔
      ∀ parameter ∈ forwarded, given? visit parameter = given? other parameter := by
  constructor
  · intro same parameter member
    rw [← lookup_forwardedPairs distinct member, same, lookup_forwardedPairs distinct member]
  · intro same
    refine List.filterMap_congr fun parameter member => ?_
    exact congrArg (Option.map (parameter.name, ·)) (same parameter member)

/-! ## Endpoints and subjects -/

/-- The routes pass on no parameter twice. -/
theorem forwarded_distinct {route : StandardRoute} (standard : route ∈ all) :
    (route.forwarded.map Forwarded.name).Nodup := by
  have all_distinct : ∀ names ∈ all.map fun route => route.forwarded.map Forwarded.name,
      names.Nodup := by decide
  exact all_distinct _ (List.mem_map_of_mem standard)

/-- A route is known by its name. -/
theorem eq_of_name {route other : StandardRoute} (standard : route ∈ all) (standard' : other ∈ all)
    (same : route.name = other.name) : route = other := by
  have distinct : (all.map StandardRoute.name).Nodup := by decide
  exact List.inj_on_of_nodup_map distinct standard standard' same

/-- Two visits ask a route for the same content. Numbers that need more than 64 bits all count as
one. -/
structure SameContent (route : StandardRoute) (visit other : Visit) : Prop where
  kind : (visit.group? "type").bind ElementType.read? = (other.group? "type").bind ElementType.read?
  id : (visit.group? "id").map number64? = (other.group? "id").map number64?
  version : (visit.group? "version").map number64? = (other.group? "version").map number64?
  parameters : ∀ parameter ∈ route.forwarded, given? visit parameter = given? other parameter

/-- A visit of a standard route, as a URL makes it. -/
structure Visits (route : StandardRoute) (visit : Visit) : Prop where
  standard : route ∈ all
  matched : ∃ p path, Pattern.parse route.pattern = .ok p ∧ p.match? path = some visit.groups

/-- Endpoints are the same exactly if the same content is asked for. -/
theorem endpoint_eq_iff (settings : Settings) {route route' : StandardRoute} {visit visit' : Visit}
    (visits : route.Visits visit) (visits' : route'.Visits visit') :
    route.endpoint settings visit = route'.endpoint settings visit' ↔
      route = route' ∧ route.SameContent visit visit' := by
  obtain ⟨p, path, parsed, matched⟩ := visits.matched
  obtain ⟨s, name, about, asks⟩ := exists_subject visits.standard parsed matched
  obtain ⟨p', path', parsed', matched'⟩ := visits'.matched
  obtain ⟨s', name', about', asks'⟩ := exists_subject visits'.standard parsed' matched'
  have texts : route.endpoint settings visit = route'.endpoint settings visit' ↔
      route.path visit = route'.path visit' ∧
        forwardedPairs route.forwarded visit = forwardedPairs route'.forwarded visit' := by
    rw [← String.toList_inj, toList_endpoint, toList_endpoint, List.append_cancel_left_eq,
      append_queryText_inj, String.toList_inj]
    · rw [asks]
      exact s.mark_not_mem_pathOf
    · rw [asks']
      exact s'.mark_not_mem_pathOf
  rw [texts, asks, asks', Subject.pathOf_parts_inj, Subject.eq_iff, name, name', ← about.kind,
    ← about'.kind, ← about.id, ← about'.id, ← about.version, ← about'.version]
  constructor
  · rintro ⟨⟨names, kind, id, version⟩, pairs⟩
    cases eq_of_name visits.standard visits'.standard names
    exact ⟨rfl, kind, id, version,
      (forwardedPairs_eq_iff (forwarded_distinct visits.standard)).mp pairs⟩
  · rintro ⟨rfl, same⟩
    exact ⟨⟨rfl, same.kind, same.id, same.version⟩,
      (forwardedPairs_eq_iff (forwarded_distinct visits.standard)).mpr same.parameters⟩

end StandardRoute

/-! ## Where a URL leads -/

namespace Explorer

/-- An entry of a router is for a standard route: it has the name and the pattern of the route and leads
to the controller of its place. -/
def IsStandard (entry : Route Target) : Prop :=
  ∃ i route, StandardRoute.all[i]? = some route ∧ entry.name = route.name ∧
    entry.target = .controller i ∧ Pattern.parse route.pattern = .ok entry.pattern

/-- Registering standard routes adds nothing but entries for them. -/
theorem isStandard_of_foldlM {more : List (StandardRoute × Nat)} {r router : Router Target}
    (places : ∀ x ∈ more, StandardRoute.all[x.2]? = some x.1)
    (old : ∀ entry ∈ r.routes, IsStandard entry)
    (made : more.foldlM (fun router x => router.register x.1.pattern x.1.name (.controller x.2)) r =
      .ok router) : ∀ entry ∈ router.routes, IsStandard entry := by
  induction more generalizing r with
  | nil =>
    cases made
    exact old
  | cons x more ih =>
    rw [List.foldlM_cons] at made
    cases registered : r.register x.1.pattern x.1.name (.controller x.2) with
    | error e =>
      rw [registered] at made
      cases made
    | ok next =>
      rw [registered] at made
      obtain ⟨p, parsed, rfl⟩ := Router.register_eq registered
      refine ih (fun y later => places y (List.mem_cons_of_mem x later)) ?_ made
      intro entry member
      rcases List.mem_append.mp member with earlier | last
      · exact old entry earlier
      · rw [List.mem_singleton.mp last]
        exact ⟨x.2, x.1, places x (by simp), rfl, rfl, parsed⟩

theorem standardRouter_isStandard {router : Router Target} (made : standardRouter = .ok router) :
    ∀ entry ∈ router.routes, IsStandard entry :=
  isStandard_of_foldlM (fun _ member => List.mem_zipIdx_iff_getElem?.mp member)
    (fun _ member => absurd member List.not_mem_nil) made

/-- What a URL gives the controller that it leads to. -/
def visitOf (e : Explorer) (url : String) : Visit :=
  ⟨(e.dispatch url).2.groups, (Location.parse url).query, (Location.parse url).fragment⟩

/-- What a path is resolved to is an entry of the router, with what its pattern captures. -/
theorem mem_of_resolve {r : Router Target} {path : String} {entry : Route Target} {groups : Groups}
    (resolved : r.resolve path = some (entry, groups)) :
    entry ∈ r.routes ∧ entry.pattern.match? path = some groups := by
  obtain ⟨same, member, matched⟩ := List.exists_of_findSome?_eq_some resolved
  obtain ⟨captured, matched, pair⟩ := Option.map_eq_some_iff.mp matched
  cases pair
  exact ⟨member, matched⟩

/-- A URL that is resolved to a route leads to its target. -/
theorem destination_of_route {e : Explorer} {url name : String}
    (resolved : (e.dispatch url).2.route = some name) :
    ∃ entry ∈ e.router.routes, entry.name = name ∧
      entry.pattern.match? (Location.parse url).path = some (e.visitOf url).groups ∧
      e.router.destination url = (entry.target, e.visitOf url) := by
  unfold visitOf dispatch Router.dispatch Router.destination at *
  cases found : e.router.resolve (Location.parse url).path with
  | none => simp [found] at resolved
  | some taken =>
    obtain ⟨entry, groups⟩ := taken
    obtain ⟨member, matched⟩ := mem_of_resolve found
    simp only [found, Option.some.injEq] at resolved ⊢
    exact ⟨entry, member, resolved, matched, rfl⟩

end Explorer

/-! ## What is fetched -/

/-- Once a controller has been given a visit, the job of its fetch sends the request for it. -/
theorem Stage.sent_load {s : Stage} {i : Nat} {c : Controller} (at_i : s.controllers[i]? = some c)
    (visit : Visit) :
    ((s.load i visit).turn s.schedule.nextJob).schedule.sent =
      (s.load i visit).schedule.sent ++ [⟨s.schedule.nextJob, c.requestFor visit, false⟩] := by
  have queued : (s.load i visit).schedule.jobs[s.schedule.nextJob]? =
      some { task := .content i c.nextTicket visit (c.requestFor visit) } := by
    rw [load_eq at_i, ← s.release_nextJob c]
    exact List.getElem?_concat_length
  simp [turn, runJob, queued, Schedule.send, Schedule.setPhase, StageTask.request]

namespace Explorer

/-- The URL of the request that goes out for a URL once the job that the dispatch starts has its
turn. -/
def fetched? (e : Explorer) (url : String) : Option String :=
  let led := (e.dispatch url).1
  (led.happen (.turn e.stage.schedule.nextJob)).stage.schedule.sent[led.stage.schedule.sent.length]?.map
    (·.request.url)

/-- A URL that leads to a controller makes it fetch its endpoint for the visit. -/
theorem Orderly.fetched?_eq {specs : List ControllerSpec} {e : Explorer} (orderly : e.Orderly specs)
    {url : String} {i : Nat} {visit : Visit} {spec : ControllerSpec}
    (leads : e.router.destination url = (.controller i, visit)) (at_i : specs[i]? = some spec) :
    e.fetched? url = some (spec.endpoint visit) := by
  have made : (e.cleared (.controller i)).controllers.map Controller.spec = specs := by
    rcases orderly.cleared (.controller i) with ⟨-, ex⟩ | ex
    · exact ex.made
    · exact ex.made
  rw [← made, List.getElem?_map, Option.map_eq_some_iff] at at_i
  obtain ⟨c, at_i, rfl⟩ := at_i
  have sent := Stage.sent_load at_i visit
  rw [cleared_nextJob] at sent
  have stage : (e.dispatch url).1.stage = (e.cleared (.controller i)).load i visit := by
    rw [dispatch_eq, leads, goTo_stage]
    rfl
  simp [fetched?, Explorer.happen, stage, sent, Controller.requestFor]

/-- After any run, a URL that is resolved to a route is a visit of a standard route and makes the
sidebar fetch the endpoint of the route for it. -/
theorem fetches_endpoint {settings : Settings} {withList : Bool} {start : Explorer}
    (made : Explorer.new settings withList = .ok start) (history : List Happening) {url name : String}
    (resolved : ((start.run history).dispatch url).2.route = some name) :
    ∃ route : StandardRoute, route.name = name ∧
      route.Visits ((start.run history).visitOf url) ∧
      (start.run history).fetched? url =
        some (route.endpoint settings ((start.run history).visitOf url)) := by
  obtain ⟨same, made', -, -, orderly⟩ := new_eq settings withList
  cases made.symm.trans made'
  obtain ⟨entry, member, named, matched, leads⟩ := destination_of_route resolved
  have accepted : standardRouter = .ok start.router := by
    cases accepted : standardRouter with
    | error e =>
      rw [new, accepted] at made
      cases made
    | ok router =>
      rw [new, accepted] at made
      cases made
      rfl
  rw [(run_registered _ history).1] at member
  obtain ⟨i, route, at_i, same_name, target, parsed⟩ :=
    standardRouter_isStandard accepted entry member
  refine ⟨route, same_name.symm.trans named, ⟨List.mem_of_getElem? at_i, _, _, parsed, matched⟩, ?_⟩
  rw [target] at leads
  have at_spec : (specs settings withList)[i]? =
      some (route.spec settings (if withList then some 0 else none)) := by
    rw [specs, List.getElem?_map, at_i]
    rfl
  exact (orderly.run (specs_plain settings withList) history).fetched?_eq leads at_spec

/-- What is fetched for two URLs that are resolved to routes, each after a run of its own, is the same
exactly if they are resolved to one route and ask it for the same content. -/
theorem endpoints_are_canonical (settings : Settings) (withList : Bool) :
    ∃ start, Explorer.new settings withList = .ok start ∧
      ∀ history history' d d' url url' name name', d = start.run history →
        d' = start.run history' → (d.dispatch url).2.route = some name →
        (d'.dispatch url').2.route = some name' →
        ∃ endpoint endpoint', d.fetched? url = some endpoint ∧ d'.fetched? url' = some endpoint' ∧
          (endpoint = endpoint' ↔ name = name' ∧ ∃ route ∈ StandardRoute.all, route.name = name ∧
            route.SameContent (d.visitOf url) (d'.visitOf url')) := by
  obtain ⟨start, made, -⟩ := new_eq settings withList
  refine ⟨start, made, ?_⟩
  rintro history history' _ _ url url' name name' rfl rfl resolved resolved'
  obtain ⟨route, rfl, visits, fetched⟩ := fetches_endpoint made history resolved
  obtain ⟨route', rfl, visits', fetched'⟩ := fetches_endpoint made history' resolved'
  refine ⟨_, _, fetched, fetched', ?_⟩
  rw [StandardRoute.endpoint_eq_iff settings visits visits']
  constructor
  · rintro ⟨rfl, same⟩
    exact ⟨rfl, route, visits.standard, rfl, same⟩
  · rintro ⟨names, other, standard, same_name, same⟩
    cases StandardRoute.eq_of_name standard visits.standard same_name
    cases StandardRoute.eq_of_name visits.standard visits'.standard names
    exact ⟨rfl, same⟩

theorem endpoints_are_canonical_zeros : ∃ start : Explorer, Explorer.new {} false = .ok start ∧
    (start.dispatch "/node/007/history?page=1").2.route = some "element-history" ∧
    ((start.run [.action (.dispatch "/search")]).dispatch "/node/7/history").2.route =
      some "element-history" ∧
    start.fetched? "/node/007/history?page=1" =
      (start.run [.action (.dispatch "/search")]).fetched? "/node/7/history" := by
  obtain ⟨start, made, canonical⟩ := endpoints_are_canonical {} false
  cases made
  obtain ⟨endpoint, endpoint', fetched, fetched', same⟩ :=
    canonical [] [.action (.dispatch "/search")] _ _ "/node/007/history?page=1" "/node/7/history" _ _
      rfl rfl rfl rfl
  have content : endpoint = endpoint' := by
    refine same.mpr ⟨rfl, _, List.mem_of_getElem? (i := 1) rfl, rfl, rfl, rfl, rfl, ?_⟩
    decide +kernel
  exact ⟨_, rfl, rfl, rfl, fetched.trans (content ▸ fetched'.symm)⟩

end Explorer

end MapSidebar
