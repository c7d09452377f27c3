import MapSidebar.Proofs.Registration
import MapSidebar.Proofs.Tours

/-!
# Routes that stand apart

The order of the standard routes does not matter: no path is matched by two of them. That two patterns
match no path in common can be seen from their segments, at a place where one takes only words that the
other does not take, or where one is over and the other must go on.
-/
namespace MapSidebar

namespace Segment

def takes : Segment → String → Bool
  | .literal text, part => text = part
  | .capture _ constraint _, part => constraint.accepts part

/-- All that a segment takes, if these are words that it lists. -/
def words? : Segment → Option (List String)
  | .literal text => some [text]
  | .capture _ (.oneOf options) _ => some options
  | .capture _ .any _ => none
  | .capture _ .digits _ => none

/-- Whether a segment takes only words that it lists, and another one takes none of them. -/
def avoids (segment other : Segment) : Bool :=
  match segment.words? with
  | some words => words.all fun word => !other.takes word
  | none => false

theorem mem_of_takes {segment : Segment} {words : List String} {part : String}
    (listed : segment.words? = some words) (taken : segment.takes part = true) : part ∈ words := by
  cases segment with
  | literal text =>
    cases listed
    simpa [takes, eq_comm] using taken
  | capture name constraint optional =>
    cases constraint with
    | oneOf options =>
      cases listed
      simpa [takes, Constraint.accepts] using taken
    | any => cases listed
    | digits => cases listed

theorem not_takes_of_avoids {segment other : Segment} {part : String}
    (avoids : segment.avoids other = true) (taken : segment.takes part = true) :
    other.takes part = false := by
  unfold Segment.avoids at avoids
  cases listed : segment.words? with
  | none => simp [listed] at avoids
  | some words =>
    simp only [listed, List.all_eq_true, Bool.not_eq_true'] at avoids
    exact avoids part (mem_of_takes listed taken)

end Segment

/-! ## Patterns -/

namespace Pattern

/-- Whether it can be seen from the segments of two patterns that no path has both. -/
def apart : List Segment → List Segment → Bool
  | [], others => !others.all Segment.isOptional
  | segments, [] => !segments.all Segment.isOptional
  | segment :: segments, other :: others =>
    !(segment.isOptional && other.isOptional) &&
      (segment.avoids other || other.avoids segment || apart segments others)

theorem all_optional_of_match {segments : List Segment} {g : Groups}
    (matched : matchSegments segments [] = some g) : segments.all Segment.isOptional = true := by
  induction segments with
  | nil => rfl
  | cons segment segments ih =>
    simp only [matchSegments, Option.ite_none_right_eq_some] at matched
    rw [List.all_cons, matched.1, ih matched.2]
    rfl

/-- A path with a part is matched by a first segment that takes the part, and by what follows. -/
theorem match_cons {segment : Segment} {segments : List Segment} {part : String} {parts : List String}
    {g : Groups} (matched : matchSegments (segment :: segments) (part :: parts) = some g) :
    segment.takes part = true ∧ ∃ rest, matchSegments segments parts = some rest := by
  cases segment with
  | literal text =>
    simp only [matchSegments, Option.ite_none_right_eq_some] at matched
    exact ⟨by simpa [Segment.takes] using matched.1, g, matched.2⟩
  | capture name constraint optional =>
    simp only [matchSegments, Option.ite_none_right_eq_some, Option.map_eq_some_iff] at matched
    obtain ⟨accepted, rest, matched, -⟩ := matched
    exact ⟨accepted, rest, matched⟩

theorem not_both_match {segments others : List Segment} (parted : apart segments others = true)
    {parts : List String} {g h : Groups} (first : matchSegments segments parts = some g)
    (second : matchSegments others parts = some h) : False := by
  induction segments, others using apart.induct generalizing parts g h with
  | case1 others =>
    cases parts with
    | nil => simp [apart, all_optional_of_match second] at parted
    | cons part parts => cases first
  | case2 segments filled =>
    cases parts with
    | nil => simp [apart, all_optional_of_match first] at parted
    | cons part parts => cases second
  | case3 segment segments other others ih =>
    simp only [apart, Bool.and_eq_true, Bool.or_eq_true] at parted
    obtain ⟨filled, parted⟩ := parted
    cases parts with
    | nil =>
      -- A path without a part has only patterns that may be left out altogether.
      have optional := all_optional_of_match first
      have optional' := all_optional_of_match second
      rw [List.all_cons, Bool.and_eq_true] at optional optional'
      simp [optional.1, optional'.1] at filled
    | cons part parts =>
      obtain ⟨taken, rest, first⟩ := match_cons first
      obtain ⟨taken', rest', second⟩ := match_cons second
      rcases parted with (avoids | avoids) | parted
      · rw [Segment.not_takes_of_avoids avoids taken] at taken'
        cases taken'
      · rw [Segment.not_takes_of_avoids avoids taken'] at taken
        cases taken
      · exact ih parted first second

example : apart [.literal "note", .capture "id" .digits false]
    [.literal "note", .capture "id" .any false] = false := by decide

end Pattern

/-! ## Tables of routes -/

namespace Router

variable {κ : Type}

/-- The name of the route that a path leads to, with what the path captures. -/
def leading? (r : Router κ) (path : String) : Option (String × Groups) :=
  (r.resolve path).map fun found => (found.1.name, found.2)

end Router

namespace StandardRoute

/-- Registers routes in their order, each for the controller of its place. -/
def routerOf (order : List StandardRoute) : Except RouteError (Router Target) :=
  order.zipIdx.foldlM
    (fun router (route, index) => router.register route.pattern route.name (.controller index))
    { fallback := .browsing }

def segments (route : StandardRoute) : List Segment :=
  match Pattern.parse route.pattern with
  | .ok pattern => pattern.segments
  | .error _ => []

/-- A table whose routes can be registered, and of which no two match a path. -/
structure Separate (table : List StandardRoute) : Prop where
  readable : ∀ route ∈ table, (Pattern.parse route.pattern).toOption.isSome = true
  distinct : (table.map StandardRoute.pattern).Nodup
  apart : table.Pairwise fun route other => ∀ path, route.match? path = none ∨ other.match? path = none

variable {table order : List StandardRoute}

theorem match_eq_none_or {route other : StandardRoute}
    (parted : Pattern.apart route.segments other.segments = true) (path : String) :
    route.match? path = none ∨ other.match? path = none := by
  unfold segments at parted
  unfold match?
  cases read : Pattern.parse route.pattern with
  | error e => exact .inl rfl
  | ok p =>
    cases read' : Pattern.parse other.pattern with
    | error e => exact .inr rfl
    | ok q =>
      rw [read, read'] at parted
      dsimp only
      cases first : p.match? path with
      | none => exact .inl rfl
      | some g =>
        cases second : q.match? path with
        | none => exact .inr rfl
        | some h => exact (Pattern.not_both_match parted first second).elim

theorem separate_all : Separate all := by
  have parted : all.Pairwise fun route other =>
      Pattern.apart route.segments other.segments = true := by decide +kernel
  exact ⟨by decide +kernel, by decide +kernel, parted.imp match_eq_none_or⟩

namespace Separate

theorem perm (separate : Separate table) (shuffled : order.Perm table) : Separate order := by
  refine ⟨?_, ?_, ?_⟩
  · intro route member
    exact separate.readable route (shuffled.mem_iff.mp member)
  · exact (shuffled.map StandardRoute.pattern).nodup_iff.mpr separate.distinct
  · exact shuffled.symm.pairwise separate.apart fun missed path => (missed path).symm

/-- Two places of a separate table at which a path is matched are the same place. -/
theorem single (separate : Separate table) {i j : Nat} {route other : StandardRoute} {path : String}
    {g h : Groups} (at_i : table[i]? = some route) (at_j : table[j]? = some other)
    (first : route.match? path = some g) (second : other.match? path = some h) : i = j := by
  obtain ⟨inside, rfl⟩ := List.getElem?_eq_some_iff.mp at_i
  obtain ⟨inside', rfl⟩ := List.getElem?_eq_some_iff.mp at_j
  have apart := List.pairwise_iff_getElem.mp separate.apart
  rcases Nat.lt_trichotomy i j with before | same | after
  · simpa [first, second] using apart i j inside inside' before path
  · exact same
  · simpa [first, second] using apart j i inside' inside after path

end Separate

/-- The first result is the only one, so it does not depend on the order. -/
theorem findSome?_perm {α β : Type} {f : α → Option β} {xs ys : List α} (shuffled : xs.Perm ys)
    (apart : xs.Pairwise fun x y => f x = none ∨ f y = none) :
    xs.findSome? f = ys.findSome? f := by
  induction shuffled with
  | nil => rfl
  | cons x shuffled ih =>
    rw [List.findSome?_cons, List.findSome?_cons, ih (List.pairwise_cons.mp apart).2]
  | swap x y xs =>
    have missed := (List.pairwise_cons.mp apart).1 x (by simp)
    rcases missed with missed | missed
    · simp [List.findSome?_cons, missed]
    · simp [List.findSome?_cons, missed]
  | trans shuffled shuffled' ih ih' =>
    exact (ih apart).trans (ih' (shuffled.pairwise apart fun missed => missed.symm))

/-- Routes whose patterns are new and can be read are all accepted, in their order. -/
theorem registers_all {k : Nat} (r : Router Target)
    (readable : ∀ route ∈ order, (Pattern.parse route.pattern).toOption.isSome = true)
    (new : (r.texts ++ order.map StandardRoute.pattern).Nodup) :
    ∃ router entries, (order.zipIdx k).foldlM (fun (router : Router Target) (route, index) =>
        router.register route.pattern route.name (.controller index)) r = .ok router ∧
      router.routes = r.routes ++ entries ∧
      List.Forall₂ Explorer.EntryOf (order.zipIdx k) entries := by
  induction order generalizing k r with
  | nil => exact ⟨r, [], rfl, (List.append_nil _).symm, .nil⟩
  | cons route order ih =>
    generalize outcome : r.register route.pattern route.name (.controller k) = result
    cases outcome ▸ r.registers route.pattern route.name (.controller k) with
    | malformed unread =>
      have read := readable route List.mem_cons_self
      simp [unread, Except.toOption] at read
    | taken parsed known =>
      have fresh := (List.nodup_append.mp new).2.2 _ known route.pattern (by simp)
      exact absurd rfl fresh
    | @added p parsed unknown =>
      have texts : (r.adding ⟨route.name, p, .controller k⟩).texts = r.texts ++ [route.pattern] := by
        simp [Router.texts, Router.adding, Pattern.text_of_parse parsed]
      obtain ⟨router, entries, accepted, table, same⟩ :=
        ih (k := k + 1) (r.adding ⟨route.name, p, .controller k⟩)
          (fun other member => readable other (List.mem_cons_of_mem _ member))
          (by rw [texts]; simpa using new)
      refine ⟨router, ⟨route.name, p, .controller k⟩ :: entries, ?_, ?_, ?_⟩
      · rw [List.zipIdx_cons, List.foldlM_cons]
        dsimp only
        rw [outcome]
        exact accepted
      · rw [table, Router.adding, List.append_assoc]
        rfl
      · rw [List.zipIdx_cons]
        exact .cons ⟨rfl, rfl, parsed⟩ same

/-- The name of the first route of the order that matches a path, with what the path captures. -/
def first? (order : List StandardRoute) (path : String) : Option (String × Groups) :=
  (order.findSome? fun route => (route.match? path).map (route, ·)).map
    fun found => (found.1.name, found.2)

/-- The routes of a separate table can be registered in their order, and then each path leads to the
first one that matches it. -/
theorem routerOf_eq (separate : Separate order) : ∃ router, routerOf order = .ok router ∧
    router.routes.map Route.name = order.map StandardRoute.name ∧
    ∀ path, router.leading? path = first? order path := by
  obtain ⟨router, entries, accepted, table, same⟩ :=
    registers_all (k := 0) { fallback := .browsing } separate.readable separate.distinct
  rw [List.nil_append] at table
  refine ⟨router, accepted, ?_, fun path => ?_⟩
  · rw [table]
    have names : List.Forall₂ (· = ·) (entries.map Route.name)
        (order.zipIdx.map fun x => x.1.name) := by
      rw [List.forall₂_map_left_iff, List.forall₂_map_right_iff]
      exact same.flip.imp fun entry x is_entry => is_entry.name
    rw [List.forall₂_eq_eq_eq] at names
    have places : order.zipIdx.map (StandardRoute.name ∘ Prod.fst) = order.map StandardRoute.name := by
      rw [← List.map_map, List.zipIdx_map_fst]
    exact names.trans places
  · rw [Router.leading?, Router.resolve, table, first?]
    obtain ⟨none_first, none_there⟩ | ⟨route, groups, i, entry, -, is_entry, first, there⟩ :=
      Explorer.findSome?_entries same path
    · rw [none_first, none_there]
      rfl
    · rw [first, there, Option.map_some, Option.map_some, is_entry.name]

theorem first?_perm (separate : Separate table) (shuffled : order.Perm table) (path : String) :
    first? order path = first? table path := by
  have apart : order.Pairwise fun route other =>
      (route.match? path).map (route, ·) = none ∨ (other.match? path).map (other, ·) = none := by
    refine (separate.perm shuffled).apart.imp fun missed => ?_
    simpa only [Option.map_eq_none_iff] using missed path
  rw [first?, findSome?_perm shuffled apart, first?]

/-- In a separate table the first route that matches a path is the only one. -/
theorem first?_eq_some_iff (separate : Separate table) {path name : String} {groups : Groups} :
    first? table path = some (name, groups) ↔
      ∃ route ∈ table, route.name = name ∧ route.match? path = some groups := by
  unfold first?
  constructor
  · intro found
    obtain ⟨⟨route, captured⟩, first, same⟩ := Option.map_eq_some_iff.mp found
    cases same
    obtain ⟨other, member, matched⟩ := List.exists_of_findSome?_eq_some first
    obtain ⟨captured', matched, same⟩ := Option.map_eq_some_iff.mp matched
    cases same
    exact ⟨route, member, rfl, matched⟩
  · intro matching
    obtain ⟨route, member, rfl, matched⟩ := matching
    cases first : table.findSome? fun route => (route.match? path).map (route, ·) with
    | none =>
      have missed := List.findSome?_eq_none_iff.mp first route member
      rw [matched] at missed
      cases missed
    | some found =>
      obtain ⟨other, member', matched'⟩ := List.exists_of_findSome?_eq_some first
      obtain ⟨captured, captures, rfl⟩ := Option.map_eq_some_iff.mp matched'
      obtain ⟨i, at_i⟩ := List.getElem?_of_mem member
      obtain ⟨j, at_j⟩ := List.getElem?_of_mem member'
      cases separate.single at_i at_j matched captures
      cases at_i.symm.trans at_j
      cases matched.symm.trans captures
      rfl

/-! ## All of it -/

/-- What it is for the routes of a table, which `standard` has been made of, to stand apart. -/
structure StandApart (table : List StandardRoute) (standard : Router Target) : Prop where
  /-- Every pattern can be read. -/
  readable : ∀ route ∈ table, ∃ p, Pattern.parse route.pattern = .ok p
  /-- A path is matched at one place of the table at most; -/
  single : ∀ (path : String) (i j : Nat) (route other : StandardRoute) (g h : Groups),
    table[i]? = some route → table[j]? = some other →
      route.match? path = some g → other.match? path = some h → i = j
  /-- it leads to the route that matches it, wherever that stands. -/
  leads : ∀ path name groups, standard.leading? path = some (name, groups) ↔
    ∃ route ∈ table, route.name = name ∧ route.match? path = some groups
  /-- In whatever order the routes are registered, all of them are accepted, and every path leads to a
  route of the same name with the same groups, or to none. -/
  shuffled : ∀ order : List StandardRoute, order.Perm table → ∃ router,
    routerOf order = .ok router ∧ router.routes.map Route.name = order.map StandardRoute.name ∧
      ∀ path, router.leading? path = standard.leading? path

theorem Separate.standApart (separate : Separate table) {standard : Router Target}
    (made : routerOf table = .ok standard) : StandApart table standard := by
  obtain ⟨router, made', -, leads⟩ := routerOf_eq separate
  cases made.symm.trans made'
  refine ⟨?_, ?_, ?_, ?_⟩
  · intro route member
    have read := separate.readable route member
    cases parsed : Pattern.parse route.pattern with
    | error e => simp [parsed, Except.toOption] at read
    | ok p => exact ⟨p, rfl⟩
  · intro path i j route other g h at_i at_j first second
    exact separate.single at_i at_j first second
  · intro path name groups
    rw [leads, first?_eq_some_iff separate]
  · intro order shuffled
    obtain ⟨router, made, names, leads'⟩ := routerOf_eq (separate.perm shuffled)
    refine ⟨router, made, names, fun path => ?_⟩
    rw [leads, leads', first?_perm separate shuffled]

/-- The standard routes stand apart: no path is matched by two of them, and their order does not
matter. -/
theorem standard_routes_stand_apart :
    ∃ standard, Explorer.standardRouter = .ok standard ∧ StandApart all standard := by
  obtain ⟨standard, made, -⟩ := Explorer.standardRouter_eq
  exact ⟨standard, made, separate_all.standApart made⟩

end StandardRoute

end MapSidebar
