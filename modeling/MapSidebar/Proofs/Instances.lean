import MapSidebar.Route.Pattern
import Mathlib.Data.List.Basic

/-!
# Matching as instantiation

An instance of a pattern keeps each literal and puts a value for each capture, up to a place after
which only optional captures stand. The paths that a pattern matches are those whose segments are one
of its instances, and what a match captures are the values that were put. That a value can be read
off a match rests on what the reading of a pattern ensures: no two captures have the same name.
-/
namespace MapSidebar

namespace Text

def pathOf (parts : List String) : String := "/" ++ "/".intercalate parts

/-- A text can be a segment of a path. -/
def IsSegment (part : String) : Prop := part ≠ "" ∧ '/' ∉ part.toList

theorem intercalate_cons_cons {α : Type} (sep : α) (piece next : List α)
    (pieces : List (List α)) :
    [sep].intercalate (piece :: next :: pieces) =
      piece ++ sep :: [sep].intercalate (next :: pieces) := by
  simp [List.intercalate, List.intersperse]

variable {α : Type} [DecidableEq α]

theorem splitAt_of_not_mem {sep : α} {piece : List α} (absent : sep ∉ piece) :
    splitAt sep piece = [piece] := by
  induction piece with
  | nil => rfl
  | cons c rest ih =>
    simp only [List.mem_cons, not_or] at absent
    simp [splitAt, Ne.symm absent.1, ih absent.2]

theorem splitAt_append {sep : α} {piece : List α} (absent : sep ∉ piece) (rest : List α) :
    splitAt sep (piece ++ sep :: rest) = piece :: splitAt sep rest := by
  induction piece with
  | nil => simp [splitAt]
  | cons c piece ih =>
    simp only [List.mem_cons, not_or] at absent
    simp [splitAt, Ne.symm absent.1, ih absent.2]

/-- Pieces that are joined by a separator which none of them holds are found again. -/
theorem splitAt_intercalate {sep : α} {pieces : List (List α)} (some_piece : pieces ≠ [])
    (absent : ∀ piece ∈ pieces, sep ∉ piece) : splitAt sep ([sep].intercalate pieces) = pieces := by
  induction pieces with
  | nil => exact absurd rfl some_piece
  | cons piece pieces ih =>
    have first := absent piece (by simp)
    cases pieces with
    | nil => simp [List.intercalate, splitAt_of_not_mem first]
    | cons next pieces =>
      have rest := ih (by simp) fun p hp => absent p (by simp [hp])
      rw [intercalate_cons_cons, splitAt_append first, rest]

theorem isSegment_of_mem_segments {path part : String} (member : part ∈ segments path) :
    IsSegment part := by
  simp only [segments, List.mem_map, List.mem_filter, Bool.not_eq_true',
    List.isEmpty_eq_false_iff] at member
  obtain ⟨piece, ⟨cut, filled⟩, rfl⟩ := member
  refine ⟨fun empty => filled ?_, ?_⟩
  · simpa using congrArg String.toList empty
  · rw [String.toList_ofList]
    exact not_mem_of_mem_splitAt '/' _ piece cut

/-- The pieces of a path that has been put together, even if some of its parts are empty. -/
theorem splitAt_pathOf {parts : List String} (some_part : parts ≠ [])
    (absent : ∀ part ∈ parts, '/' ∉ part.toList) :
    splitAt '/' (pathOf parts).toList = [] :: parts.map String.toList := by
  have cut : splitAt '/' (pathOf parts).toList =
      [] :: splitAt '/' (['/'].intercalate (parts.map String.toList)) := by
    simp [pathOf, String.toList_intercalate, splitAt]
  rw [cut, splitAt_intercalate (by simpa using some_part) (by simpa using absent)]

/-- The segments of a path that has been put together are those that it was put together from. -/
theorem segments_pathOf {parts : List String} (clean : ∀ part ∈ parts, IsSegment part) :
    segments (pathOf parts) = parts := by
  have kept : (parts.map String.toList).filter (fun piece => !piece.isEmpty) =
      parts.map String.toList := by
    simp only [List.filter_eq_self, List.mem_map]
    rintro _ ⟨part, member, rfl⟩
    simpa using (clean part member).1
  by_cases none_there : parts = []
  · subst none_there
    rfl
  · rw [segments, splitAt_pathOf none_there fun part member => (clean part member).2]
    simp [kept]

end Text

/-! ## Instances -/

namespace Segment

/-- A segment with a value for its capture. -/
def fill (value : String → String) : Segment → String
  | .literal text => text
  | .capture name _ _ => value name

/-- The value for the capture is allowed by its constraint. -/
def Takes (value : String → String) : Segment → Prop
  | .literal _ => True
  | .capture name constraint _ => constraint.accepts (value name) = true

/-- The value for the capture can be a segment of a path. -/
def FitsPath (value : String → String) : Segment → Prop
  | .literal _ => True
  | .capture name _ _ => Text.IsSegment (value name)

/-- What a segment with a value for its capture gives a match. -/
def binding? (value : String → String) (segment : Segment) : Option (String × String) :=
  segment.name?.map fun name => (name, value name)

/-- A segment with what has been captured for it, if anything has. -/
def refill? (g : Groups) : Segment → Option String
  | .literal text => some text
  | .capture name _ _ => g.get? name

end Segment

/-- The names of the captures, in order. -/
def captureNames (segments : List Segment) : List String := segments.filterMap Segment.name?

/-- The captures of segments, with their values. -/
def bindings (value : String → String) (segments : List Segment) : Groups :=
  segments.filterMap (Segment.binding? value)

/-- Captured values give a value for every name, which is only of interest for the names that have
been captured. -/
def Groups.value (g : Groups) (name : String) : String := (g.get? name).getD ""

/-- Whether an instance of the pattern may end after `k` segments. -/
def Pattern.MayEnd (p : Pattern) (k : Nat) : Prop :=
  k ≤ p.segments.length ∧ ∀ segment ∈ p.segments.drop k, segment.isOptional = true

@[simp] theorem captureNames_nil : captureNames [] = [] := rfl

@[simp] theorem captureNames_literal (text : String) (segments : List Segment) :
    captureNames (.literal text :: segments) = captureNames segments := rfl

@[simp] theorem captureNames_capture (name : String) (constraint : Constraint) (optional : Bool)
    (segments : List Segment) :
    captureNames (.capture name constraint optional :: segments) =
      name :: captureNames segments := rfl

@[simp] theorem captureNames_append (segments more : List Segment) :
    captureNames (segments ++ more) = captureNames segments ++ captureNames more :=
  List.filterMap_append

section

variable (value : String → String)

@[simp] theorem bindings_nil : bindings value [] = [] := rfl

@[simp] theorem bindings_literal (text : String) (segments : List Segment) :
    bindings value (.literal text :: segments) = bindings value segments := rfl

@[simp] theorem bindings_capture (name : String) (constraint : Constraint) (optional : Bool)
    (segments : List Segment) :
    bindings value (.capture name constraint optional :: segments) =
      (name, value name) :: bindings value segments := rfl

end

theorem bindings_keys (value : String → String) (segments : List Segment) :
    (bindings value segments).map Prod.fst = captureNames segments := by
  simp [bindings, captureNames, Segment.binding?, List.map_filterMap, Function.comp_def]

/-- If no name is captured twice, each captured value is found by its name. -/
theorem Groups.get?_of_mem {g : Groups} (distinct : (g.map Prod.fst).Nodup) {name value : String}
    (member : (name, value) ∈ g) : g.get? name = some value := by
  obtain ⟨before, after, rfl⟩ := List.append_of_mem member
  refine List.lookup_eq_some_iff.mpr ⟨before, after, rfl, ?_⟩
  intro entry earlier
  rw [List.map_append, List.nodup_append] at distinct
  rw [bne_iff_ne]
  exact fun same => distinct.2.2 entry.1 (List.mem_map_of_mem earlier) name (by simp) same.symm

theorem Groups.mem_of_get? {g : Groups} {name value : String} (found : g.get? name = some value) :
    (name, value) ∈ g := by
  obtain ⟨before, after, rfl, -⟩ := List.lookup_eq_some_iff.mp found
  simp

/-! ## A match is an instance -/

namespace Pattern

/-- What is captured has the names of captures, in their order. -/
theorem matchSegments_keys {segments : List Segment} {parts : List String} {g : Groups}
    (matched : matchSegments segments parts = some g) :
    (g.map Prod.fst).Sublist (captureNames segments) := by
  induction segments generalizing parts g with
  | nil =>
    cases parts with
    | nil =>
      simp only [matchSegments, Option.some.injEq] at matched
      simp [← matched]
    | cons part parts => simp [matchSegments] at matched
  | cons segment segments ih =>
    have longer : (captureNames segments).Sublist (captureNames (segment :: segments)) :=
      (List.sublist_cons_self segment segments).filterMap _
    cases parts with
    | nil =>
      simp only [matchSegments, Option.ite_none_right_eq_some] at matched
      exact (ih matched.2).trans longer
    | cons part parts =>
      cases segment with
      | literal text =>
        simp only [matchSegments, Option.ite_none_right_eq_some] at matched
        exact (ih matched.2).trans longer
      | capture name constraint optional =>
        simp only [matchSegments, Option.ite_none_right_eq_some, Option.map_eq_some_iff] at matched
        obtain ⟨-, rest, matched, rfl⟩ := matched
        simpa using ih matched

/-- Segments that match are an instance, whichever values agree with what has been captured. -/
theorem instance_of_matchSegments {segments : List Segment} {parts : List String} {g : Groups}
    (matched : matchSegments segments parts = some g) {value : String → String}
    (agrees : ∀ binding ∈ g, value binding.1 = binding.2) :
    parts.length ≤ segments.length ∧
      (∀ segment ∈ segments.drop parts.length, segment.isOptional = true) ∧
      (∀ segment ∈ segments.take parts.length, segment.Takes value) ∧
      parts = (segments.take parts.length).map (Segment.fill value) ∧
      g = bindings value (segments.take parts.length) := by
  -- The place where the instance ends is the number of parts, so the parts are taken along.
  induction segments generalizing parts g with
  | nil =>
    cases parts with
    | nil =>
      simp only [matchSegments, Option.some.injEq] at matched
      simp [← matched]
    | cons part parts => simp [matchSegments] at matched
  | cons segment segments ih =>
    cases parts with
    | nil =>
      simp only [matchSegments, Option.ite_none_right_eq_some] at matched
      obtain ⟨-, optional, -, -, same⟩ := ih matched.2 agrees
      refine ⟨Nat.zero_le _, ?_, by simp, rfl, by simpa using same⟩
      simpa [matched.1] using optional
    | cons part parts =>
      cases segment with
      | literal text =>
        simp only [matchSegments, Option.ite_none_right_eq_some] at matched
        obtain ⟨rfl, matched⟩ := matched
        obtain ⟨bound, optional, takes, filled, same⟩ := ih matched agrees
        refine ⟨by simpa using bound, by simpa using optional, ?_, ?_, ?_⟩
        · simpa [Segment.Takes] using takes
        · simpa [Segment.fill] using filled
        · simpa using same
      | capture name constraint optional =>
        simp only [matchSegments, Option.ite_none_right_eq_some, Option.map_eq_some_iff] at matched
        obtain ⟨accepted, rest, matched, rfl⟩ := matched
        have own : value name = part := agrees (name, part) (by simp)
        obtain ⟨bound, optional, takes, filled, same⟩ :=
          ih matched fun binding member => agrees binding (by simp [member])
        refine ⟨by simpa using bound, by simpa using optional, ?_, ?_, ?_⟩
        · simpa [Segment.Takes, own, accepted] using takes
        · simpa [Segment.fill, own] using filled
        · simpa [own] using same

/-- Every instance matches. -/
theorem matchSegments_instance {segments : List Segment} {k : Nat} {value : String → String}
    (bound : k ≤ segments.length)
    (optional : ∀ segment ∈ segments.drop k, segment.isOptional = true)
    (takes : ∀ segment ∈ segments.take k, segment.Takes value) :
    matchSegments segments ((segments.take k).map (Segment.fill value)) =
      some (bindings value (segments.take k)) := by
  induction segments generalizing k with
  | nil => simp [matchSegments]
  | cons segment segments ih =>
    cases k with
    | zero =>
      simp only [List.drop_zero, List.mem_cons, forall_eq_or_imp] at optional
      have rest := ih (Nat.zero_le _) (by simpa using optional.2) (by simp)
      simp only [List.take_zero, List.map_nil] at rest ⊢
      simp [matchSegments, optional.1, rest]
    | succ k =>
      simp only [List.take_succ_cons, List.mem_cons, forall_eq_or_imp] at takes
      have rest := ih (by simpa using bound) (by simpa using optional) takes.2
      rw [List.take_succ_cons, List.map_cons]
      cases segment with
      | literal text => simp only [matchSegments, Segment.fill, if_true, rest, bindings_literal]
      | capture name constraint optional =>
        have accepted : constraint.accepts (value name) = true := takes.1
        simp only [matchSegments, Segment.fill, accepted, if_true, rest, Option.map_some,
          bindings_capture]

/-! ## What the reading of a pattern ensures -/

structure WellFormed (segments : List Segment) : Prop where
  distinct : (captureNames segments).Nodup
  literals : ∀ text, .literal text ∈ segments → Text.IsSegment text

theorem literal_of_parse {pattern part text : String}
    (parsed : Segment.parse pattern part = .ok (.literal text)) : text = part := by
  unfold Segment.parse at parsed
  split at parsed
  · unfold Segment.parseCapture at parsed
    dsimp only at parsed
    split at parsed
    · cases parsed
    · split at parsed
      · cases parsed
      · split at parsed <;> cases parsed
  · cases parsed
    rfl

theorem not_mem_of_extend {pattern name : String} {before : List Segment} {constraint : Constraint}
    {optional : Bool}
    (extends_ok : extend pattern before (.capture name constraint optional) = .ok ()) :
    name ∉ captureNames before := by
  simp only [extend] at extends_ok
  split at extends_ok
  · cases extends_ok
  next absent => simpa [captureNames] using absent

theorem WellFormed.concat {pattern part : String} {before : List Segment} {segment : Segment}
    (formed : WellFormed before) (clean : Text.IsSegment part)
    (parsed : Segment.parse pattern part = .ok segment)
    (extends_ok : extend pattern before segment = .ok ()) : WellFormed (before ++ [segment]) := by
  refine ⟨?_, ?_⟩
  · rw [captureNames_append]
    cases segment with
    | literal text => simpa using formed.distinct
    | capture name constraint optional =>
      have new := not_mem_of_extend extends_ok
      refine List.nodup_append.mpr ⟨formed.distinct, by simp, ?_⟩
      rintro old member _ last rfl
      have same : old = name := by simpa using last
      exact new (same ▸ member)
  · intro text member
    rcases List.mem_append.mp member with old | last
    · exact formed.literals text old
    · cases List.mem_singleton.mp last
      exact literal_of_parse parsed ▸ clean

theorem WellFormed.of_parseParts {pattern : String} {before segments : List Segment}
    {parts : List String} (formed : WellFormed before)
    (clean : ∀ part ∈ parts, Text.IsSegment part)
    (parsed : parseParts pattern before parts = .ok segments) : WellFormed segments := by
  induction parts generalizing before with
  | nil =>
    cases parsed
    exact formed
  | cons part parts ih =>
    cases read : Segment.parse pattern part with
    | error e => simp [parseParts, read, bind, Except.bind] at parsed
    | ok segment =>
      cases joined : extend pattern before segment with
      | error e => simp [parseParts, read, joined, bind, Except.bind] at parsed
      | ok _ =>
        simp only [parseParts, read, joined, bind, Except.bind] at parsed
        exact ih (formed.concat (clean part (by simp)) read joined)
          (fun part member => clean part (by simp [member])) parsed

theorem wellFormed_of_parse {text : String} {p : Pattern} (parsed : parse text = .ok p) :
    WellFormed p.segments := by
  unfold parse at parsed
  split at parsed
  · cases read : parseParts text [] (Text.segments text) with
    | error e => simp [read, Except.map] at parsed
    | ok segments =>
      simp only [read, Except.map, Except.ok.injEq] at parsed
      subst parsed
      exact WellFormed.of_parseParts ⟨by simp [captureNames], by simp⟩
        (fun part member => Text.isSegment_of_mem_segments member) read
  · cases parsed

/-! ## Both ways -/

variable {p : Pattern} {path : String} {g : Groups} {k : Nat} {value : String → String}

/-- What is captured is found by its name. -/
theorem agrees_of_match (formed : WellFormed p.segments) (matched : p.match? path = some g) :
    ∀ binding ∈ g, g.value binding.1 = binding.2 := by
  rintro ⟨name, captured⟩ member
  have distinct := formed.distinct.sublist (matchSegments_keys matched)
  simp [Groups.value, Groups.get?_of_mem distinct member]

theorem match?_eq_some_iff (formed : WellFormed p.segments) :
    p.match? path = some g ↔ ∃ k value, p.MayEnd k ∧
      (∀ segment ∈ p.segments.take k, segment.Takes value) ∧
      Text.segments path = (p.segments.take k).map (Segment.fill value) ∧
      g = bindings value (p.segments.take k) := by
  constructor
  · intro matched
    obtain ⟨bound, optional, takes, filled, same⟩ :=
      instance_of_matchSegments matched (agrees_of_match formed matched)
    exact ⟨_, g.value, ⟨bound, optional⟩, takes, filled, same⟩
  · rintro ⟨k, value, ⟨bound, optional⟩, takes, filled, rfl⟩
    rw [match?, filled]
    exact matchSegments_instance bound optional takes

/-- The captures of an instance have their values, and no other name has one. -/
theorem get?_bindings (formed : WellFormed p.segments) {name found : String} :
    (bindings value (p.segments.take k)).get? name = some found ↔
      name ∈ captureNames (p.segments.take k) ∧ found = value name := by
  have distinct : ((bindings value (p.segments.take k)).map Prod.fst).Nodup := by
    rw [bindings_keys]
    exact formed.distinct.sublist ((List.take_sublist k p.segments).filterMap _)
  have member : (name, found) ∈ bindings value (p.segments.take k) ↔
      name ∈ captureNames (p.segments.take k) ∧ found = value name := by
    simp only [bindings, captureNames, List.mem_filterMap, Segment.binding?,
      Option.map_eq_some_iff, Prod.mk.injEq]
    constructor
    · rintro ⟨segment, inside, key, named, rfl, rfl⟩
      exact ⟨⟨segment, inside, named⟩, rfl⟩
    · rintro ⟨⟨segment, inside, named⟩, rfl⟩
      exact ⟨segment, inside, name, named, rfl, rfl⟩
  exact ⟨fun has => member.mp (Groups.mem_of_get? has),
    fun has => Groups.get?_of_mem distinct (member.mpr has)⟩

/-- Putting what an instance captures into the pattern gives the segments of the instance. -/
theorem refill_bindings (formed : WellFormed p.segments) (ends : p.MayEnd k) :
    p.segments.filterMap (Segment.refill? (bindings value (p.segments.take k))) =
      (p.segments.take k).map (Segment.fill value) := by
  have joined := List.take_append_drop k p.segments
  have apart : ∀ name ∈ captureNames (p.segments.drop k),
      name ∉ captureNames (p.segments.take k) := by
    have distinct := formed.distinct
    rw [← joined, captureNames_append] at distinct
    exact fun name late early => (List.nodup_append.mp distinct).2.2 name early name late rfl
  have early : ∀ segment ∈ p.segments.take k,
      segment.refill? (bindings value (p.segments.take k)) = some (segment.fill value) := by
    intro segment member
    cases segment with
    | literal text => rfl
    | capture name constraint optional =>
      exact (get?_bindings formed).mpr ⟨List.mem_filterMap.mpr ⟨_, member, rfl⟩, rfl⟩
  have late : ∀ segment ∈ p.segments.drop k,
      segment.refill? (bindings value (p.segments.take k)) = none := by
    intro segment member
    cases segment with
    | literal text => simpa [Segment.isOptional] using ends.2 _ member
    | capture name constraint optional =>
      refine Option.eq_none_iff_forall_ne_some.mpr fun found has => ?_
      exact apart name (List.mem_filterMap.mpr ⟨_, member, rfl⟩) ((get?_bindings formed).mp has).1
  calc p.segments.filterMap (Segment.refill? (bindings value (p.segments.take k)))
      = (p.segments.take k).filterMap (Segment.refill? (bindings value (p.segments.take k))) ++
          (p.segments.drop k).filterMap
            (Segment.refill? (bindings value (p.segments.take k))) := by
        rw [← List.filterMap_append, joined]
    _ = (p.segments.take k).filterMap (some ∘ Segment.fill value) := by
        rw [List.filterMap_eq_nil_iff.mpr late, List.append_nil, List.filterMap_congr early]
        rfl
    _ = (p.segments.take k).map (Segment.fill value) := by rw [List.filterMap_eq_map]

/-- The parts of an instance can be segments of a path if the values for its captures can. -/
theorem isSegment_fill (formed : WellFormed p.segments)
    (fits : ∀ segment ∈ p.segments.take k, segment.FitsPath value) :
    ∀ part ∈ (p.segments.take k).map (Segment.fill value), Text.IsSegment part := by
  simp only [List.mem_map]
  rintro _ ⟨segment, member, rfl⟩
  cases segment with
  | literal text => exact formed.literals text (List.mem_of_mem_take member)
  | capture name constraint optional => exact fits _ member

/-- What it is for matching to be instantiation. -/
structure MatchesInstances (p : Pattern) : Prop where
  /-- No two captures have the same name. -/
  distinct : (captureNames p.segments).Nodup
  /-- A path matches exactly if its segments are an instance of the pattern. -/
  matched : ∀ path g, p.match? path = some g ↔ ∃ k value, p.MayEnd k ∧
    (∀ segment ∈ p.segments.take k, segment.Takes value) ∧
    Text.segments path = (p.segments.take k).map (Segment.fill value) ∧
    g = bindings value (p.segments.take k)
  /-- The names of the captures of an instance are given their values, and no others are. -/
  captured : ∀ k value name found,
    (bindings value (p.segments.take k)).get? name = some found ↔
      name ∈ captureNames (p.segments.take k) ∧ found = value name
  /-- Putting what a path captures into the pattern gives the segments of the path. -/
  refilled : ∀ path g, p.match? path = some g →
    p.segments.filterMap (Segment.refill? g) = Text.segments path
  /-- Every instance is matched as a path, and captures the values that were chosen. -/
  instances : ∀ k value, p.MayEnd k → (∀ segment ∈ p.segments.take k, segment.Takes value) →
    (∀ segment ∈ p.segments.take k, segment.FitsPath value) →
    p.match? (Text.pathOf ((p.segments.take k).map (Segment.fill value))) =
      some (bindings value (p.segments.take k))

/-- For every pattern that can be read, matching is instantiation, both ways. -/
theorem matching_is_instantiation {text : String} {p : Pattern} (parsed : parse text = .ok p) :
    p.MatchesInstances := by
  have formed := wellFormed_of_parse parsed
  refine ⟨formed.distinct, ?_, ?_, ?_, ?_⟩
  · exact fun path g => match?_eq_some_iff formed
  · exact fun k value name found => get?_bindings formed
  · intro path g matched
    obtain ⟨k, value, ends, -, filled, rfl⟩ := (match?_eq_some_iff formed).mp matched
    rw [filled]
    exact refill_bindings formed ends
  · intro k value ends takes fits
    refine (match?_eq_some_iff formed).mpr ⟨k, value, ends, takes, ?_, rfl⟩
    exact Text.segments_pathOf (isSegment_fill formed fits)

/-- A pattern with a literal, captures of two kinds and one that is optional. -/
def browse : Pattern where
  text := "/browse/:type(node|way)/:id(\\d+)/:version?"
  segments := [.literal "browse", .capture "type" (.oneOf ["node", "way"]) false,
    .capture "id" .digits false, .capture "version" .any true]

theorem matching_is_instantiation_browse :
    parse browse.text = .ok browse ∧ browse.MatchesInstances ∧
      browse.match? "/browse/way/12/" = some [("type", "way"), ("id", "12")] := by
  have parsed : parse browse.text = .ok browse := by decide +kernel
  exact ⟨parsed, matching_is_instantiation parsed, by decide +kernel⟩

end Pattern

end MapSidebar
