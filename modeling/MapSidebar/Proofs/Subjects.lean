import MapSidebar.Proofs.CapturedNumbers
import MapSidebar.Proofs.Instances

/-!
# What an endpoint asks for

The path of an endpoint says which of the standard routes it belongs to and which element, changeset
or note is meant. It can be read back: the path determines the route, the kind of element and the
numbers, and of a number that cannot be read it tells that it could not be read.
-/
namespace MapSidebar

/-- What the path of an endpoint asks for. -/
inductive Subject where
  | version (kind : ElementType) (id number : Option Nat)
  | history (kind : ElementType) (id : Option Nat)
  | element (kind : ElementType) (id : Option Nat)
  | changeset (id : Option Nat)
  | note (id : Option Nat)
  | place
  | search
  | features
  deriving DecidableEq, Repr

namespace Subject

def route : Subject → String
  | version .. => "element-version"
  | history .. => "element-history"
  | element .. => "element"
  | changeset _ => "changeset"
  | note _ => "note"
  | place => "where-is-this"
  | search => "search"
  | features => "query-features"

/-- The kind of element, of a subject that has one. -/
def kind? : Subject → Option ElementType
  | version kind _ _ | history kind _ | element kind _ => some kind
  | _ => none

/-- The number, of a subject that has one. -/
def id? : Subject → Option (Option Nat)
  | version _ id _ | history _ id | element _ id | changeset id | note id => some id
  | _ => none

/-- The number of the version, of a subject that has one. -/
def version? : Subject → Option (Option Nat)
  | version _ _ number => some number
  | _ => none

def parts : Subject → List String
  | version kind id number => [kind.text, numberWord id, "history", numberWord number]
  | history kind id => [kind.text, numberWord id, "history"]
  | element kind id => [kind.text, numberWord id]
  | changeset id => ["changeset", numberWord id]
  | note id => ["note", numberWord id]
  | place => ["where-is-this"]
  | search => ["search"]
  | features => ["query"]

/-- The subject whose path has these parts. -/
def ofParts? : List String → Option Subject
  | [kind, id, _, number] =>
    (ElementType.read? kind).map (version · (wordNumber? id) (wordNumber? number))
  | [kind, id, _] => (ElementType.read? kind).map (history · (wordNumber? id))
  | [word, id] =>
    if word = "changeset" then some (changeset (wordNumber? id))
    else if word = "note" then some (note (wordNumber? id))
    else (ElementType.read? word).map (element · (wordNumber? id))
  | [word] =>
    if word = "where-is-this" then some place
    else if word = "search" then some search
    else some features
  | _ => none

/-- A subject is found again in its path. -/
theorem ofParts?_parts (s : Subject) : ofParts? s.parts = some s := by
  cases s with
  | version kind id number => simp [parts, ofParts?, wordNumber?_numberWord]
  | history kind id => simp [parts, ofParts?, wordNumber?_numberWord]
  | element kind id =>
    -- No kind of element is named like one of the other two objects.
    have other : kind.text ≠ "changeset" ∧ kind.text ≠ "note" := by cases kind <;> decide
    simp [parts, ofParts?, wordNumber?_numberWord, other]
  | changeset id => simp [parts, ofParts?, wordNumber?_numberWord]
  | note id => simp [parts, ofParts?, wordNumber?_numberWord]
  | place => rfl
  | search => rfl
  | features => rfl

theorem parts_inj {s t : Subject} : s.parts = t.parts ↔ s = t := by
  refine ⟨fun same => ?_, fun same => same ▸ rfl⟩
  exact Option.some.inj (((ofParts?_parts s).symm.trans (congrArg ofParts? same)).trans
    (ofParts?_parts t))

/-- A subject is known by its route, its kind and its numbers. -/
theorem eq_iff {s t : Subject} : s = t ↔
    s.route = t.route ∧ s.kind? = t.kind? ∧ s.id? = t.id? ∧ s.version? = t.version? := by
  refine ⟨fun same => same ▸ ⟨rfl, rfl, rfl, rfl⟩, fun ⟨name, kind, id, number⟩ => ?_⟩
  cases s <;> cases t <;> simp_all [route, kind?, id?, version?]

theorem parts_ne_nil (s : Subject) : s.parts ≠ [] := by cases s <;> simp [parts]

/-- The parts of a path hold neither the separator of the path nor the mark that ends it. -/
theorem parts_clean {s : Subject} {part : String} (member : part ∈ s.parts) :
    '/' ∉ part.toList ∧ '?' ∉ part.toList := by
  have number : ∀ n : Option Nat,
      '/' ∉ (numberWord n).toList ∧ '?' ∉ (numberWord n).toList := fun n =>
    ⟨fun slash => by simpa using isDigit_of_mem_numberWord slash,
      fun mark => by simpa using isDigit_of_mem_numberWord mark⟩
  have kind : ∀ kind : ElementType, '/' ∉ kind.text.toList ∧ '?' ∉ kind.text.toList := fun kind =>
    by cases kind <;> decide
  revert part
  cases s <;> simp [parts, kind, number]

end Subject

/-! ## Paths -/

namespace Text

@[simp] theorem toList_pathOf_singleton (part : String) :
    (pathOf [part]).toList = '/' :: part.toList := by
  simp [pathOf]

@[simp] theorem toList_pathOf_cons (part next : String) (parts : List String) :
    (pathOf (part :: next :: parts)).toList =
      '/' :: (part.toList ++ (pathOf (next :: parts)).toList) := by
  simp [pathOf, String.toList_intercalate, List.intercalate]

/-- What stands in joined pieces stands in one of them or is the separator. -/
theorem mem_intercalate {α : Type} {sep c : α} {pieces : List (List α)}
    (member : c ∈ [sep].intercalate pieces) : c = sep ∨ ∃ piece ∈ pieces, c ∈ piece := by
  induction pieces with
  | nil => cases member
  | cons piece pieces ih =>
    cases pieces with
    | nil => exact .inr ⟨piece, by simp, by simpa [List.intercalate] using member⟩
    | cons next pieces =>
      rw [intercalate_cons_cons, List.mem_append, List.mem_cons] at member
      rcases member with first | rfl | rest
      · exact .inr ⟨piece, by simp, first⟩
      · exact .inl rfl
      · rcases ih rest with rfl | ⟨later, inside, here⟩
        · exact .inl rfl
        · exact .inr ⟨later, List.mem_cons_of_mem piece inside, here⟩

end Text

namespace Subject

/-- The mark at which a query begins is not in a path. -/
theorem mark_not_mem_pathOf (s : Subject) : '?' ∉ (Text.pathOf s.parts).toList := by
  intro member
  have joined : '?' ∈ ['/'].intercalate (s.parts.map String.toList) := by
    simpa [Text.pathOf, String.toList_intercalate] using member
  rcases Text.mem_intercalate joined with slash | ⟨piece, of_path, inside⟩
  · cases slash
  · obtain ⟨part, member, rfl⟩ := List.mem_map.mp of_path
    exact (parts_clean member).2 inside

/-- Two subjects with one path are the same. -/
theorem pathOf_parts_inj {s t : Subject} :
    Text.pathOf s.parts = Text.pathOf t.parts ↔ s = t := by
  refine ⟨fun same => ?_, fun same => same ▸ rfl⟩
  have cut : Text.splitAt '/' (Text.pathOf s.parts).toList =
      Text.splitAt '/' (Text.pathOf t.parts).toList := by rw [same]
  rw [Text.splitAt_pathOf s.parts_ne_nil fun part member => (parts_clean member).1,
    Text.splitAt_pathOf t.parts_ne_nil fun part member => (parts_clean member).1] at cut
  exact parts_inj.mp (List.map_injective_iff.mpr (fun _ _ => String.toList_injective)
    (List.cons.inj cut).2)

end Subject

/-! ## What a route captures -/

namespace Pattern

variable {p : Pattern} {path : String} {g : Groups} {name : String} {constraint : Constraint}

/-- A capture that is not optional has a value that it takes. -/
theorem captured (formed : WellFormed p.segments) (matched : p.match? path = some g)
    (member : .capture name constraint false ∈ p.segments) :
    ∃ raw, g.get? name = some raw ∧ raw ≠ "" ∧ constraint.accepts raw = true := by
  obtain ⟨k, value, ends, takes, filled, rfl⟩ := (match?_eq_some_iff formed).mp matched
  have early : Segment.capture name constraint false ∈ p.segments.take k := by
    rcases List.mem_append.mp ((List.take_append_drop k p.segments).symm ▸ member) with early | late
    · exact early
    · cases ends.2 _ late
  have part : value name ∈ Text.segments path := by
    rw [filled]
    exact List.mem_map.mpr ⟨_, early, rfl⟩
  exact ⟨value name, (get?_bindings formed).mpr ⟨List.mem_filterMap.mpr ⟨_, early, rfl⟩, rfl⟩,
    (Text.isSegment_of_mem_segments part).1, takes _ early⟩

/-- What no segment captures has no value. -/
theorem not_captured (matched : p.match? path = some g) (absent : name ∉ captureNames p.segments) :
    g.get? name = none := by
  refine List.lookup_eq_none_iff.mpr fun binding member => ?_
  rw [bne_iff_ne]
  rintro rfl
  exact absent ((matchSegments_keys matched).subset (List.mem_map_of_mem member))

end Pattern

/-! ## Where the standard routes lead -/

namespace StandardRoute

def kindSegment : Segment := .capture "type" (.oneOf ["node", "way", "relation"]) false

def numberSegment (name : String) : Segment := .capture name .digits false

variable {p : Pattern} {path name : String} {visit : Visit}

/-- What a pattern takes for a kind is the word for one. -/
theorem captured_kind (formed : Pattern.WellFormed p.segments)
    (matched : p.match? path = some visit.groups) (member : kindSegment ∈ p.segments) :
    ∃ kind : ElementType, visit.group? "type" = some kind.text := by
  obtain ⟨raw, captured, -, accepted⟩ := Pattern.captured formed matched member
  simp only [Constraint.accepts, List.contains_iff_mem, List.mem_cons, List.not_mem_nil,
    or_false] at accepted
  rcases accepted with rfl | rfl | rfl
  · exact ⟨.node, captured⟩
  · exact ⟨.way, captured⟩
  · exact ⟨.relation, captured⟩

/-- What a pattern takes for a number is a text of digits. -/
theorem captured_number (formed : Pattern.WellFormed p.segments)
    (matched : p.match? path = some visit.groups) (member : numberSegment name ∈ p.segments) :
    ∃ raw, visit.group? name = some raw ∧ raw ≠ "" ∧ ∀ c ∈ raw.toList, c.isDigit = true := by
  obtain ⟨raw, captured, filled, accepted⟩ := Pattern.captured formed matched member
  exact ⟨raw, captured, filled, by simpa [Constraint.accepts] using accepted⟩

/-- A captured kind is written as it was captured. -/
theorem kind_of_captured (formed : Pattern.WellFormed p.segments)
    (matched : p.match? path = some visit.groups) (member : kindSegment ∈ p.segments) :
    ∃ kind, (visit.group? "type").bind ElementType.read? = some kind ∧
      kindText visit "type" = kind.text := by
  obtain ⟨kind, group⟩ := captured_kind formed matched member
  exact ⟨kind, by simp [group], by simp [kindText, group]⟩

/-- A captured number is written as the number that it is. -/
theorem number_of_captured (formed : Pattern.WellFormed p.segments)
    (matched : p.match? path = some visit.groups) (member : numberSegment name ∈ p.segments) :
    ∃ n, (visit.group? name).map number64? = some n ∧ numberText visit name = numberWord n := by
  obtain ⟨raw, group, filled, digits⟩ := captured_number formed matched member
  exact ⟨number64? raw, by simp [group], numberText_eq group filled digits⟩

/-- A captured element is written as its kind and its number. -/
theorem element_of_captured (formed : Pattern.WellFormed p.segments)
    (matched : p.match? path = some visit.groups) (kind_member : kindSegment ∈ p.segments)
    (id_member : numberSegment "id" ∈ p.segments) :
    ∃ kind id, (visit.group? "type").bind ElementType.read? = some kind ∧
      (visit.group? "id").map number64? = some id ∧
      elementPath visit = Text.pathOf [kind.text, numberWord id] := by
  obtain ⟨kind, is_kind, kind_text⟩ := kind_of_captured formed matched kind_member
  obtain ⟨id, is_id, id_text⟩ := number_of_captured formed matched id_member
  refine ⟨kind, id, is_kind, is_id, String.toList_inj.mp ?_⟩
  simp [elementPath, kind_text, id_text]

end StandardRoute

namespace Subject

/-- A subject is what a visit is about. -/
structure Of (s : Subject) (visit : Visit) : Prop where
  kind : (visit.group? "type").bind ElementType.read? = s.kind?
  id : (visit.group? "id").map number64? = s.id?
  version : (visit.group? "version").map number64? = s.version?

/-- A visit for which nothing is captured is about nothing that has a kind or a number. -/
theorem Of.of_none {s : Subject} {visit : Visit} (none_there : ∀ name, visit.group? name = none)
    (kind : s.kind? = none) (id : s.id? = none) (version : s.version? = none) : s.Of visit := by
  refine ⟨?_, ?_, ?_⟩
  · rw [none_there, kind]
    rfl
  · rw [none_there, id]
    rfl
  · rw [none_there, version]
    rfl

end Subject

/-- What a standard route captures is a subject of the route, and the path of the endpoint asks for
it. -/
theorem StandardRoute.exists_subject {route : StandardRoute} (standard : route ∈ all) {p : Pattern}
    (parsed : Pattern.parse route.pattern = .ok p) {path : String} {visit : Visit}
    (matched : p.match? path = some visit.groups) :
    ∃ s : Subject, s.route = route.name ∧ s.Of visit ∧ route.path visit = Text.pathOf s.parts := by
  have formed := Pattern.wellFormed_of_parse parsed
  have element := element_of_captured formed matched
  have number : ∀ name, numberSegment name ∈ p.segments → _ := fun name =>
    number_of_captured formed matched
  have absent : ∀ name, name ∉ captureNames p.segments → visit.group? name = none := fun name =>
    Pattern.not_captured matched
  simp only [all, List.mem_cons, List.not_mem_nil, or_false] at standard
  rcases standard with rfl | rfl | rfl | rfl | rfl | rfl | rfl | rfl
  · obtain rfl : p = ⟨_, [kindSegment, numberSegment "id", .literal "history",
      numberSegment "version"]⟩ := Except.ok.inj (parsed.symm.trans rfl)
    obtain ⟨kind, id, is_kind, is_id, text⟩ := element (by simp) (by simp)
    obtain ⟨version, is_version, version_text⟩ := number "version" (by simp)
    refine ⟨.version kind id version, rfl, ⟨is_kind, is_id, is_version⟩, String.toList_inj.mp ?_⟩
    simp [text, version_text, Subject.parts]
  · obtain rfl : p = ⟨_, [kindSegment, numberSegment "id", .literal "history"]⟩ :=
      Except.ok.inj (parsed.symm.trans rfl)
    obtain ⟨kind, id, is_kind, is_id, text⟩ := element (by simp) (by simp)
    have no_version := absent "version" (by decide)
    refine ⟨.history kind id, rfl, ⟨is_kind, is_id, by rw [no_version]; rfl⟩,
      String.toList_inj.mp ?_⟩
    simp [text, Subject.parts]
  · obtain rfl : p = ⟨_, [kindSegment, numberSegment "id"]⟩ :=
      Except.ok.inj (parsed.symm.trans rfl)
    obtain ⟨kind, id, is_kind, is_id, text⟩ := element (by simp) (by simp)
    have no_version := absent "version" (by decide)
    exact ⟨.element kind id, rfl, ⟨is_kind, is_id, by rw [no_version]; rfl⟩, text⟩
  · obtain rfl : p = ⟨_, [.literal "changeset", numberSegment "id"]⟩ :=
      Except.ok.inj (parsed.symm.trans rfl)
    obtain ⟨id, is_id, id_text⟩ := number "id" (by simp)
    have no_kind := absent "type" (by decide)
    have no_version := absent "version" (by decide)
    refine ⟨.changeset id, rfl, ⟨by rw [no_kind]; rfl, is_id, by rw [no_version]; rfl⟩,
      String.toList_inj.mp ?_⟩
    simp [id_text, Subject.parts]
  · obtain rfl : p = ⟨_, [.literal "note", numberSegment "id"]⟩ :=
      Except.ok.inj (parsed.symm.trans rfl)
    obtain ⟨id, is_id, id_text⟩ := number "id" (by simp)
    have no_kind := absent "type" (by decide)
    have no_version := absent "version" (by decide)
    refine ⟨.note id, rfl, ⟨by rw [no_kind]; rfl, is_id, by rw [no_version]; rfl⟩,
      String.toList_inj.mp ?_⟩
    simp [id_text, Subject.parts]
  · obtain rfl : p = ⟨_, [.literal "search", .literal "where-is-this"]⟩ :=
      Except.ok.inj (parsed.symm.trans rfl)
    have none_there := fun name => absent name (by simp)
    exact ⟨.place, rfl, .of_none none_there rfl rfl rfl, rfl⟩
  · obtain rfl : p = ⟨_, [.literal "search"]⟩ := Except.ok.inj (parsed.symm.trans rfl)
    have none_there := fun name => absent name (by simp)
    exact ⟨.search, rfl, .of_none none_there rfl rfl rfl, rfl⟩
  · obtain rfl : p = ⟨_, [.literal "query"]⟩ := Except.ok.inj (parsed.symm.trans rfl)
    have none_there := fun name => absent name (by simp)
    exact ⟨.features, rfl, .of_none none_there rfl rfl rfl, rfl⟩

end MapSidebar
