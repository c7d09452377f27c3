import MapSidebar.Proofs.Endpoints
import MapSidebar.Proofs.NestedLists
import MapSidebar.Proofs.PassedOn

/-!
# Contents and the lists in them

A changeset, a note and the history of an element are shown with a list. The URL of the content and
the requests for the pages of the list are worked out apart from each other, from the same captures
and the same query. They are about one object all the same: where the content has a number in its URL,
the list has that number too, and where it has none, there is no list.
-/
namespace MapSidebar

namespace StandardRoute

/-- How the content of an object and the list in it are asked for. -/
structure Listing where
  /-- The kind of the object. -/
  kind : String
  /-- What follows the object in the URL of the content. -/
  tail : String
  /-- What follows it in the URL of the list. -/
  below : String
  filters : List (String × String) := []
  pageSize : UInt32

/-- The number of an object is captured, in one spelling or another. -/
structure Captures (visit : Visit) (raw : String) : Prop where
  group : visit.group? "id" = some raw
  filled : raw ≠ ""
  digits : ∀ c ∈ raw.toList, c.isDigit = true

namespace Listing

def comments (settings : Settings) (kind : String) : Listing where
  kind := kind
  tail := ""
  below := "/comments"
  pageSize := settings.commentsPageSize

/-- The versions of an element, for a query of its history and a word for the differences of tags. -/
def versions (settings : Settings) (kind : ElementType) (query flag : String) : Listing where
  kind := kind.text
  tail := "/history?" ++ query
  below := "/versions"
  filters := [("tags_diff", flag)]
  pageSize := settings.historyPageSize

/-- The URL of the object with this word for its number. -/
def objectUrl (l : Listing) (settings : Settings) (word : String) : String :=
  settings.partialPrefix ++ "/" ++ l.kind ++ "/" ++ word

/-- What follows the page in the fields of a request. -/
def trailing (l : Listing) : List (String × String) :=
  l.filters ++ [("page_size", toString l.pageSize.toNat)]

/-- All pages of a list are asked for at a URL, by number or by cursor, with the filters and the size
of a page. -/
structure PagesAt (l : Listing) (url : String) (options : PagerOptions) : Prop where
  numbered : ∀ p : Pager, p.options = options → ∀ n cursors,
    p.requestFor ⟨.number n, cursors⟩ = ⟨.get, url, ("page", toString n.toNat) :: l.trailing⟩
  token : ∀ p : Pager, p.options = options → ∀ token cursors,
    p.requestFor ⟨.cursor (some token), cursors⟩ = ⟨.get, url, ("cursor", token) :: l.trailing⟩
  first : ∀ p : Pager, p.options = options → ∀ cursors,
    p.requestFor ⟨.cursor none, cursors⟩ = ⟨.get, url, l.trailing⟩

/-- For a visit, the content and the list of a route are of one object: of the one with this number,
which a URL writes as this word. -/
structure Agrees (l : Listing) (settings : Settings) (route : StandardRoute) (visit : Visit)
    (number : Nat) (word : String) : Prop where
  captured : ∃ raw, Captures visit raw ∧ Nat.ofDigitChars 10 raw.toList 0 = number
  /-- A number that 64 bits can hold is written as it is. -/
  canonical : number < UInt64.size → word = toString number
  /-- The controller fetches the content of the object. -/
  content : ∀ container,
    (route.spec settings container).endpoint visit = l.objectUrl settings word ++ l.tail
  /-- The controller mounts the list that is configured, and no other. -/
  mounted : ∀ container content,
    mounts ((route.spec settings (some container)).onReady visit content) =
      (route.nested settings visit).toList.map (container, ·)
  configured : (route.nested settings visit).isSome = true ↔ number < UInt64.size
  named : (route.nested settings visit).isSome = true ↔ word ≠ ""
  /-- The pages of the list are those of the object. -/
  pages : ∀ options, route.nested settings visit = some options →
    l.PagesAt (l.objectUrl settings word ++ l.below) options

end Listing

/-! ## What a controller mounts -/

theorem mounts_highlight (content : PartialContent) (actions : List ReadyAction) :
    mounts (highlight content ++ actions) = mounts actions := by
  unfold highlight
  split
  next payload =>
    split
    next nothing => rfl
    next something => rfl
  next => rfl

theorem mounts_onReady (settings : Settings) (route : StandardRoute) (visit : Visit)
    (container : Nat) (content : PartialContent) :
    mounts ((route.spec settings (some container)).onReady visit content) =
      (route.nested settings visit).toList.map (container, ·) := by
  simp only [spec, mounts_highlight, mountList]
  cases route.nested settings visit <;> rfl

/-! ## The lists of numbered objects -/

namespace Listing

/-- The list of the object with this word for its number. -/
def options (l : Listing) (settings : Settings) (word : String) : PagerOptions :=
  { listAt settings ("/" ++ l.kind ++ "/" ++ word ++ l.below) l.pageSize with filters := l.filters }

theorem pagesAt_options (l : Listing) (settings : Settings) (word : String) :
    l.PagesAt (l.objectUrl settings word ++ l.below) (l.options settings word) := by
  have url : settings.partialPrefix ++ ("/" ++ l.kind ++ "/" ++ word ++ l.below) =
      l.objectUrl settings word ++ l.below := by
    simp only [objectUrl, String.append_assoc]
  refine ⟨fun p made n cursors => ?_, fun p made token cursors => ?_, fun p made cursors => ?_⟩
  all_goals
    rw [Pager.requestFor, made, ← url]
    simp [options, listAt, trailing, PageRequest.queryPairs, PageAddress.fields]

/-- A route has a list if it has a number. -/
def configured? (l : Listing) (settings : Settings) (id : Option Nat) : Option PagerOptions :=
  id.map fun n => l.options settings (toString n)

variable {settings : Settings} {route : StandardRoute} {visit : Visit} {raw : String}

/-- A list that is configured for the canonical text of a captured number, if it can be read. -/
theorem configured?_eq {α : Type} (l : Listing) (captures : Captures visit raw)
    {make : UInt64 → α} {list : α → PagerOptions}
    (same : ∀ value, list (make value) = l.options settings (canonicalText value)) :
    (do some (list (← ((readUInt64 raw).map make).toOption))) =
      l.configured? settings (number64? raw) := by
  rw [readUInt64_digits captures.filled captures.digits]
  cases read : number64? raw with
  | none => rfl
  | some n =>
    have text := canonicalText_of_number64? read
    simp [Except.map, Except.toOption, configured?, same, text]

/-- A route whose content and whose list both go by the captured number brings them together. -/
theorem agrees_of_nested (l : Listing) (captures : Captures visit raw)
    (content : route.endpoint settings visit =
      l.objectUrl settings (numberWord (number64? raw)) ++ l.tail)
    (nested : route.nested settings visit = l.configured? settings (number64? raw)) :
    l.Agrees settings route visit (Nat.ofDigitChars 10 raw.toList 0)
      (numberWord (number64? raw)) := by
  refine ⟨⟨raw, captures, rfl⟩, ?_, fun _ => content, mounts_onReady settings route visit,
    ?_, ?_, ?_⟩
  · intro small
    rw [number64?, if_pos small, numberWord]
  · rw [nested, configured?, Option.isSome_map, number64?]
    split
    next small => exact iff_of_true rfl small
    next large => exact iff_of_false Bool.false_ne_true large
  · rw [nested, configured?, Option.isSome_map]
    cases number64? raw with
    | none => simp [numberWord]
    | some n => simp [numberWord, Nat.toString_eq_repr, Nat.repr_ne_empty]
  · intro options is_configured
    rw [nested] at is_configured
    obtain ⟨n, read, rfl⟩ := Option.map_eq_some_iff.mp is_configured
    rw [read]
    exact l.pagesAt_options settings (toString n)

end Listing

/-! ## The lists of the standard routes -/

section

variable {settings : Settings} {visit : Visit} {raw : String}

theorem changesetCommentsOf_eq (captures : Captures visit raw) :
    changesetCommentsOf settings visit =
      (Listing.comments settings "changeset").configured? settings (number64? raw) := by
  unfold changesetCommentsOf
  rw [captures.group]
  refine Listing.configured?_eq _ captures fun value => ?_
  simp [changesetComments, ChangesetId.text, Listing.options, Listing.comments, listAt]

theorem noteCommentsOf_eq (captures : Captures visit raw) :
    noteCommentsOf settings visit =
      (Listing.comments settings "note").configured? settings (number64? raw) := by
  unfold noteCommentsOf
  rw [captures.group]
  refine Listing.configured?_eq _ captures fun value => ?_
  simp [noteComments, NoteId.text, Listing.options, Listing.comments, listAt]

theorem versionsOf_eq {kind : ElementType} (is_kind : visit.group? "type" = some kind.text)
    (captures : Captures visit raw) (query : String) :
    versionsOf settings visit = (Listing.versions settings kind query
      (flagText (visit.queryParam? "tags_diff" = some "true"))).configured? settings
        (number64? raw) := by
  unfold versionsOf
  rw [is_kind, captures.group]
  simp only [Option.bind_eq_bind, Option.bind_some, ElementType.read?_text]
  refine Listing.configured?_eq _ captures fun value => ?_
  simp [elementVersions, ElementId.text, Listing.options, Listing.versions, listAt]

end

/-! ## The differences of tags -/

/-- The content and the list of a history go by one word for the differences of tags. -/
structure SameFlag (visit : Visit) (query flag : String) : Prop where
  decided : flag = "true" ∨ flag = "false"
  asked : flag = "true" ↔ IsFirst visit.queryPairs "tags_diff" "true"
  /-- What the visit gives first is passed on as it is. -/
  forwarded : ∀ value, IsFirst visit.queryPairs "tags_diff" value →
    IsFirst (Query.decode query) "tags_diff" value
  fetched : flag = "true" ↔ IsFirst (Query.decode query) "tags_diff" "true"

theorem flagText_word (flag : Bool) : flagText flag = "true" ∨ flagText flag = "false" := by
  cases flag <;> decide

theorem flagText_eq_true {flag : Bool} : flagText flag = "true" ↔ flag = true := by
  cases flag <;> decide

theorem sameFlag_of_forwarded {forwarded : List Forwarded}
    (distinct : (forwarded.map Forwarded.name).Nodup)
    (member : ⟨"tags_diff", some "false"⟩ ∈ forwarded) (visit : Visit) :
    SameFlag visit (Query.encode (forwardedPairs forwarded visit))
      (flagText (visit.queryParam? "tags_diff" = some "true")) := by
  have found : (Query.decode (Query.encode (forwardedPairs forwarded visit))).lookup "tags_diff" =
      (visit.queryParam? "tags_diff").or (some "false") := by
    rw [Query.decode_encode]
    exact lookup_forwardedPairs distinct member visit
  have asked : flagText (visit.queryParam? "tags_diff" = some "true") = "true" ↔
      visit.queryParam? "tags_diff" = some "true" := flagText_eq_true.trans decide_eq_true_iff
  refine ⟨flagText_word _, asked.trans lookup_eq_some_iff_isFirst, fun value first => ?_,
    asked.trans ?_⟩
  · have given : visit.queryParam? "tags_diff" = some value := lookup_eq_some_iff_isFirst.mpr first
    rw [given] at found
    exact lookup_eq_some_iff_isFirst.mp found
  · rw [← lookup_eq_some_iff_isFirst, found]
    cases visit.queryParam? "tags_diff" with
    | none => simp
    | some value => simp

/-! ## The agreement -/

/-- The comments that a route shows are on the object that it shows. -/
def CommentsAgree (settings : Settings) (route : StandardRoute) (visit : Visit) : Prop :=
  ∃ number word,
    (Listing.comments settings route.name).Agrees settings route visit number word

/-- The versions that a route shows are of the element whose history it shows, and they show the
differences of tags if the history does. -/
def VersionsAgree (settings : Settings) (route : StandardRoute) (visit : Visit) : Prop :=
  ∃ (kind : ElementType) (query flag : String) (number : Nat) (word : String),
    visit.group? "type" = some kind.text ∧ SameFlag visit query flag ∧
      (Listing.versions settings kind query flag).Agrees settings route visit number word

section

variable {settings : Settings} {route : StandardRoute} {visit : Visit} {raw : String}
  {p : Pattern} {path : String}

theorem exists_captures (formed : Pattern.WellFormed p.segments)
    (matched : p.match? path = some visit.groups) (member : numberSegment "id" ∈ p.segments) :
    ∃ raw, Captures visit raw := by
  obtain ⟨raw, group, filled, digits⟩ := captured_number formed matched member
  exact ⟨raw, group, filled, digits⟩

theorem Captures.text (captures : Captures visit raw) :
    numberText visit "id" = numberWord (number64? raw) :=
  numberText_eq captures.group captures.filled captures.digits

/-- A route that fetches an object as it is and lists its comments. -/
theorem commentsAgree_of_nested (bare : route.forwarded = [])
    (path_eq : route.path visit = "/" ++ route.name ++ "/" ++ numberText visit "id")
    (captures : Captures visit raw)
    (nested : route.nested settings visit =
      (Listing.comments settings route.name).configured? settings (number64? raw)) :
    CommentsAgree settings route visit := by
  refine ⟨_, _, Listing.agrees_of_nested _ captures ?_ nested⟩
  have no_query : route.endpoint settings visit = settings.partialPrefix ++ route.path visit := by
    rw [endpoint, bare]
    rfl
  rw [no_query, path_eq, captures.text]
  simp [Listing.objectUrl, Listing.comments, String.append_assoc]

theorem changeset_agrees (standard : route ∈ all) (named : route.name = "changeset")
    (parsed : Pattern.parse route.pattern = .ok p) (matched : p.match? path = some visit.groups) :
    CommentsAgree settings route visit := by
  have place : all[3] ∈ all := List.getElem_mem (by decide)
  obtain rfl := eq_of_name standard place named
  have formed := Pattern.wellFormed_of_parse parsed
  obtain rfl : p = ⟨_, [.literal "changeset", numberSegment "id"]⟩ :=
    Except.ok.inj (parsed.symm.trans rfl)
  obtain ⟨raw, captures⟩ := exists_captures formed matched (by simp)
  exact commentsAgree_of_nested rfl rfl captures (changesetCommentsOf_eq captures)

theorem note_agrees (standard : route ∈ all) (named : route.name = "note")
    (parsed : Pattern.parse route.pattern = .ok p) (matched : p.match? path = some visit.groups) :
    CommentsAgree settings route visit := by
  have place : all[4] ∈ all := List.getElem_mem (by decide)
  obtain rfl := eq_of_name standard place named
  have formed := Pattern.wellFormed_of_parse parsed
  obtain rfl : p = ⟨_, [.literal "note", numberSegment "id"]⟩ :=
    Except.ok.inj (parsed.symm.trans rfl)
  obtain ⟨raw, captures⟩ := exists_captures formed matched (by simp)
  exact commentsAgree_of_nested rfl rfl captures (noteCommentsOf_eq captures)

/-- Of a parameter with a default something is always passed on. -/
theorem endpoint_of_default {parameter : Forwarded} (member : parameter ∈ route.forwarded)
    (by_default : parameter.default ≠ none) :
    route.endpoint settings visit = settings.partialPrefix ++ route.path visit ++ "?" ++
      Query.encode (forwardedPairs route.forwarded visit) := by
  unfold endpoint endpointUrl
  cases pairs : forwardedPairs route.forwarded visit with
  | nil =>
    have nothing := (passedOn_forwardedPairs route.forwarded visit).eq_nil_iff.mp pairs
    exact absurd (nothing parameter member).2 by_default
  | cons pair pairs => rfl

theorem history_agrees (standard : route ∈ all) (named : route.name = "element-history")
    (parsed : Pattern.parse route.pattern = .ok p) (matched : p.match? path = some visit.groups) :
    VersionsAgree settings route visit := by
  have place : all[1] ∈ all := List.getElem_mem (by decide)
  obtain rfl := eq_of_name standard place named
  have formed := Pattern.wellFormed_of_parse parsed
  obtain rfl : p = ⟨_, [kindSegment, numberSegment "id", .literal "history"]⟩ :=
    Except.ok.inj (parsed.symm.trans rfl)
  obtain ⟨kind, is_kind⟩ := captured_kind formed matched (by simp)
  obtain ⟨raw, captures⟩ := exists_captures formed matched (by simp)
  have member : ⟨"tags_diff", some "false"⟩ ∈ all[1].forwarded := by simp [all]
  have flag := sameFlag_of_forwarded (forwarded_distinct place) member visit
  refine ⟨kind, _, _, _, _, is_kind, flag,
    Listing.agrees_of_nested _ captures ?_ (versionsOf_eq is_kind captures _)⟩
  have path_eq : all[1].path visit =
      "/" ++ kind.text ++ "/" ++ numberText visit "id" ++ "/history" := by
    have kind_text : kindText visit "type" = kind.text := by simp [kindText, is_kind]
    change elementPath visit ++ "/history" = _
    rw [elementPath, kind_text]
  rw [endpoint_of_default member (by simp), path_eq, captures.text]
  simp [Listing.objectUrl, Listing.versions, String.append_assoc]

end

/-- Whatever a path is resolved to, and whatever stands in the query: the content and the list of a
changeset, of a note and of the history of an element agree. -/
theorem content_and_list_agree (settings : Settings) :
    ∃ router, Explorer.standardRouter = .ok router ∧
      ∀ path entry groups query fragment, router.resolve path = some (entry, groups) →
        ∃ i route, all[i]? = some route ∧ entry.name = route.name ∧
          entry.target = .controller i ∧
          (route.name = "changeset" ∨ route.name = "note" →
            CommentsAgree settings route ⟨groups, query, fragment⟩) ∧
          (route.name = "element-history" →
            VersionsAgree settings route ⟨groups, query, fragment⟩) := by
  obtain ⟨router, made, -⟩ := Explorer.standardRouter_eq
  refine ⟨router, made, ?_⟩
  intro path entry groups query fragment resolved
  obtain ⟨member, matched⟩ := Explorer.mem_of_resolve resolved
  obtain ⟨i, route, at_i, name, target, parsed⟩ :=
    Explorer.standardRouter_isStandard made entry member
  have standard := List.mem_of_getElem? at_i
  refine ⟨i, route, at_i, name, target, ?_, fun history => ?_⟩
  · intro named
    rcases named with changeset | note
    · exact changeset_agrees standard changeset parsed matched
    · exact note_agrees standard note parsed matched
  · exact history_agrees standard history parsed matched

theorem content_and_list_agree_zeros : ∃ router, Explorer.standardRouter = .ok router ∧
    ∃ entry groups, router.resolve "/node/007/history" = some (entry, groups) ∧
      ∃ route ∈ all, route.name = "element-history" ∧
        VersionsAgree {} route ⟨groups, some "page=2&tags_diff=true", none⟩ := by
  obtain ⟨router, made, agree⟩ := content_and_list_agree {}
  cases made
  obtain ⟨i, route, at_i, name, -, -, history⟩ :=
    agree "/node/007/history" _ _ (some "page=2&tags_diff=true") none rfl
  exact ⟨_, rfl, _, _, rfl, route, List.mem_of_getElem? at_i, name.symm, history name.symm⟩

end StandardRoute

end MapSidebar
