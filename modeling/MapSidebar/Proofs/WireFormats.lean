import MapSidebar.Feedback
import MapSidebar.Page
import MapSidebar.Proofs.JsonTrees
import MapSidebar.Response

/-!
# Wire formats

A page of a list and the feedback on a form are read back from their texts, and a successful form
answer from its value. A page leaves out the fields that it does not have and they are missing again
when it is read; the severities, the two forms of a detail and the other fields of an answer are told
apart as they were written.
-/
namespace MapSidebar

namespace Json

variable {α σ : Type}

def written (entries : List (String × Json)) : List (String × List Char) :=
  entries.map fun entry => (entry.1, entry.2.print)

/-- A field that may be left out takes the draft to one that has it, if it is there. -/
theorem Fills.optional {β : Type} {r : Record σ α} {depth : Nat} {name : String} {field : Field σ}
    {decoder : Decoder (Option β)} {form : β → Json} (put : Option (Option β) → σ)
    (known : r.fields.find? (fun field => field.name = name) = some field)
    (missing : field.isSet (put none) = false)
    (same : field.read (put none) = fun depth input =>
      (decoder depth input).map fun (value, rest) => (put (some value), rest))
    (reads : ∀ value, Reads (decoder depth) (form value).print (some value)) (value : Option β) :
    Fills r depth (put none) (written (optionalEntry name (value.map form))) (put (value.map some)) := by
  cases value with
  | none => exact .done _
  | some value => exact .entry (fun value => put (some value)) known missing same (reads value)

/-- A body is read if its value is. -/
theorem decodeJson_eq {decoder : Decoder α} {json : Json} {value : α}
    (reads : Reads (decoder maxDepth) json.print value) (status : Nat) (contentType : Option String) :
    (Response.mk status contentType (Utf8.bytes json.text)).decodeJson decoder = .ok value := by
  have read := reads.read [] trivial
  rw [List.append_nil] at read
  rw [Response.decodeJson, decode, readAll, Utf8.bytes, text, String.toList_ofList, read]
  rfl

end Json

namespace PageResponse

open Json

/-- A page is read back from its text. -/
theorem reads (page : PageResponse) (depth : Nat) :
    Reads (record.decoder (depth + 3)) page.json.print page := by
  have list : Reads (listValue stringValue (depth + 2)) (print (.array (page.items.map .string)))
      page.items := by
    rw [print_array, List.map_map]
    exact reads_list (fun item _ => reads_string item _) (Nat.succ_pos depth)
  -- Each field takes the draft of the fields before it to the next one.
  have items : Fills record (depth + 2) {} (written [("items", .array (page.items.map .string))]) _ :=
    .entry (fun value => Draft.mk (some value) none none none none) rfl rfl rfl list
  have number : Fills record (depth + 2) _
      (written (optionalEntry "page" (page.page.map jsonOfNumber))) _ :=
    .optional (fun value => Draft.mk (some page.items) value none none none) rfl rfl rfl
      (fun n => reads_some_uint32 n _) page.page
  have count : Fills record (depth + 2) _
      (written (optionalEntry "num_pages" (page.numPages.map jsonOfNumber))) _ :=
    .optional (fun value => Draft.mk (some page.items) (page.page.map some) value none none)
      rfl rfl rfl (fun n => reads_some_uint32 n _) page.numPages
  have more : Fills record (depth + 2) _
      (written (optionalEntry "has_more" (page.hasMore.map Json.bool))) _ :=
    .optional (fun value => Draft.mk (some page.items) (page.page.map some)
      (page.numPages.map some) value none) rfl rfl rfl (fun b => reads_some_bool b _) page.hasMore
  have cursor : Fills record (depth + 2) _
      (written (optionalEntry "next_cursor" (page.nextCursor.map Json.string))) _ :=
    .optional (fun value => Draft.mk (some page.items) (page.page.map some)
      (page.numPages.map some) (page.hasMore.map some) value) rfl rfl rfl
      (fun s => reads_some_string s _) page.nextCursor
  have fills := items.append (((number.append count).append more).append cursor)
  have kept : ∀ {β : Type} (value : Option β), (value.map some).getD none = value := by
    intro β value
    cases value <;> rfl
  have built : record.build ⟨some page.items, page.page.map some, page.numPages.map some,
      page.hasMore.map some, page.nextCursor.map some⟩ = .ok page := by
    simp only [record, kept, Option.getD_some]
  simp only [written, ← List.map_append] at fills
  rw [json, print_object]
  exact fills.reads built

end PageResponse

namespace FeedbackEntry

open Json

variable {entry : FeedbackEntry} {list : List FeedbackEntry}

/-- What is written for an entry stands for that entry. -/
theorem ofJson?_json (entry : FeedbackEntry) : ofJson? entry.json = some entry := by
  simp [ofJson?, json, Draft.putAll, Draft.put, severity?, Draft.build, Except.toOption]

/-- Its fields may stand in the order of their names. -/
theorem ofJson?_canonical (sorted : ∀ value ∈ entry.location, value.Sorted) :
    ofJson? entry.json.canonical = some entry := by
  have loc_first : "loc" < "type" ∧ "msg" < "type" ∧ ¬ "msg" < "loc" := by decide
  have fields : entry.json.canonical = .object [("loc", .array entry.location),
      ("msg", .string entry.text), ("type", .string entry.severity.text)] := by
    simp [json, canonical, canonicalEntries, canonicalItems_of_sorted sorted, sortEntries,
      insertEntry, loc_first]
  rw [fields]
  simp [ofJson?, Draft.putAll, Draft.put, severity?, Draft.build, Except.toOption]

theorem mapM_ofJson? {form : FeedbackEntry → Json}
    (same : ∀ entry ∈ list, ofJson? (form entry) = some entry) :
    (list.map form).mapM ofJson? = some list := by
  induction list with
  | nil => rfl
  | cons entry list ih =>
    simp [same entry List.mem_cons_self, ih fun e member => same e (List.mem_cons_of_mem _ member)]

theorem whole_json (whole : ∀ value ∈ entry.location, value.Whole) : entry.json.Whole := by
  simpa [Whole, json, all, allEntries, allItems_iff, isWhole] using whole

end FeedbackEntry

namespace FeedbackDetail

open Json

/-- What is written for a detail stands for that detail. -/
theorem ofJson?_json (detail : FeedbackDetail) : ofJson? detail.json = some detail := by
  cases detail with
  | entries list =>
    rw [json, ofJson?, FeedbackEntry.mapM_ofJson? fun e _ => e.ofJson?_json]
    rfl
  | message text => rfl

/-- A detail is read back from its text, if it denotes itself. -/
theorem reads {detail : FeedbackDetail} {depth : Nat} (whole : detail.json.Whole)
    (itself : detail.canonical = detail) (shallow : detail.json.depth < depth) :
    Reads (decoder depth) detail.json.print detail := by
  have tree := reads_tree detail.json whole shallow
  refine ⟨tree.opens, fun rest ends => ?_⟩
  simp only [decoder, tree.read rest ends, bind, Except.bind, ofJson?_json, itself]

end FeedbackDetail

namespace FeedbackEnvelope

open Json

variable {envelope : FeedbackEnvelope}

theorem whole_detail (whole : ∀ entry ∈ envelope.entries, ∀ value ∈ entry.location, value.Whole) :
    envelope.detail.json.Whole := by
  obtain ⟨entries | message⟩ := envelope
  · refine all_array.mpr ⟨rfl, fun item member => ?_⟩
    obtain ⟨entry, inside, rfl⟩ := List.mem_map.mp member
    exact FeedbackEntry.whole_json (whole entry inside)
  · rfl

theorem canonical_detail (sorted : ∀ entry ∈ envelope.entries, ∀ value ∈ entry.location, value.Sorted) :
    envelope.detail.canonical = envelope.detail := by
  obtain ⟨entries | message⟩ := envelope
  · have same : ∀ entry ∈ entries, FeedbackDetail.canonicalEntry entry = entry := fun entry member => by
      rw [FeedbackDetail.canonicalEntry, canonicalItems_of_sorted (sorted entry member)]
    rw [FeedbackDetail.canonical, List.map_congr_left same, List.map_id']
  · rfl

/-- An envelope is read back from its text. -/
theorem reads {depth : Nat}
    (held : ∀ entry ∈ envelope.entries, ∀ value ∈ entry.location, value.Whole ∧ value.Sorted)
    (shallow : envelope.json.depth < depth + 2) :
    Reads (record.decoder (depth + 2)) envelope.json.print envelope := by
  have inside : envelope.detail.json.depth < depth + 1 := by
    simpa [json, Json.depth, depthEntries] using shallow
  have whole := whole_detail fun entry member value inside => (held entry member value inside).1
  have itself := canonical_detail fun entry member value inside =>
    (held entry member value inside).2
  have fills : Fills record (depth + 1) none (written [("detail", envelope.detail.json)]) _ :=
    .entry some rfl rfl rfl (FeedbackDetail.reads whole itself inside)
  rw [json, print_object]
  exact fills.reads rfl

end FeedbackEnvelope

namespace FormSuccess

open Json

/-- The fields of an answer that every form knows, as they are written. -/
def knownEntries (success : FormSuccess) : List (String × Json) :=
  optionalEntry "redirect_url" (success.redirectUrl.map Json.string) ++
    [("detail", .array (success.detail.map fun entry => entry.json.canonical))]

/-- A field that every form knows is found, wherever its name comes among the others. -/
theorem lookup_known {success : FormSuccess} {name : String}
    (apart : ∀ entry ∈ success.extra, entry.1 ≠ name) :
    (sortEntries (success.knownEntries ++ success.extra)).lookup name =
      success.knownEntries.reverse.lookup name := by
  have absent : success.extra.reverse.lookup name = none := by
    rw [List.lookup_eq_none_iff]
    intro entry member
    exact bne_iff_ne.mpr (apart entry (List.mem_reverse.mp member)).symm
  rw [lookup_sortEntries, List.reverse_append, List.lookup_append, absent, Option.none_or]

/-- The value of an answer: its fields sorted, with what their values denote. -/
theorem canonical_json {success : FormSuccess} (sorted : ∀ entry ∈ success.extra, entry.2.Sorted) :
    success.json.canonical = .object (sortEntries (success.knownEntries ++ success.extra)) := by
  have optional : ∀ url : Option String,
      canonicalEntries (optionalEntry "redirect_url" (url.map Json.string)) =
        optionalEntry "redirect_url" (url.map Json.string) := by
    intro url
    cases url <;> rfl
  rw [json, canonical, canonicalEntries_eq, List.map_append, List.map_cons, ← canonicalEntries_eq,
    ← canonicalEntries_eq, optional, canonicalEntries_of_sorted sorted, canonical, canonicalItems_eq,
    List.map_map, knownEntries, List.append_assoc]
  rfl

/-- What is written for an answer stands for that answer, if its other fields have other names. -/
theorem ofJson_canonical {success : FormSuccess}
    (details : ∀ entry ∈ success.detail, ∀ value ∈ entry.location, value.Sorted)
    (extra : Sorted (.object success.extra))
    (apart : ∀ entry ∈ success.extra, entry.1 ≠ "redirect_url" ∧ entry.1 ≠ "detail") :
    ofJson success.json.canonical = success := by
  obtain ⟨own, inside⟩ := all_object.mp extra
  -- Sorting mixes the known fields with the others, so each is found by its name.
  have url : (sortEntries (success.knownEntries ++ success.extra)).lookup "redirect_url" =
      success.redirectUrl.map Json.string := by
    rw [lookup_known fun entry member => (apart entry member).1, knownEntries]
    cases success.redirectUrl <;> rfl
  have detail : (sortEntries (success.knownEntries ++ success.extra)).lookup "detail" =
      some (.array (success.detail.map fun entry => entry.json.canonical)) := by
    rw [lookup_known fun entry member => (apart entry member).2, knownEntries]
    cases success.redirectUrl <;> rfl
  have rest : (sortEntries (success.knownEntries ++ success.extra)).filter
      (fun entry => entry.1 ≠ "redirect_url" && entry.1 ≠ "detail") = success.extra := by
    have known : success.knownEntries.filter
        (fun entry => entry.1 ≠ "redirect_url" && entry.1 ≠ "detail") = [] := by
      rw [knownEntries]
      cases success.redirectUrl <;> rfl
    have others : success.extra.filter
        (fun entry => entry.1 ≠ "redirect_url" && entry.1 ≠ "detail") = success.extra := by
      rw [List.filter_eq_self]
      intro entry member
      simp [apart entry member]
    rw [filter_sortEntries fun name => name ≠ "redirect_url" && name ≠ "detail", List.filter_append,
      known, others, List.nil_append, sortEntries_of_inOrder (of_decide_eq_true own)]
  have entries : (success.detail.map fun entry => entry.json.canonical).mapM FeedbackEntry.ofJson? =
      some success.detail :=
    FeedbackEntry.mapM_ofJson? fun entry member => FeedbackEntry.ofJson?_canonical (details entry member)
  have redirect : redirect? (success.redirectUrl.map Json.string) = some success.redirectUrl := by
    cases success.redirectUrl <;> rfl
  rw [ofJson, canonical_json inside, ofJson?, url, detail, rest, redirect, detail?, entries]
  rfl

end FormSuccess

/-- What it means that what is written in a wire format is read as it was written. -/
structure RoundTrip : Prop where
  /-- A page is read back whatever it holds. -/
  pages : ∀ (page : PageResponse) (status : Nat) (contentType : Option String),
    (Response.mk status contentType (Utf8.bytes page.json.text)).decodeJson
      PageResponse.record.decoder = .ok page
  /-- Feedback is read back if its locations hold no numbers but integers, as a reader gives them, and
  are not nested too deep. -/
  feedback : ∀ (envelope : FeedbackEnvelope) (status : Nat) (contentType : Option String),
    (∀ entry ∈ envelope.entries, ∀ value ∈ entry.location, value.Whole ∧ value.Sorted) →
    envelope.json.depth < Json.maxDepth →
    (Response.mk status contentType (Utf8.bytes envelope.json.text)).decodeJson
      FeedbackEnvelope.record.decoder = .ok envelope
  /-- A successful answer is what its value stands for, if its other fields have other names than the
  fields that every form knows. -/
  successes : ∀ success : FormSuccess,
    (∀ entry ∈ success.detail, ∀ value ∈ entry.location, value.Sorted) →
    Json.Sorted (.object success.extra) →
    (∀ entry ∈ success.extra, entry.1 ≠ "redirect_url" ∧ entry.1 ≠ "detail") →
    FormSuccess.ofJson success.json.canonical = success

/-- Pages, feedback and successful answers are read as they were written. -/
theorem wire_formats_round_trip : RoundTrip where
  pages page status contentType := Json.decodeJson_eq (page.reads 125) status contentType
  feedback _ status contentType held shallow :=
    Json.decodeJson_eq (FeedbackEnvelope.reads held shallow) status contentType
  successes _ details extra apart := FormSuccess.ofJson_canonical details extra apart

/-- Feedback whose location holds an object and a negative number, and whose text holds what must be
escaped. -/
def nestedFeedback : FeedbackEntry where
  severity := .info
  location := [.string "body", .object [("", .array [.number (.int (-9223372036854775808)), .null]),
    ("é", .bool true)]]
  text := "\x01 \"a\\b\"\n\u2028😀"

theorem wire_formats_round_trip_nested :
    (∀ value ∈ nestedFeedback.location, value.Whole ∧ value.Sorted) ∧
    (FeedbackEnvelope.mk (.entries [nestedFeedback])).json.depth < Json.maxDepth ∧
    (Response.mk 422 none (Utf8.bytes (FeedbackEnvelope.mk (.entries [nestedFeedback])).json.text)).decodeJson
      FeedbackEnvelope.record.decoder = .ok ⟨.entries [nestedFeedback]⟩ ∧
    FormSuccess.ofJson (FormSuccess.mk none [nestedFeedback] [("a", .null), ("z", .null)]).json.canonical =
      ⟨none, [nestedFeedback], [("a", .null), ("z", .null)]⟩ := by
  have held : ∀ value ∈ nestedFeedback.location, value.Whole ∧ value.Sorted := by decide
  have shallow : (FeedbackEnvelope.mk (.entries [nestedFeedback])).json.depth < Json.maxDepth := by
    decide
  refine ⟨held, shallow, wire_formats_round_trip.feedback _ 422 none ?_ shallow,
    wire_formats_round_trip.successes _ ?_ (by decide) (by decide)⟩
  · intro entry member
    cases List.mem_singleton.mp member
    exact held
  · intro entry member value inside
    cases List.mem_singleton.mp member
    exact (held value inside).2

end MapSidebar
