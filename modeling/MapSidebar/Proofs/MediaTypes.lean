import MapSidebar.Proofs.Instances
import MapSidebar.Proofs.Trimming
import MapSidebar.Response

/-!
# Media types

The media type of a content type stands before its first semicolon; blanks around it and what follows
do not count. The plain type of JSON may be written in any case, but a type with its suffix only counts
as JSON if the suffix is in small letters. So two answers that differ in the case of their media types
are read in the same way exactly if both types end with that suffix or neither does.
-/
namespace MapSidebar

/-- What stands before the first separator, and what may follow it. -/
theorem Text.headD_splitAt_eq_iff {α : Type} [DecidableEq α] {sep : α} {text before : List α} :
    (splitAt sep text).headD [] = before ↔
      sep ∉ before ∧ (text = before ∨ ∃ after, text = before ++ sep :: after) := by
  constructor
  · rintro rfl
    cases cut : cutFirst sep text with
    | none =>
      have absent := (cutFirst_eq_none sep text).mp cut
      rw [splitAt_of_not_mem absent]
      exact ⟨absent, .inl rfl⟩
    | some pair =>
      obtain ⟨whole, absent⟩ := cutFirst_eq_some sep text pair.1 pair.2 cut
      rw [whole, splitAt_append absent]
      exact ⟨absent, .inr ⟨pair.2, rfl⟩⟩
  · rintro ⟨absent, rfl | ⟨after, rfl⟩⟩
    · rw [splitAt_of_not_mem absent]
      rfl
    · rw [splitAt_append absent]
      rfl

/-! ## Wordings -/

/-- What is appended to a text does not change what it begins with. -/
theorem Text.begins_append {word text : String} (more : String)
    (begins : word.toList <+: text.toList) : word.toList <+: (text ++ more).toList := by
  rw [String.toList_append]
  exact begins.trans (List.prefix_append _ _)

namespace Json

/-- What the wordings of causes begin with. -/
def causeOpenings : List String :=
  ["EOF while parsing", "expected ", "invalid escape", "invalid number", "invalid unicode",
    "invalid type", "invalid value", "invalid length", "number out", "control character",
    "key must", "lone leading", "unexpected end", "trailing ", "recursion", "missing field",
    "duplicate field", "unknown variant", "data did not match"]

open Text in
theorem Cause.message_begins (c : Cause) :
    ∃ word ∈ causeOpenings, word.toList <+: c.message.toList := by
  cases c with
  | invalidType =>
    exact ⟨"invalid type", by decide,
      begins_append _ (begins_append _ (begins_append _ (by decide)))⟩
  | invalidValue =>
    exact ⟨"invalid value", by decide,
      begins_append _ (begins_append _ (begins_append _ (by decide)))⟩
  | invalidLength =>
    exact ⟨"invalid length", by decide,
      begins_append _ (begins_append _ (begins_append _ (by decide)))⟩
  | missingField =>
    exact ⟨"missing field", by decide, begins_append _ (begins_append _ (by decide))⟩
  | duplicateField =>
    exact ⟨"duplicate field", by decide, begins_append _ (begins_append _ (by decide))⟩
  | unknownVariant =>
    exact ⟨"unknown variant", by decide,
      begins_append _ (begins_append _ (begins_append _ (by decide)))⟩
  | noVariant => exact ⟨"data did not match", by decide, begins_append _ (by decide)⟩
  | _ => decide

/-- A place is told after the cause. -/
theorem Stop.message_begins (input : List UInt8) (stop : Stop) :
    ∃ word ∈ causeOpenings, word.toList <+: (stop.message input).toList := by
  cases stop with
  | placed cause left =>
    obtain ⟨word, known, begins⟩ := cause.message_begins
    exact ⟨word, known, Text.begins_append _ (Text.begins_append _ (Text.begins_append _
      (Text.begins_append _ begins)))⟩
  | loose cause rest => exact cause.message_begins

end Json

/-- What the wordings of bytes that are no text begin with. -/
def Utf8.faultOpenings : List String := ["invalid utf-8", "incomplete utf-8"]

theorem Utf8.Fault.message_begins (f : Fault) :
    ∃ word ∈ faultOpenings, word.toList <+: f.message.toList := by
  rcases f with ⟨index, length | _⟩
  · exact ⟨"invalid utf-8", by decide, Text.begins_append _ (Text.begins_append _
      (Text.begins_append _ (by decide)))⟩
  · exact ⟨"incomplete utf-8", by decide, Text.begins_append _ (by decide)⟩

/-- Bytes that are no text are not refused with the words for bytes that are no JSON. -/
theorem Json.Stop.message_ne_fault (input : List UInt8) (stop : Stop) (fault : Utf8.Fault) :
    stop.message input ≠ fault.message := by
  intro same
  obtain ⟨word, of_cause, begins⟩ := stop.message_begins input
  obtain ⟨other, of_fault, begins_too⟩ := fault.message_begins
  rw [← same] at begins_too
  have apart : ∀ word ∈ causeOpenings, ∀ other ∈ Utf8.faultOpenings,
      ¬ word.toList <+: other.toList ∧ ¬ other.toList <+: word.toList := by decide
  rcases List.prefix_or_prefix_of_prefix begins begins_too with first | second
  · exact (apart word of_cause other of_fault).1 first
  · exact (apart word of_cause other of_fault).2 second

/-! ## Media types -/

namespace Response

/-- A content type names a media type: blanks may stand around it, and parameters after it. -/
def IsMediaType (contentType : String) (media : List Char) : Prop :=
  ∃ left right, (∀ c ∈ left ++ right, Text.isBlank c = true) ∧ Text.Stripped Text.isBlank media ∧
    ';' ∉ left ++ media ++ right ∧
    (contentType.toList = left ++ media ++ right ∨
      ∃ parameters, contentType.toList = left ++ media ++ right ++ ';' :: parameters)

variable {contentType : String} {media other : List Char}

theorem mediaType_eq_iff : mediaType contentType = media ↔ IsMediaType contentType media := by
  rw [mediaType, Text.trim_eq_iff]
  constructor
  · rintro ⟨left, right, whole, blank, stripped⟩
    obtain ⟨absent, shape⟩ := Text.headD_splitAt_eq_iff.mp whole
    exact ⟨left, right, blank, stripped, absent, shape⟩
  · rintro ⟨left, right, blank, stripped, absent, shape⟩
    exact ⟨left, right, Text.headD_splitAt_eq_iff.mpr ⟨absent, shape⟩, blank, stripped⟩

theorem isJsonType_iff : isJsonType media = true ↔
    media.map Char.toLower = "application/json".toList ∨ "+json".toList <:+ media := by
  rw [isJsonType, Bool.or_eq_true, decide_eq_true_iff, List.isSuffixOf_iff_suffix]

/-- The plain type of JSON does not end with the suffix. -/
theorem not_suffix_of_plain (plain : media.map Char.toLower = "application/json".toList) :
    ¬ "+json".toList <:+ media := by
  intro suffix
  have small := suffix.map Char.toLower
  rw [plain] at small
  exact absurd small (by decide)

/-- Where two media types differ at most in case, the suffix in small letters decides. -/
theorem isJsonType_eq_iff (alike : media.map Char.toLower = other.map Char.toLower) :
    isJsonType media = isJsonType other ↔
      ("+json".toList <:+ media ↔ "+json".toList <:+ other) := by
  rw [Bool.eq_iff_iff, isJsonType_iff, isJsonType_iff, alike]
  by_cases plain : other.map Char.toLower = "application/json".toList
  · have first := not_suffix_of_plain (alike.trans plain)
    have second := not_suffix_of_plain plain
    exact ⟨fun _ => iff_of_false first second, fun _ => iff_of_true (.inl plain) (.inl plain)⟩
  · rw [or_iff_right plain, or_iff_right plain]

/-! ## Content -/

/-- An answer is read as JSON or as markup, unless its status tells failure. -/
theorem ofResponse_eq (r : Response) : PartialContent.ofResponse r =
    if r.isSuccess then
      if r.isJson then (r.decodeJson PartialPayload.record.decoder).map .data
      else r.text.map .html
    else .error (.http r.status (Utf8.decodeLossy r.body)) := by
  unfold PartialContent.ofResponse errorForStatus
  cases r.isSuccess <;> rfl

/-- What is read as JSON is never the same as what is read as markup, not even if both fail. -/
theorem data_ne_html (a b : Response) : (a.decodeJson PartialPayload.record.decoder).map
    PartialContent.data ≠ b.text.map PartialContent.html := by
  unfold decodeJson text Json.decode
  cases Json.readAll PartialPayload.record.decoder a.body with
  | ok payload =>
    cases Utf8.decode b.body with
    | ok markup => exact fun same => nomatch Except.ok.inj same
    | error fault => exact fun same => nomatch same
  | error stop =>
    cases Utf8.decode b.body with
    | ok markup => exact fun same => nomatch same
    | error fault =>
      intro same
      exact stop.message_ne_fault a.body fault (FetchError.decode.inj (Except.error.inj same))

/-- Two media types both end with the suffix of JSON in small letters, or neither does. -/
def SameEnding (media other : List Char) : Prop :=
  "+json".toList <:+ media ↔ "+json".toList <:+ other

/-- Answers with one status and body, whose media types differ at most in case, are both taken for JSON
or both not exactly if the types have the same ending; and except for a status that tells failure they
are read alike exactly then. -/
theorem ending_decides {a b : Response} {first second : String} {media other : List Char}
    (status : a.status = b.status) (body : a.body = b.body)
    (of_a : a.contentType = some first) (of_b : b.contentType = some second)
    (named : IsMediaType first media) (named_too : IsMediaType second other)
    (alike : media.map Char.toLower = other.map Char.toLower) :
    (a.isJson = b.isJson ↔ SameEnding media other) ∧
      (PartialContent.ofResponse a = PartialContent.ofResponse b ↔
        a.isSuccess = false ∨ SameEnding media other) := by
  have json_a : a.isJson = isJsonType media := by
    rw [isJson, of_a, ← mediaType_eq_iff.mpr named]
  have json_b : b.isJson = isJsonType other := by
    rw [isJson, of_b, ← mediaType_eq_iff.mpr named_too]
  have same_json : a.isJson = b.isJson ↔ SameEnding media other := by
    rw [json_a, json_b]
    exact isJsonType_eq_iff alike
  refine ⟨same_json, ?_⟩
  have success : b.isSuccess = a.isSuccess := by rw [isSuccess, isSuccess, status]
  have decoded : b.decodeJson PartialPayload.record.decoder =
      a.decodeJson PartialPayload.record.decoder := by rw [decodeJson, decodeJson, body]
  have read : b.text = a.text := by rw [text, text, body]
  rw [← same_json, ofResponse_eq, ofResponse_eq, success, decoded, read, status, body]
  cases told : a.isSuccess with
  | false => simp
  | true =>
    have apart := data_ne_html a a
    cases a.isJson <;> cases b.isJson <;> simp [apart, apart.symm]

/-- Blanks, parameters and capitals before the suffix make no difference. -/
theorem ending_decides_geo :
    IsMediaType "application/geo+json; q=1" "application/geo+json".toList ∧
    IsMediaType " Application/GEO+json " "Application/GEO+json".toList ∧
    PartialContent.ofResponse ⟨200, some "application/geo+json; q=1", Utf8.bytes "[]"⟩ =
      PartialContent.ofResponse ⟨200, some " Application/GEO+json ", Utf8.bytes "[]"⟩ := by
  have plain : IsMediaType "application/geo+json; q=1" "application/geo+json".toList :=
    mediaType_eq_iff.mp (by decide)
  have capitals : IsMediaType " Application/GEO+json " "Application/GEO+json".toList :=
    mediaType_eq_iff.mp (by decide)
  have same_ending : SameEnding "application/geo+json".toList "Application/GEO+json".toList :=
    iff_of_true (by decide) (by decide)
  have read_alike := ending_decides (a := ⟨200, some "application/geo+json; q=1", Utf8.bytes "[]"⟩)
    (b := ⟨200, some " Application/GEO+json ", Utf8.bytes "[]"⟩)
    rfl rfl rfl rfl plain capitals (by decide)
  exact ⟨plain, capitals, read_alike.2.mpr (.inr same_ending)⟩

/-- A suffix in capital letters makes markup of structured content. -/
theorem capital_ending_is_markup :
    IsMediaType "application/geo+json" "application/geo+json".toList ∧
    IsMediaType "application/geo+JSON; q=1" "application/geo+JSON".toList ∧
    "application/geo+json".toList.map Char.toLower =
      "application/geo+JSON".toList.map Char.toLower ∧
    (∃ payload, PartialContent.ofResponse
      ⟨200, some "application/geo+json", Utf8.bytes "{}"⟩ = .ok (.data payload)) ∧
    PartialContent.ofResponse ⟨200, some "application/geo+JSON; q=1", Utf8.bytes "{}"⟩ =
      .ok (.html "{}") :=
  ⟨mediaType_eq_iff.mp (by decide), mediaType_eq_iff.mp (by decide), by decide, ⟨_, rfl⟩, rfl⟩

end Response

end MapSidebar
