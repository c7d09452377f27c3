import MapSidebar.Json.Decoder

/-!
# Feedback on a form

A server answers a form with entries, each of a severity, a location and a text, inside an envelope
whose detail is a list of entries or one plain text. An entry becomes a message at a field or at the
form as a whole: the location begins with its scope, and the field is its last element after that,
if it is a string.
-/
namespace MapSidebar

/-- How bad a message is. Codes other than `success` and `info` are errors. -/
inductive Severity where
  | success | info | error
  deriving DecidableEq, Repr

namespace Severity

def text : Severity → String
  | success => "success"
  | info => "info"
  | error => "error"

def ofCode (code : String) : Severity :=
  if code = "success" then success else if code = "info" then info else error

/-- Whether a message of this severity refuses the form. -/
def isError (s : Severity) : Bool := s = error

@[simp] theorem ofCode_text (s : Severity) : ofCode s.text = s := by
  cases s <;> decide

end Severity

/-- A message at a field, or at the form as a whole. -/
structure FormMessage where
  severity : Severity
  field : Option String
  text : String
  deriving DecidableEq, Repr

namespace FormMessage

def atField (field text : String) : FormMessage := ⟨.error, some field, text⟩

def atForm (text : String) : FormMessage := ⟨.error, none, text⟩

end FormMessage

structure FeedbackEntry where
  severity : Severity
  location : List Json
  text : String
  deriving Repr

namespace FeedbackEntry

/-- An entry at a field, or at the form as a whole. -/
def new (severity : Severity) (field : Option String) (text : String) : FeedbackEntry :=
  ⟨severity, [.null, match field with | some name => .string name | none => .null], text⟩

def field? (entry : FeedbackEntry) : Option String :=
  match (entry.location.drop 1).getLast? with
  | some (.string name) => some name
  | _ => none

def message (entry : FeedbackEntry) : FormMessage :=
  ⟨entry.severity, entry.field?, entry.text⟩

def json (entry : FeedbackEntry) : Json :=
  .object [("type", .string entry.severity.text), ("loc", .array entry.location),
    ("msg", .string entry.text)]

structure Draft where
  severity : Option Severity := none
  location : Option (List Json) := none
  text : Option String := none

/-- The entry of a draft; only the location may be missing. -/
def Draft.build : Draft → Except String FeedbackEntry
  | { severity := none, .. } => .error "type"
  | { text := none, .. } => .error "msg"
  | { severity := some severity, location, text := some text } =>
    .ok ⟨severity, location.getD [], text⟩

def record : Json.Record Draft FeedbackEntry where
  name := "FeedbackEntry"
  fields := [
    ⟨"type", (·.severity.isSome), fun draft depth input =>
      (Json.wordValue (fun code => .ok (Severity.ofCode code)) depth input).map
        fun (value, rest) => ({ draft with severity := some value }, rest)⟩,
    ⟨"loc", (·.location.isSome), fun draft depth input =>
      (Json.listValue Json.readValue depth input).map fun (value, rest) =>
        ({ draft with location := some value }, rest)⟩,
    ⟨"msg", (·.text.isSome), fun draft depth input =>
      (Json.stringValue depth input).map fun (value, rest) =>
        ({ draft with text := some value }, rest)⟩]
  start := {}
  build := Draft.build

/-! ## Entries inside a value that has been read -/

/-- The severity that a value stands for: a code, alone or as the only key of an object with the
value `null`. -/
def severity? : Json → Option Severity
  | .string code => some (Severity.ofCode code)
  | .object [(code, .null)] => some (Severity.ofCode code)
  | _ => none

/-- Puts the value of a field into a draft; a known field must not be there already. -/
def Draft.put (draft : Draft) (name : String) (value : Json) : Option Draft :=
  if name = "type" then
    if draft.severity.isSome then none
    else (severity? value).map fun severity => { draft with severity := some severity }
  else if name = "loc" then
    match draft.location, value with
    | none, .array items => some { draft with location := some items }
    | _, _ => none
  else if name = "msg" then
    match draft.text, value with
    | none, .string text => some { draft with text := some text }
    | _, _ => none
  else some draft

def Draft.putAll : Draft → List (String × Json) → Option Draft
  | draft, [] => some draft
  | draft, (name, value) :: rest => (draft.put name value).bind fun draft => draft.putAll rest

/-- The fields in the order in which a list gives them. -/
def fieldNames : List String := ["type", "loc", "msg"]

def ofJson? : Json → Option FeedbackEntry
  | .object entries => ((Draft.putAll {} entries).bind fun draft => draft.build.toOption)
  | .array items =>
    if items.length ≤ fieldNames.length then
      (Draft.putAll {} (fieldNames.zip items)).bind fun draft => draft.build.toOption
    else none
  | _ => none

end FeedbackEntry

/-- What a server says about a form. -/
inductive FeedbackDetail where
  | entries (list : List FeedbackEntry)
  | message (text : String)
  deriving Repr

namespace FeedbackDetail

def json : FeedbackDetail → Json
  | .entries list => .array (list.map FeedbackEntry.json)
  | .message text => .string text

/-- The detail that a value stands for: a list of entries, or else a text. -/
def ofJson? : Json → Option FeedbackDetail
  | .array items => (items.mapM FeedbackEntry.ofJson?).map .entries
  | .string text => some (.message text)
  | _ => none

/-- An entry whose location is read as what it denotes. -/
def canonicalEntry (entry : FeedbackEntry) : FeedbackEntry :=
  { entry with location := Json.canonicalItems entry.location }

/-- The detail with the locations of its entries read as what they denote. -/
def canonical : FeedbackDetail → FeedbackDetail
  | .entries list => .entries (list.map canonicalEntry)
  | .message text => .message text

/-- Reads a detail: any value at first, and then what it stands for. -/
def decoder : Json.Decoder FeedbackDetail := fun depth input => do
  let (value, rest) ← Json.readTree depth input
  match ofJson? value with
  | some detail => .ok (detail.canonical, rest)
  | none => .error (.loose (.noVariant "FeedbackDetail") rest)

end FeedbackDetail

structure FeedbackEnvelope where
  detail : FeedbackDetail := .entries []
  deriving Repr

namespace FeedbackEnvelope

/-- The entries; a plain text has none. -/
def entries (envelope : FeedbackEnvelope) : List FeedbackEntry :=
  match envelope.detail with
  | .entries list => list
  | .message _ => []

def json (envelope : FeedbackEnvelope) : Json := .object [("detail", envelope.detail.json)]

/-- How an envelope is read; without a detail it has no entries. -/
def record : Json.Record (Option FeedbackDetail) FeedbackEnvelope where
  name := "FeedbackEnvelope"
  fields := [
    ⟨"detail", (·.isSome), fun _ depth input =>
      (FeedbackDetail.decoder depth input).map fun (value, rest) => (some value, rest)⟩]
  start := none
  build := fun draft => .ok ⟨draft.getD (.entries [])⟩

end FeedbackEnvelope

/-- What a successful form answer says in terms that every form knows, and all its other fields. -/
structure FormSuccess where
  redirectUrl : Option String := none
  detail : List FeedbackEntry := []
  extra : List (String × Json) := []
  deriving Repr

namespace FormSuccess

/-- The written form: the known fields, then the others. -/
def json (success : FormSuccess) : Json :=
  .object (Json.optionalEntry "redirect_url" (success.redirectUrl.map Json.string)
    ++ ("detail", .array (success.detail.map FeedbackEntry.json)) :: success.extra)

def redirect? : Option Json → Option (Option String)
  | none => some none
  | some .null => some none
  | some (.string url) => some (some url)
  | some _ => none

def detail? : Option Json → Option (List FeedbackEntry)
  | none => some []
  | some (.array items) => items.mapM FeedbackEntry.ofJson?
  | some _ => none

/-- What a value that denotes something stands for, if it has the form of a successful answer. -/
def ofJson? : Json → Option FormSuccess
  | .object entries => do
    let redirectUrl ← redirect? (entries.lookup "redirect_url")
    let detail ← detail? (entries.lookup "detail")
    some ⟨redirectUrl, detail,
      entries.filter fun entry => entry.1 ≠ "redirect_url" && entry.1 ≠ "detail"⟩
  | _ => none

/-- What a value stands for; one of another form says nothing. -/
def ofJson (value : Json) : FormSuccess := (ofJson? value).getD {}

end FormSuccess

end MapSidebar
