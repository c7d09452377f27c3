import MapSidebar.Geometry
import MapSidebar.Text.Split

/-!
# Answers

A fetch ends with an answer of the server or with a failure. An answer is a status, a content type
and a body of bytes; the content type decides whether the body is markup or structured content.
-/
namespace MapSidebar

/-- Why a fetch gave nothing to show. -/
inductive FetchError where
  /-- It was superseded, or its owner went away. -/
  | cancelled
  | network (message : String)
  | http (status : Nat) (body : String)
  | decode (message : String)
  deriving DecidableEq, Repr

namespace FetchError

def message : FetchError → String
  | cancelled => "request cancelled"
  | network message => "network error: " ++ message
  | http status _ => "unexpected http status " ++ toString status
  | decode message => "malformed payload: " ++ message

/-- Whether nothing went wrong, only the answer is no longer wanted. -/
def isCancellation (e : FetchError) : Bool := e = cancelled

end FetchError

/-- An answer of the server. -/
structure Response where
  status : Nat
  contentType : Option String
  body : List UInt8
  deriving DecidableEq, Repr

namespace Response

def html (status : Nat) (body : String) : Response :=
  ⟨status, some "text/html; charset=utf-8", Utf8.bytes body⟩

def json (status : Nat) (body : Json) : Response :=
  ⟨status, some "application/json", Utf8.bytes body.text⟩

def isSuccess (r : Response) : Bool := 200 ≤ r.status && r.status < 300

/-- The media type of a content type: what stands before the first semicolon. -/
def mediaType (contentType : String) : List Char :=
  Text.trim ((Text.splitAt ';' contentType.toList).headD [])

/-- Whether a media type is one of JSON: the plain one in any case, or one with the suffix. -/
def isJsonType (media : List Char) : Bool :=
  media.map Char.toLower = "application/json".toList || "+json".toList.isSuffixOf media

def isJson (r : Response) : Bool :=
  match r.contentType with
  | some contentType => isJsonType (mediaType contentType)
  | none => false

def text (r : Response) : Except FetchError String :=
  (Utf8.decode r.body).mapError fun fault => .decode fault.message

def decodeJson {α : Type} (r : Response) (decoder : Json.Decoder α) : Except FetchError α :=
  (Json.decode decoder r.body).mapError .decode

/-- The answer itself, unless its status tells failure. -/
def errorForStatus (r : Response) : Except FetchError Response :=
  if r.isSuccess then .ok r else .error (.http r.status (Utf8.decodeLossy r.body))

end Response

/-- What a fetch ends with. -/
abbrev Answer := Except FetchError Response

/-- Content for the sidebar: markup, or structured content. -/
inductive PartialContent where
  | html (markup : String)
  | data (payload : PartialPayload)
  deriving Repr

namespace PartialContent

def markup : PartialContent → String
  | html markup => markup
  | data payload => payload.html.getD ""

/-- The structured content, if it is that. -/
def payload? : PartialContent → Option PartialPayload
  | html _ => none
  | data payload => some payload

def ofResponse (r : Response) : Except FetchError PartialContent := do
  let r ← r.errorForStatus
  if r.isJson then (r.decodeJson PartialPayload.record.decoder).map .data
  else r.text.map .html

end PartialContent

end MapSidebar
