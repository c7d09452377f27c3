import MapSidebar.Form.Rule
import MapSidebar.Response
import MapSidebar.Request
import MapSidebar.Screen

/-!
# Submitting a form

A submission that is accepted clears the old messages, validates the fields and sends them, and then
turns the answer into messages and an outcome. `begin` is the part before the request and `conclude`
the part after the answer; both return what they write. While the request is out the submit control
is disabled.
-/
namespace MapSidebar

structure FormHandler where
  /-- The name of the receiver of successful answers. -/
  receiver : String
  validate : Option (FormFields → Except String (List FormMessage)) := none
  /-- Whether empty fields are left out of the request. -/
  omitEmpty : Bool := false

structure Form where
  method : Method := .get
  action : String
  fields : FormFields := []
  handler : Option FormHandler := none

inductive SubmitOutcome where
  /-- The form is not configured; the host submits it. -/
  | native
  /-- Another submission was running. -/
  | ignored
  /-- The validation refused the fields. -/
  | invalid (messages : List FormMessage)
  /-- The server refused the fields. -/
  | rejected (messages : List FormMessage)
  | succeeded (body : Json)
  | failed (text : String)
  | cancelled
  deriving Repr

/-- What can be seen of a submission. -/
inductive FormEvent where
  | panel (w : PanelWrite)
  /-- A successful answer is handed to its receiver. -/
  | success (receiver : String) (body : Json)
  deriving Repr

namespace Submission

/-- The text shown when nothing better is known. -/
def genericFailure : String := "Something went wrong. Please try again."

def showAll (messages : List FormMessage) : List FormEvent :=
  messages.map fun message => .panel (.add message)

/-- Shows a failure and ends with it. -/
def fail (text : String) : List FormEvent × SubmitOutcome :=
  ([.panel (.add (.atForm text))], .failed text)

def sentFields (handler : FormHandler) (fields : FormFields) : FormFields :=
  fields.filter fun field => !(handler.omitEmpty && field.2.isEmpty)

def validated (handler : FormHandler) (fields : FormFields) : Except String (List FormMessage) :=
  match handler.validate with
  | some validate => validate fields
  | none => .ok []

def requestOf (form : Form) (handler : FormHandler) : Request :=
  { method := form.method, url := form.action, fields := sentFields handler form.fields }

/-- The part before the request: an outcome, or the request to send. -/
def begin (form : Form) (handler : FormHandler) :
    List FormEvent × (SubmitOutcome ⊕ Request) :=
  match validated handler form.fields with
  | .error _ =>
    let (events, outcome) := fail genericFailure
    (.panel .clearMessages :: events, .inl outcome)
  | .ok messages =>
    let shown := .panel .clearMessages :: showAll messages
    if messages.any (·.severity.isError) then (shown, .inl (.invalid messages))
    else (shown ++ [.panel (.enable false)], .inr (requestOf form handler))

/-- ASCII white space. -/
def isBlankByte (b : UInt8) : Bool :=
  b = 0x20 || b = 0x09 || b = 0x0A || b = 0x0C || b = 0x0D

/-- The body of a successful answer; a blank one is `null`. -/
def successBody (r : Response) : Except FetchError Json :=
  if r.body.all isBlankByte then .ok .null else r.decodeJson Json.readValue

/-- What a server that refuses a form says about it. -/
def refusal? (r : Response) : Option FeedbackDetail :=
  if r.status = 400 || r.status = 422 then
    (r.decodeJson FeedbackEnvelope.record.decoder).toOption.map (·.detail)
  else none

/-- The part after an answer that tells failure. -/
def refused (r : Response) : List FormEvent × SubmitOutcome :=
  match refusal? r with
  | some (.entries (entry :: entries)) =>
    let messages := (entry :: entries).map FeedbackEntry.message
    (showAll messages, .rejected messages)
  | some (.message text) => fail (if text.isEmpty then genericFailure else text)
  | _ => fail genericFailure

/-- The part after the answer. -/
def conclude (receiver : String) : Answer → List FormEvent × SubmitOutcome
  | .ok r =>
    if r.isSuccess then
      match successBody r with
      | .ok body =>
        (showAll ((FormSuccess.ofJson body).detail.map FeedbackEntry.message)
          ++ [.success receiver body], .succeeded body)
      | .error _ => fail genericFailure
    else refused r
  | .error e => if e.isCancellation then ([], .cancelled) else fail genericFailure

end Submission

end MapSidebar
