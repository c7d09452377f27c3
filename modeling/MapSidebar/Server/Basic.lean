import MapSidebar.Request
import MapSidebar.Response
import MapSidebar.Url.Basic

/-!
# The server

Requests are relative to the URL of the server. `Server.resolve` makes the URL that a request goes
to, with the fields of a GET in its query; `Server.message` makes what is sent there, with the fields
of a POST as its body; and `ServerReply.answer` turns what comes back into the answer of the fetch.
-/
namespace MapSidebar

structure Server where
  base : Url
  deriving DecidableEq, Repr

/-- What a server is sent. User name and password are not part of the URL. -/
structure ServerMessage where
  method : Method
  url : Url
  /-- User name and password, the latter if there is one. -/
  credentials : Option (String × Option String)
  contentType : Option String
  body : List UInt8
  deriving DecidableEq, Repr

/-- What comes back. Redirects are not modelled: whoever carries a message may follow them, the program
up to ten, and what counts is the last reply; a failure names the URL of the message all the same. -/
inductive ServerReply where
  | response (status : Nat) (contentType : Option (List UInt8)) (body : List UInt8)
  /-- The connection ends before there is an answer. -/
  | hangup
  /-- The connection ends inside the body. -/
  | short
  deriving DecidableEq, Repr

namespace Url

/-- The text that a component with percent signs stands for. -/
def percentText? (component : List Char) : Option String :=
  (Utf8.decode (Query.percentDecode (Utf8.encode component))).toOption

/-- The user name and the password that a URL carries, if it carries any. -/
def credentials? (u : Url) : Option (String × Option String) := do
  let authority ← u.authority
  let username ← percentText? authority.username
  let password := if authority.password.isEmpty then none else percentText? authority.password
  if username.isEmpty && password.isNone then none else some (username, password)

def withoutCredentials (u : Url) : Url :=
  match u.credentials? with
  | some _ => { u with authority := u.authority.map fun a => { a with username := [], password := [] } }
  | none => u

/-- Whether a server can be reached by the URL. -/
def isWeb (u : Url) : Bool :=
  u.hasHost && (u.scheme = "http".toList || u.scheme = "https".toList)

end Url

/-- A failure about a text that is no URL. -/
def FetchError.badUrl (text : String) (e : UrlError) : FetchError :=
  .network (text ++ ": " ++ e.message)

def FetchError.atUrl (what : String) (u : Url) : FetchError :=
  .network (what ++ " for url (" ++ u.text ++ ")")

namespace ServerReply

/-- Whether a byte is one of a header that can be read as text. -/
def isHeaderByte (b : UInt8) : Bool := b = 0x09 || (0x20 ≤ b && b < 0x7F)

def headerText? (bytes : List UInt8) : Option String :=
  if bytes.all isHeaderByte then some (String.ofList (bytes.map fun b => Char.ofNat b.toNat))
  else none

def answer (reply : ServerReply) (message : ServerMessage) : Answer :=
  match reply with
  | .response status contentType body => .ok ⟨status, contentType.bind headerText?, body⟩
  | .hangup => .error (.atUrl "error sending request" message.url)
  | .short => .error (.decode "error decoding response body")

end ServerReply

namespace Server

def new (base : String) : Except FetchError Server :=
  match Url.parse base with
  | .ok url => .ok ⟨url⟩
  | .error e => .error (.badUrl base e)

/-- The URL that a request goes to. -/
def resolve (s : Server) (r : Request) : Except FetchError Url :=
  match s.base.join r.url with
  | .error e => .error (.badUrl r.url e)
  | .ok url =>
    if r.method = .get && !r.fields.isEmpty then .ok (url.appendPairs r.fields) else .ok url

def formType : String := "application/x-www-form-urlencoded"

def bodyOf (r : Request) : Option String × List UInt8 :=
  match r.method with
  | .get => (none, [])
  | .post => (some formType, Utf8.bytes (Query.encode r.fields))

def message (s : Server) (r : Request) : Except FetchError ServerMessage := do
  let url ← s.resolve r
  let target := url.withoutCredentials
  if target.isWeb then
    let (contentType, body) := bodyOf r
    .ok ⟨r.method, target, url.credentials?, contentType, body⟩
  else .error (.atUrl "builder error" target)

/-- Lets `exchange` carry a request to the server, redirects included, and gives the answer. -/
def fetch {m : Type → Type} [Monad m] (exchange : ServerMessage → m ServerReply) (s : Server)
    (r : Request) : m Answer :=
  match s.message r with
  | .error e => pure (.error e)
  | .ok message => do
    let reply ← exchange message
    pure (reply.answer message)

end Server

end MapSidebar
