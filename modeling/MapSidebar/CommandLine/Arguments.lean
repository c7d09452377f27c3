/-!
# Command line arguments

URLs, of which there must be one, and an option that names the server. The option takes its value
from the same word, after an equals sign, or from the next one, which then must not look like an
option; it is given at most once. After `--` every word is a URL.
-/
namespace MapSidebar.CommandLine

structure Arguments where
  serverUrl : Option String := none
  urls : List String := []
  deriving DecidableEq, Repr

inductive Invocation where
  | run (arguments : Arguments)
  | help
  | misuse
  deriving DecidableEq, Repr

/-- How one word is meant. -/
inductive Word where
  /-- All words after it are URLs. -/
  | divider
  | url (text : String)
  /-- The option for the server, with its value if that stands in the same word. -/
  | serverOption (value : Option String)
  | helpOption
  | unknownOption
  deriving DecidableEq, Repr

/-- Cuts the text of an option at its first equals sign. -/
def cutValue : List Char → List Char × Option (List Char)
  | [] => ([], none)
  | '=' :: value => ([], some value)
  | c :: rest =>
    let (name, value) := cutValue rest
    (c :: name, value)

def Word.ofText (text : String) : Word :=
  match text.toList with
  | ['-', '-'] => .divider
  | '-' :: '-' :: option =>
    let (name, value) := cutValue option
    if name = "server-url".toList then .serverOption (value.map String.ofList)
    else if name = "help".toList && value.isNone then .helpOption
    else .unknownOption
  | '-' :: 'h' :: _ => .helpOption
  | '-' :: _ :: _ => .unknownOption
  | _ => .url text

/-- Whether a word may be the value of the option before it. -/
def isValue (text : String) : Bool :=
  match Word.ofText text with
  | .url _ => true
  | _ => false

/-- The arguments with the server named, unless it was. -/
def Arguments.named? (a : Arguments) (server : String) : Option Arguments :=
  match a.serverUrl with
  | some _ => none
  | none => some { a with serverUrl := some server }

def Arguments.addUrl (a : Arguments) (url : String) : Arguments := { a with urls := a.urls ++ [url] }

/-- The arguments, unless there is no URL. -/
def Arguments.finish (a : Arguments) : Invocation := if a.urls.isEmpty then .misuse else .run a

/-- Reads the words after the arguments `a`; the first fault, or the first wish for help, decides. -/
def readWords (a : Arguments) : List String → Invocation
  | [] => a.finish
  | [word] =>
    match Word.ofText word with
    | .divider => a.finish
    | .url text => (a.addUrl text).finish
    | .serverOption (some value) => (a.named? value).elim .misuse Arguments.finish
    | .serverOption none => .misuse
    | .helpOption => .help
    | .unknownOption => .misuse
  | word :: next :: rest =>
    match Word.ofText word with
    | .divider => (Arguments.finish { a with urls := a.urls ++ next :: rest })
    | .url text => readWords (a.addUrl text) (next :: rest)
    | .serverOption (some value) =>
      match a.named? value with
      | some a => readWords a (next :: rest)
      | none => .misuse
    | .serverOption none =>
      match isValue next, a.named? next with
      | true, some a => readWords a rest
      | _, _ => .misuse
    | .helpOption => .help
    | .unknownOption => .misuse

def Invocation.ofWords (words : List String) : Invocation := readWords {} words

def helpText : String :=
  "Drives the sidebar router against a running explorer server and prints what each navigation "
    ++ "renders\n\n"
    ++ "Usage: explorer [OPTIONS] <URLS>...\n\n"
    ++ "Arguments:\n"
    ++ "  <URLS>...  Explorer URLs to navigate to, in order (e.g. `/way/123`)\n\n"
    ++ "Options:\n"
    ++ "      --server-url <SERVER_URL>  Overrides the configured server URL\n"
    ++ "  -h, --help                     Print help\n"

end MapSidebar.CommandLine
