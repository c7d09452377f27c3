import MapSidebar.CommandLine.Arguments
import MapSidebar.Explorer.Tour
import MapSidebar.Server.Basic
import MapSidebar.Settings.File

/-!
# The start of a run

From the words of the command line, the settings file and the environment to a server, a sidebar and
the URLs to visit, or to the reason why nothing is visited.
-/
namespace MapSidebar.CommandLine

structure Session where
  /-- What has been logged so far. -/
  log : List LogLine
  server : Server
  explorer : Explorer
  urls : List String

/-- What a command line comes to before anything is visited. -/
inductive Start where
  | help
  | misuse
  /-- The settings or the URL of the server are refused, after some lines have been logged. -/
  | refused (log : List LogLine) (message : String)
  | ready (session : Session)

namespace Start

/-- The exit code, when all that is left has gone well. -/
def exitCode : Start → Nat
  | help => 0
  | misuse => 2
  | refused _ _ => 1
  | ready _ => 0

/-- Prepares a run with given settings, whose loading has logged `log`. -/
def withSettings (log : List LogLine) (settings : Settings) (urls : List String) : Start :=
  let log := log ++ [.starting settings.serverUrl]
  match Server.new settings.serverUrl, Explorer.new settings false with
  | .ok server, .ok explorer => ready ⟨log, server, explorer, urls⟩
  | .error e, _ => refused log e.message
  | _, .error e => refused log e.message

/-- Prepares a run from the words of a command line, the content of the settings file, if there is
one, and an environment. -/
def ofWords (words : List String) (file : Option (List UInt8))
    (environment : String → Option String) : Start :=
  match Invocation.ofWords words with
  | .help => help
  | .misuse => misuse
  | .run arguments =>
    let log := Settings.fileLog file environment
    let settings := (Settings.loadFile Settings.fileName file environment).bind
      (·.withServerUrl arguments.serverUrl)
    match settings with
    | .ok settings => withSettings log settings arguments.urls
    | .error e => refused log e.message

end Start

/-- Runs what is prepared; `exchange` carries a message to the server. What is shown goes to `output`.
The program writes its log to the same place unless it is asked for another level; here the lines go to
`note`, which may be left out, as when nothing is to be logged. -/
def run {m : Type → Type} [Monad m] (exchange : ServerMessage → m ServerReply)
    (output : String → m Unit) (start : Start) (note : LogLine → m Unit := fun _ => pure ()) :
    m Unit :=
  match start with
  | .help => output helpText
  | .misuse => pure ()
  | .refused log _ => log.forM note
  | .ready session => do
    session.log.forM note
    session.explorer.tour (session.server.fetch exchange) note output session.urls

end MapSidebar.CommandLine
