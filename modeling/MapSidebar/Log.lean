import MapSidebar.Text.Category

/-!
# The log

The program keeps a log beside what it shows. These are the events of the levels that are logged unless
others are asked for: a start, a switch between controllers, content that could not be had, and settings
that were not taken over. When an event happened, and how a line is laid out, is left to whoever
writes the log.
-/
namespace MapSidebar

inductive LogLevel where
  | info | warn
  deriving DecidableEq, Repr

def LogLevel.text : LogLevel → String
  | info => "INFO"
  | warn => "WARN"

structure LogLine where
  level : LogLevel
  /-- The part of the program that it comes from. -/
  target : String
  message : String
  /-- What is known about the event, by name. -/
  fields : List (String × String) := []
  deriving DecidableEq, Repr

namespace LogLine

def starting (serverUrl : String) : LogLine :=
  ⟨.info, "explorer", "explorer: starting", [("server_url", serverUrl)]⟩

/-- The names of the controllers are logged between quotes. -/
def switching (previous next : String) : LogLine :=
  ⟨.info, "explorer_core::router", "router: switching controller",
    [("from", Quoted.quote previous), ("to", Quoted.quote next)]⟩

def contentFailed (controller : String) (ticket : Nat) (reason : String) : LogLine :=
  ⟨.warn, "explorer_core::fetch_controller", "failed to load content",
    [("controller", controller), ("seq", toString ticket), ("err", reason)]⟩

def invalidSetting (key value : String) : LogLine :=
  ⟨.warn, "explorer_core::config", "ignoring invalid setting", [("key", key), ("value", value)]⟩

def unknownSetting (key : String) : LogLine :=
  ⟨.warn, "explorer_core::config", "ignoring unknown setting", [("key", key)]⟩

/-- A line without the time at its front, and without colours. -/
def text (line : LogLine) : String :=
  line.level.text ++ " " ++ line.target ++ ": " ++ line.message
    ++ String.join (line.fields.map fun (name, value) => " " ++ name ++ "=" ++ value)

end LogLine

end MapSidebar
