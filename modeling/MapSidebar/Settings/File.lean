import MapSidebar.Settings.Basic
import MapSidebar.Text.Utf8
import MapSidebar.Toml.Document

/-!
# Where settings are looked for

Settings take over what a file says and then what the environment says. The file is a TOML document; one
that cannot be read as text counts as none, and a text that is no document is refused.
-/
namespace MapSidebar.Settings

/-! ## The file -/

def fileName : String := "explorer.toml"

/-- The text of a file, if there is one and it holds text. -/
def fileText? (content : Option (List UInt8)) : Option String :=
  content.bind fun bytes => (Utf8.decode bytes).toOption

/-- The entries of a settings file, each as text. -/
def fileEntries (path : String) (content : Option (List UInt8)) :
    Except SettingsError (List (String × String)) :=
  match fileText? content with
  | none => .ok []
  | some text =>
    match Toml.parse? text with
    | some entries => .ok (entries.map fun (key, value) => (key, value.plainText))
    | none => .error (.malformedFile path)

/-! ## The environment -/

/-- The variables that are looked up in the environment, and the settings that they hold. -/
def environmentKeys : List (String × String) :=
  [("EXPLORER_SERVER_URL", "server_url"),
   ("APP__SERVER_URL", "server_url"),
   ("APP__PARTIAL_PREFIX", "partial_prefix"),
   ("APP__HISTORY_PAGE_SIZE", "history_page_size"),
   ("APP__COMMENTS_PAGE_SIZE", "comments_page_size"),
   ("APP__PAGE_WINDOW_DISTANCE", "page_window_distance")]

/-- The settings that an environment holds, in the order in which they are taken over. -/
def environmentEntries (environment : String → Option String) : List (String × String) :=
  environmentKeys.filterMap fun (name, key) => (environment name).map (key, ·)

/-! ## Loading -/

def setAll (s : Settings) (entries : List (String × String)) : Settings :=
  entries.foldl (fun s entry => s.set entry.1 entry.2) s

/-- The settings before they are brought to normal form. -/
def combined (file : List (String × String)) (environment : String → Option String) : Settings :=
  (setAll {} file).setAll (environmentEntries environment)

/-- Settings from a file whose entries have been read as text, and an environment. -/
def load (file : List (String × String)) (environment : String → Option String) :
    Except SettingsError Settings :=
  (combined file environment).normalize

/-- Settings from the content of a file, if there is one, and an environment. -/
def loadFile (path : String) (content : Option (List UInt8))
    (environment : String → Option String) : Except SettingsError Settings := do
  load (← fileEntries path content) environment

/-- What is logged while they are loaded, in the order in which the entries are visited. -/
def fileLog (content : Option (List UInt8)) (environment : String → Option String) : List LogLine :=
  match fileEntries fileName content with
  | .ok entries => (entries ++ environmentEntries environment).filterMap fun (key, value) =>
      warning? key value
  | .error _ => []

end MapSidebar.Settings
