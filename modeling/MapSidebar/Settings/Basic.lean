import MapSidebar.Log
import MapSidebar.Number.Unsigned
import MapSidebar.Text.Split

/-!
# Settings

Settings begin with defaults and take over entries, each a key and a text. A number that cannot be read,
and a page size of zero, leave the setting as it was, which is logged. At the end settings are brought to
normal form; a server URL without a scheme for the web is refused.
-/
namespace MapSidebar

/-- Where the server is and how lists are shown. -/
structure Settings where
  serverUrl : String := "http://127.0.0.1:8000"
  partialPrefix : String := "/api/partial"
  historyPageSize : UInt32 := 10
  commentsPageSize : UInt32 := 15
  pageWindowDistance : UInt32 := 2
  deriving DecidableEq, Repr

inductive SettingsError where
  /-- The file is no valid one. -/
  | malformedFile (path : String)
  /-- The server URL is not one for the web. -/
  | serverUrl (raw : String)
  deriving DecidableEq, Repr

def SettingsError.message : SettingsError → String
  | .malformedFile path => "failed to parse settings file " ++ path
  | .serverUrl raw => "server_url must start with http:// or https://: " ++ raw

namespace Settings

def isSlash (c : Char) : Bool := c = '/'

/-- Whether a text begins as a URL for the web does. -/
def isWeb (text : List Char) : Bool :=
  "http://".toList.isPrefixOf text || "https://".toList.isPrefixOf text

/-- A server URL in normal form: no blanks around it and no slash at its end. -/
def normalizeServerUrl (raw : String) : Except SettingsError String :=
  let trimmed := Text.dropEnd isSlash (Text.trim raw.toList)
  if isWeb trimmed then .ok (String.ofList trimmed) else .error (.serverUrl raw)

/-- A prefix in normal form: empty, or a slash and a text without slashes at its ends. -/
def normalizePrefix (raw : String) : String :=
  let trimmed := Text.dropEnd isSlash ((Text.trim raw.toList).dropWhile isSlash)
  if trimmed.isEmpty then "" else String.ofList ('/' :: trimmed)

/-- The number that a text with blanks around it writes. -/
def readNumber? (text : String) : Option UInt32 :=
  (readUInt32 (String.ofList (Text.trim text.toList))).toOption

/-- The positive number that a text with blanks around it writes. -/
def readPositive? (text : String) : Option UInt32 := (readNumber? text).filter (0 < ·)

/-- Takes over a setting; unknown keys and values that cannot be read change nothing. -/
def set (s : Settings) (key value : String) : Settings :=
  if key = "server_url" then { s with serverUrl := value }
  else if key = "partial_prefix" then { s with partialPrefix := value }
  else if key = "history_page_size" then
    { s with historyPageSize := (readPositive? value).getD s.historyPageSize }
  else if key = "comments_page_size" then
    { s with commentsPageSize := (readPositive? value).getD s.commentsPageSize }
  else if key = "page_window_distance" then
    { s with pageWindowDistance := (readNumber? value).getD s.pageWindowDistance }
  else s

/-- The line that is logged about an entry that is not taken over. -/
def warning? (key value : String) : Option LogLine :=
  if key = "server_url" || key = "partial_prefix" then none
  else if key = "history_page_size" || key = "comments_page_size" then
    if (readPositive? value).isNone then some (.invalidSetting key value) else none
  else if key = "page_window_distance" then
    if (readNumber? value).isNone then some (.invalidSetting key value) else none
  else some (.unknownSetting key)

def normalize (s : Settings) : Except SettingsError Settings :=
  (normalizeServerUrl s.serverUrl).map fun serverUrl =>
    { s with serverUrl, partialPrefix := normalizePrefix s.partialPrefix }

/-- Settings with another server URL, if one is given. -/
def withServerUrl (s : Settings) (raw : Option String) : Except SettingsError Settings :=
  match raw with
  | some raw => (normalizeServerUrl raw).map fun serverUrl => { s with serverUrl }
  | none => .ok s

end Settings

end MapSidebar
