import MapSidebar.Element
import MapSidebar.Controller
import MapSidebar.Settings.Basic

/-!
# The standard routes

The routes of the map's sidebar: their patterns, the endpoints that they fetch from, the query
parameters that they pass on, and the lists inside their content. An endpoint names an object by the
canonical text of its number; a number that cannot be read leaves its place empty, and the request
fails at the server.
-/
namespace MapSidebar

/-- A query parameter that is passed on, and what it is when the query does not give it. -/
structure Forwarded where
  name : String
  default : Option String := none
  deriving DecidableEq, Repr

structure StandardRoute where
  name : String
  pattern : String
  /-- The path of the endpoint below the prefix. -/
  path : Visit → String
  forwarded : List Forwarded := []
  /-- The list inside the content, if there is one. -/
  nested : Settings → Visit → Option PagerOptions := fun _ _ => none

namespace StandardRoute

/-- The captured number under `name` in canonical form, or nothing. -/
def numberText (visit : Visit) (name : String) : String :=
  match visit.group? name with
  | some raw =>
    match readUInt64 raw with
    | .ok value => canonicalText value
    | .error _ => ""
  | none => ""

/-- The captured kind of element, or nothing. -/
def kindText (visit : Visit) (name : String) : String :=
  match visit.group? name with
  | some raw =>
    match ElementType.read? raw with
    | some kind => kind.text
    | none => ""
  | none => ""

def elementPath (visit : Visit) : String :=
  "/" ++ kindText visit "type" ++ "/" ++ numberText visit "id"

/-! ## Lists -/

/-- A list at a path: its requests give the page, the filters and the page size. -/
def listAt (settings : Settings) (path : String) (pageSize : UInt32) : PagerOptions where
  pageSize := pageSize
  windowDistance := settings.pageWindowDistance
  build := fun page =>
    { url := settings.partialPrefix ++ path
      fields := page.queryPairs ++ [("page_size", toString page.pageSize.toNat)] }

def changesetComments (settings : Settings) (id : ChangesetId) : PagerOptions :=
  listAt settings ("/changeset/" ++ id.text ++ "/comments") settings.commentsPageSize

def noteComments (settings : Settings) (id : NoteId) : PagerOptions :=
  listAt settings ("/note/" ++ id.text ++ "/comments") settings.commentsPageSize

/-- The words for truth values. -/
def flagText (flag : Bool) : String := if flag then "true" else "false"

/-- The versions of an element, with the differences of their tags or without. -/
def elementVersions (settings : Settings) (kind : ElementType) (id : ElementId) (tagsDiff : Bool) :
    PagerOptions :=
  { listAt settings ("/" ++ kind.text ++ "/" ++ id.text ++ "/versions") settings.historyPageSize with
    filters := [("tags_diff", flagText tagsDiff)] }

def versionsOf (settings : Settings) (visit : Visit) : Option PagerOptions := do
  let kind ← (← visit.group? "type") |> ElementType.read?
  let id ← (ElementId.read (← visit.group? "id")).toOption
  some (elementVersions settings kind id (visit.queryParam? "tags_diff" = some "true"))

def changesetCommentsOf (settings : Settings) (visit : Visit) : Option PagerOptions := do
  let id ← (ChangesetId.read (← visit.group? "id")).toOption
  some (changesetComments settings id)

def noteCommentsOf (settings : Settings) (visit : Visit) : Option PagerOptions := do
  let id ← (NoteId.read (← visit.group? "id")).toOption
  some (noteComments settings id)

/-! ## The table -/

/-- All routes, in the order in which they are tried. -/
def all : List StandardRoute := [
  { name := "element-version"
    pattern := "/:type(node|way|relation)/:id(\\d+)/history/:version(\\d+)"
    path := fun visit => elementPath visit ++ "/history/" ++ numberText visit "version" },
  { name := "element-history"
    pattern := "/:type(node|way|relation)/:id(\\d+)/history"
    path := fun visit => elementPath visit ++ "/history"
    forwarded := [⟨"page", some "1"⟩, ⟨"tags_diff", some "false"⟩]
    nested := versionsOf },
  { name := "element"
    pattern := "/:type(node|way|relation)/:id(\\d+)"
    path := elementPath },
  { name := "changeset"
    pattern := "/changeset/:id(\\d+)"
    path := fun visit => "/changeset/" ++ numberText visit "id"
    nested := changesetCommentsOf },
  { name := "note"
    pattern := "/note/:id(\\d+)"
    path := fun visit => "/note/" ++ numberText visit "id"
    nested := noteCommentsOf },
  { name := "where-is-this"
    pattern := "/search/where-is-this"
    path := fun _ => "/where-is-this"
    forwarded := [⟨"lon", none⟩, ⟨"lat", none⟩, ⟨"zoom", none⟩] },
  { name := "search"
    pattern := "/search"
    path := fun _ => "/search"
    forwarded := [⟨"q", none⟩, ⟨"bbox", none⟩, ⟨"local_only", none⟩] },
  { name := "query-features"
    pattern := "/query"
    path := fun _ => "/query"
    forwarded := [⟨"lat", none⟩, ⟨"lon", none⟩] }]

/-! ## Endpoints -/

/-- The parameters that are passed on, each with the first value that the query gives it. -/
def forwardedPairs (forwarded : List Forwarded) (visit : Visit) : List (String × String) :=
  forwarded.filterMap fun parameter =>
    ((visit.queryParam? parameter.name).or parameter.default).map (parameter.name, ·)

/-- The URL of an endpoint: prefix, path and the parameters that are passed on. -/
def endpointUrl (linkPrefix path : String) (forwarded : List Forwarded) (visit : Visit) : String :=
  match forwardedPairs forwarded visit with
  | [] => linkPrefix ++ path
  | pairs => linkPrefix ++ path ++ "?" ++ Query.encode pairs

/-- The URL that a route fetches for a visit. -/
def endpoint (settings : Settings) (route : StandardRoute) (visit : Visit) : String :=
  endpointUrl settings.partialPrefix (route.path visit) route.forwarded visit

/-- The geometry of structured content is highlighted, unless it is empty. -/
def highlight (content : PartialContent) : List ReadyAction :=
  match content.payload? with
  | some payload =>
    if payload.render.isEmpty then [] else [.write (.focus (some payload.render))]
  | none => []

/-- The list inside the content is mounted on the list container, if there is one. -/
def mountList (settings : Settings) (container : Option Nat) (route : StandardRoute)
    (visit : Visit) : List ReadyAction :=
  match container, route.nested settings visit with
  | some container, some options => [.mount container options]
  | _, _ => []

def spec (settings : Settings) (container : Option Nat) (route : StandardRoute) :
    ControllerSpec where
  name := route.name
  endpoint := route.endpoint settings
  onReady := fun visit content =>
    highlight content ++ route.mountList settings container visit

end StandardRoute

end MapSidebar
