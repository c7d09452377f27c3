import MapSidebar.Query
import MapSidebar.Route.Pattern

/-!
# Requests

`Visit` is what a controller is given when a URL leads to it: the captured values, the query and the
fragment, both as they stand in the URL. `Request` is what goes to the server: its fields travel in
the query of a GET and in the body of a POST.
-/
namespace MapSidebar

inductive Method where
  | get | post
  deriving DecidableEq, Repr

def Method.text : Method → String
  | .get => "GET"
  | .post => "POST"

/-- A request to the server, by a URL relative to it. -/
structure Request where
  method : Method := .get
  url : String
  fields : List (String × String) := []
  deriving DecidableEq, Repr

/-- What a controller is given to load. -/
structure Visit where
  groups : Groups := []
  query : Option String := none
  fragment : Option String := none
  deriving DecidableEq, Repr

namespace Visit

/-- The value captured under `name`. -/
def group? (v : Visit) (name : String) : Option String := v.groups.get? name

def queryPairs (v : Visit) : List (String × String) :=
  match v.query with
  | some query => Query.decode query
  | none => []

/-- The first value that the query gives `name`. -/
def queryParam? (v : Visit) (name : String) : Option String := List.lookup name v.queryPairs

end Visit

end MapSidebar
