import MapSidebar.Json.Decoder
import MapSidebar.Request

/-!
# Pages of a list

A page is asked for by its number or by a cursor; no cursor asks for the first page. A numbered list
tells how many pages there are; a list with cursors tells whether there is more and the cursor of the
next page. A numbered list shows links to the first and the last page and to every page within a distance
of the current one, and one ellipsis for each gap between them.
-/
namespace MapSidebar

/-! ## Requests -/

/-- What a list with cursors asks with; nothing for its first page. -/
abbrev Cursor := Option String

/-- Which page is asked for. -/
inductive PageAddress where
  | number (n : UInt32)
  | cursor (c : Cursor)
  deriving DecidableEq, Repr

structure PageRequest where
  address : PageAddress
  pageSize : UInt32
  filters : List (String × String)
  deriving DecidableEq, Repr

def PageAddress.fields : PageAddress → List (String × String)
  | .number n => [("page", toString n.toNat)]
  | .cursor (some token) => [("cursor", token)]
  | .cursor none => []

/-- The fields of the request: the address and the filters. -/
def PageRequest.queryPairs (r : PageRequest) : List (String × String) :=
  r.address.fields ++ r.filters

/-! ## Responses -/

/-- One page of a list, as a server sends it. -/
structure PageResponse where
  items : List String := []
  page : Option UInt32 := none
  numPages : Option UInt32 := none
  hasMore : Option Bool := none
  nextCursor : Option String := none
  deriving DecidableEq, Repr

namespace PageResponse

def jsonOfNumber (n : UInt32) : Json := .number (.int n.toNat)

def json (page : PageResponse) : Json :=
  .object (("items", .array (page.items.map Json.string)) ::
    (Json.optionalEntry "page" (page.page.map jsonOfNumber)
      ++ Json.optionalEntry "num_pages" (page.numPages.map jsonOfNumber)
      ++ Json.optionalEntry "has_more" (page.hasMore.map Json.bool)
      ++ Json.optionalEntry "next_cursor" (page.nextCursor.map Json.string)))

structure Draft where
  items : Option (List String) := none
  page : Option (Option UInt32) := none
  numPages : Option (Option UInt32) := none
  hasMore : Option (Option Bool) := none
  nextCursor : Option (Option String) := none

def record : Json.Record Draft PageResponse where
  name := "PageResponse"
  fields := [
    ⟨"items", (·.items.isSome), fun draft depth input =>
      (Json.listValue Json.stringValue depth input).map fun (value, rest) =>
        ({ draft with items := some value }, rest)⟩,
    ⟨"page", (·.page.isSome), fun draft depth input =>
      (Json.optionValue Json.uint32Value depth input).map fun (value, rest) =>
        ({ draft with page := some value }, rest)⟩,
    ⟨"num_pages", (·.numPages.isSome), fun draft depth input =>
      (Json.optionValue Json.uint32Value depth input).map fun (value, rest) =>
        ({ draft with numPages := some value }, rest)⟩,
    ⟨"has_more", (·.hasMore.isSome), fun draft depth input =>
      (Json.optionValue Json.boolValue depth input).map fun (value, rest) =>
        ({ draft with hasMore := some value }, rest)⟩,
    ⟨"next_cursor", (·.nextCursor.isSome), fun draft depth input =>
      (Json.optionValue Json.stringValue depth input).map fun (value, rest) =>
        ({ draft with nextCursor := some value }, rest)⟩]
  start := {}
  build := fun draft =>
    .ok ⟨draft.items.getD [], draft.page.getD none, draft.numPages.getD none,
      draft.hasMore.getD none, draft.nextCursor.getD none⟩

end PageResponse

/-! ## Links -/

inductive PageLink where
  /-- A link to a page; the current one is marked. -/
  | page (number : Nat) (current : Bool)
  | ellipsis
  deriving DecidableEq, Repr

/-- Links for those of `pages` that come after `last`, in order. -/
def linksAfter (current last : Nat) : List Nat → List PageLink
  | [] => []
  | page :: pages =>
    if page ≤ last then linksAfter current last pages
    else if last + 1 < page then
      .ellipsis :: .page page (page = current) :: linksAfter current page pages
    else .page page (page = current) :: linksAfter current page pages

/-- The pages within `distance` of `current`, among those from 1 to `total`. -/
def nearbyPages (current total distance : Nat) : List Nat :=
  List.range' (max 1 (current - distance))
    (min total (current + distance) + 1 - max 1 (current - distance))

/-- The links shown on page `current` of `total`. -/
def pageWindow (current total distance : Nat) : List PageLink :=
  if total = 0 then []
  else linksAfter current 0 (1 :: (nearbyPages current total distance ++ [total]))

/-- What a list shows for moving through it. -/
inductive PageControls where
  | numbered (links : List PageLink)
  /-- Steps to the neighbouring pages, each available or not. -/
  | steps (newer older : Bool)
  deriving DecidableEq, Repr

end MapSidebar
