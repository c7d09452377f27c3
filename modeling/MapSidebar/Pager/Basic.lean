import MapSidebar.Page
import MapSidebar.Response
import MapSidebar.Screen
import MapSidebar.Ticket

/-!
# Moving through a list

A pager shows one page of a list at a time. A numbered list is moved through by page numbers; a list
with cursors by the stack of the cursors that led to the page on display. A move that is accepted
asks for one page and makes every earlier request stale; only the answer to the request of the
current ticket is shown.

`Pager.request?` decides a move, `Pager.issue` asks for the page, and `Pager.answered?` says what an
answer does. What a pager writes is returned as writes to its container.
-/
namespace MapSidebar

/-- How a list is moved through. -/
inductive PageMode where
  | numbered (initial : UInt32)
  | cursor
  deriving DecidableEq, Repr

structure PagerOptions where
  pageSize : UInt32 := 15
  mode : PageMode := .numbered 1
  windowDistance : UInt32 := 2
  filters : List (String × String) := []
  /-- The request for a page. -/
  build : PageRequest → Request
  /-- What is done to the items, given as they are, whenever a page has been shown. -/
  hook : Option (String → List Write) := none

/-- Where in the list the display is. -/
structure PagePosition where
  page : UInt32 := 0
  numPages : Option UInt32 := none
  /-- The cursors that led to the page on display, the last one first. -/
  cursors : List Cursor := []
  nextCursor : Option String := none
  hasMore : Bool := false
  deriving DecidableEq, Repr

structure Pager where
  /-- The container that it writes to. -/
  container : Nat := 0
  options : PagerOptions
  sequence : Sequence := {}
  /-- The job of the request whose answer is awaited. -/
  task : Option Nat := none
  position : PagePosition := {}
  /-- The cursors to adopt once the awaited page is shown. -/
  pendingCursors : Option (List Cursor) := none
  mounted : Bool := true
  loading : Bool := false

inductive PageMove where
  | goto (page : UInt32)
  | older
  | newer
  deriving DecidableEq, Repr

/-- A page number that does not exist was asked for. -/
inductive PageOverflow where
  /-- The number after the last one of 32 bits. -/
  | afterLast
  /-- The number before zero. -/
  | beforeZero
  deriving DecidableEq, Repr

namespace PageOverflow

def message : PageOverflow → String
  | afterLast => "attempt to add with overflow"
  | beforeZero => "attempt to subtract with overflow"

end PageOverflow

def pageAfter (n : UInt32) : Except PageOverflow UInt32 :=
  if n.toNat + 1 < UInt32.size then .ok (n + 1) else .error .afterLast

def pageBefore (n : UInt32) : Except PageOverflow UInt32 :=
  if n = 0 then .error .beforeZero else .ok (n - 1)

/-- A page to ask for, and the cursors to adopt once it is shown. -/
structure PageTarget where
  address : PageAddress
  cursors : Option (List Cursor) := none
  deriving DecidableEq, Repr

def PageMode.first : PageMode → PageTarget
  | .numbered initial => { address := .number (if initial = 0 then 1 else initial) }
  | .cursor => { address := .cursor none, cursors := some [none] }

namespace PagePosition

/-- The position while a page is awaited: a number is taken over at once. -/
def toward (position : PagePosition) (address : PageAddress) : PagePosition :=
  match address with
  | .number n => { position with page := n }
  | .cursor _ => position

def shown (position : PagePosition) (page : PageResponse) : PagePosition :=
  { position with
    page := page.page.getD position.page
    numPages := page.numPages.or position.numPages
    hasMore := page.hasMore.getD false
    nextCursor := page.nextCursor }

/-- The position with the cursors of the awaited page, of which there are as many as pages up to
it. -/
def adopt (position : PagePosition) : Option (List Cursor) → PagePosition
  | some cursors => { position with cursors, page := UInt32.ofNat cursors.length }
  | none => position

end PagePosition

namespace Pager

/-- Page `n`, if the list is numbered and may have it. -/
def goto? (p : Pager) (n : UInt32) : Option PageTarget :=
  match p.options.mode with
  | .cursor => none
  | .numbered _ =>
    let inRange := 1 ≤ n && match p.position.numPages with
      | some total => n ≤ total
      | none => true
    if p.mounted && inRange then some { address := .number n } else none

/-- What a move asks for, if it is accepted. -/
def request? (p : Pager) (move : PageMove) : Except PageOverflow (Option PageTarget) :=
  match move, p.options.mode with
  | .goto n, _ => .ok (p.goto? n)
  | .older, .numbered _ =>
    if p.position.numPages.isSome || p.position.hasMore then
      (pageAfter p.position.page).map p.goto?
    else .ok none
  | .newer, .numbered _ =>
    if 1 < p.position.page then (pageBefore p.position.page).map p.goto? else .ok none
  | .older, .cursor =>
    match p.position.nextCursor with
    | some next =>
      .ok (if p.position.hasMore && p.mounted then
        some { address := .cursor (some next), cursors := some (some next :: p.position.cursors) }
      else none)
    | none => .ok none
  | .newer, .cursor =>
    match p.position.cursors with
    | _ :: previous :: earlier =>
      .ok (if p.mounted then
        some { address := .cursor previous, cursors := some (previous :: earlier) }
      else none)
    | _ => .ok none

def requestFor (p : Pager) (target : PageTarget) : Request :=
  p.options.build ⟨target.address, p.options.pageSize, p.options.filters⟩

/-- The pager once `job` has been started for a target. -/
def issue (p : Pager) (target : PageTarget) (job : Nat) : Pager :=
  { p with
    sequence := p.sequence.issue.1
    task := some job
    position := p.position.toward target.address
    pendingCursors := target.cursors
    loading := true }

def nextTicket (p : Pager) : Ticket := p.sequence.issue.2

def controls (options : PagerOptions) (position : PagePosition) : Option PageControls :=
  match options.mode with
  | .numbered _ =>
    match position.numPages with
    | some total =>
      if 1 < total then
        some (.numbered (pageWindow position.page.toNat total.toNat options.windowDistance.toNat))
      else none
    | none =>
      if 1 < position.page || position.hasMore then
        some (.steps (1 < position.page) position.hasMore)
      else none
  | .cursor =>
    some (.steps (1 < position.cursors.length)
      (position.hasMore && position.nextCursor.isSome))

/-- What is shown when a page could not be had. -/
def failureMarkup (e : FetchError) : String :=
  Markup.errorFragment ("Failed to load page: " ++ e.message)

/-- What an answer does: the pager after it, the writes to its container, and whether a page was
shown. A stale answer does nothing. -/
def answered? (p : Pager) (ticket : Ticket) (result : Except FetchError PageResponse) :
    Option (Pager × List ContainerWrite × Bool) :=
  if p.sequence.isCurrent ticket then
    let settled := { p with task := none, pendingCursors := none, loading := false }
    match result with
    | .ok page =>
      let position := (p.position.adopt p.pendingCursors).shown page
      some ({ settled with position },
        [.items (.replace (String.join page.items)), .controls (controls p.options position)], true)
    | .error e =>
      if e.isCancellation then some (settled, [], false)
      else some (settled, [.items (.replace (failureMarkup e))], false)
  else none

def unmounted (p : Pager) : Pager :=
  { p with
    sequence := p.sequence.invalidate
    task := none
    pendingCursors := none
    mounted := false
    loading := false }

def unmountWrites : List ContainerWrite := [.items .clear, .controls none]

def pageOf (answer : Answer) : Except FetchError PageResponse := do
  let response ← answer
  let response ← response.errorForStatus
  response.decodeJson PageResponse.record.decoder

end Pager

end MapSidebar
