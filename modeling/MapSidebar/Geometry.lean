import MapSidebar.Json.Decoder

/-!
# Geometry and structured content

The geometry that a content asks to have highlighted on the map, and a content that carries it. Both
travel as JSON: `json` gives the written form and `decoder` reads it.
-/
namespace MapSidebar

structure LonLat where
  lon : Float
  lat : Float
  deriving Repr

/-- A line in the encoded form in which the map takes it. -/
structure EncodedLine where
  line : String
  deriving DecidableEq, Repr

/-- A rectangle, as the four numbers in which it is given. -/
structure Bounds where
  first : Float
  second : Float
  third : Float
  fourth : Float
  deriving Repr

structure RenderData where
  points : List LonLat := []
  lines : List EncodedLine := []
  bounds : Option Bounds := none
  deriving Repr

structure PartialPayload where
  html : Option String := none
  render : RenderData := {}
  deriving Repr

namespace LonLat

def json (p : LonLat) : Json :=
  .object [("lon", .ofFloat p.lon), ("lat", .ofFloat p.lat)]

structure Draft where
  lon : Option Float := none
  lat : Option Float := none

def record : Json.Record Draft LonLat where
  name := "LonLat"
  fields := [
    ⟨"lon", (·.lon.isSome), fun draft depth input =>
      (Json.floatValue depth input).map fun (value, rest) => ({ draft with lon := some value }, rest)⟩,
    ⟨"lat", (·.lat.isSome), fun draft depth input =>
      (Json.floatValue depth input).map fun (value, rest) => ({ draft with lat := some value }, rest)⟩]
  start := {}
  build := fun
    | { lon := none, .. } => .error "lon"
    | { lat := none, .. } => .error "lat"
    | { lon := some lon, lat := some lat } => .ok ⟨lon, lat⟩

end LonLat

namespace EncodedLine

def json (l : EncodedLine) : Json := .object [("line", .string l.line)]

def record : Json.Record (Option String) EncodedLine where
  name := "EncodedLine"
  fields := [
    ⟨"line", (·.isSome), fun _ depth input =>
      (Json.stringValue depth input).map fun (value, rest) => (some value, rest)⟩]
  start := none
  build := fun
    | none => .error "line"
    | some line => .ok ⟨line⟩

end EncodedLine

namespace Bounds

def json (b : Bounds) : Json :=
  .array [.ofFloat b.first, .ofFloat b.second, .ofFloat b.third, .ofFloat b.fourth]

/-- The rectangle of four numbers; those missing are zero. -/
def ofList (numbers : List Float) : Bounds :=
  ⟨numbers.getD 0 0, numbers.getD 1 0, numbers.getD 2 0, numbers.getD 3 0⟩

/-- How a rectangle is read: exactly four numbers. -/
def decoder : Json.Decoder Bounds := fun depth input =>
  (Json.arrayValue 4 Json.floatValue depth input).map fun (numbers, rest) => (ofList numbers, rest)

end Bounds

namespace RenderData

/-- Whether there is nothing to highlight; bounds alone do not count. -/
def isEmpty (data : RenderData) : Bool := data.points.isEmpty && data.lines.isEmpty

def json (data : RenderData) : Json :=
  .object ([("points", .array (data.points.map LonLat.json)),
      ("lines", .array (data.lines.map EncodedLine.json))]
    ++ Json.optionalEntry "bounds" (data.bounds.map Bounds.json))

structure Draft where
  points : Option (List LonLat) := none
  lines : Option (List EncodedLine) := none
  bounds : Option (Option Bounds) := none

/-- How geometry is read; all its fields may be missing. -/
def record : Json.Record Draft RenderData where
  name := "RenderData"
  fields := [
    ⟨"points", (·.points.isSome), fun draft depth input =>
      (Json.listValue LonLat.record.decoder depth input).map fun (value, rest) =>
        ({ draft with points := some value }, rest)⟩,
    ⟨"lines", (·.lines.isSome), fun draft depth input =>
      (Json.listValue EncodedLine.record.decoder depth input).map fun (value, rest) =>
        ({ draft with lines := some value }, rest)⟩,
    ⟨"bounds", (·.bounds.isSome), fun draft depth input =>
      (Json.optionValue Bounds.decoder depth input).map fun (value, rest) =>
        ({ draft with bounds := some value }, rest)⟩]
  start := {}
  build := fun draft =>
    .ok ⟨draft.points.getD [], draft.lines.getD [], draft.bounds.getD none⟩

end RenderData

namespace PartialPayload

def json (payload : PartialPayload) : Json :=
  .object (Json.optionalEntry "html" (payload.html.map Json.string)
    ++ [("render", payload.render.json)])

structure Draft where
  html : Option (Option String) := none
  render : Option RenderData := none

/-- How structured content is read; both its fields may be missing. -/
def record : Json.Record Draft PartialPayload where
  name := "PartialPayload"
  fields := [
    ⟨"html", (·.html.isSome), fun draft depth input =>
      (Json.optionValue Json.stringValue depth input).map fun (value, rest) =>
        ({ draft with html := some value }, rest)⟩,
    ⟨"render", (·.render.isSome), fun draft depth input =>
      (RenderData.record.decoder depth input).map fun (value, rest) =>
        ({ draft with render := some value }, rest)⟩]
  start := {}
  build := fun draft => .ok ⟨draft.html.getD none, draft.render.getD {}⟩

end PartialPayload

end MapSidebar
