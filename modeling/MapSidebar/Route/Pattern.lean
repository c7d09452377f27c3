import MapSidebar.Text.Split

/-!
# Route patterns

A pattern is a path template of literal segments and named captures: `:name` takes any value,
`:name(\d+)` digits, `:name(a|b|c)` one of the listed words, and a trailing `?` makes a capture
optional, which only the last segments of a pattern may be. `Pattern.parse` reads a pattern and
names the first rule that a text breaks; `Pattern.match?` gives the captured values of a path.
-/
namespace MapSidebar

inductive RouteError where
  | notAbsolute (pattern : String)
  | emptyCapture (pattern : String)
  | duplicateCapture (pattern name : String)
  | invalidSegment (pattern segment : String)
  | requiredAfterOptional (pattern : String)
  | duplicateRoute (pattern : String)
  deriving DecidableEq, Repr

def RouteError.message : RouteError → String
  | .notAbsolute pattern => "pattern must start with '/': " ++ pattern
  | .emptyCapture pattern => "empty capture name in pattern " ++ pattern
  | .duplicateCapture pattern name =>
    "duplicate capture name " ++ name ++ " in pattern " ++ pattern
  | .invalidSegment pattern segment =>
    "invalid segment " ++ segment ++ " in pattern " ++ pattern
  | .requiredAfterOptional pattern =>
    "required segment follows an optional one in pattern " ++ pattern
  | .duplicateRoute pattern => "route " ++ pattern ++ " is already registered"

/-- The values of the captures of a pattern, by name. -/
abbrev Groups := List (String × String)

def Groups.get? (groups : Groups) (name : String) : Option String := List.lookup name groups

/-- Which values a capture takes. -/
inductive Constraint where
  | any
  | digits
  | oneOf (options : List String)
  deriving DecidableEq, Repr

def Constraint.accepts : Constraint → String → Bool
  | .any, _ => true
  | .digits, value => value.toList.all Char.isDigit
  | .oneOf options, value => options.contains value

inductive Segment where
  | literal (text : String)
  | capture (name : String) (constraint : Constraint) (optional : Bool)
  deriving DecidableEq, Repr

namespace Segment

def name? : Segment → Option String
  | .literal _ => none
  | .capture name _ _ => some name

/-- Whether a path may end before this segment. -/
def isOptional : Segment → Bool
  | .capture _ _ optional => optional
  | .literal _ => false

def isNameChar (c : Char) : Bool := c.isAlphanum || c = '_'

/-- The constraint between a `(` and the end of a capture, `none` when it is malformed. -/
def constraint? (text : List Char) : Option Constraint :=
  match Text.dropLast? ')' text with
  | none => none
  | some body =>
    if body = ['\\', 'd', '+'] then some .digits
    else if body.isEmpty || body.contains '(' || body.contains ')' then none
    else some (.oneOf ((Text.splitAt '|' body).map String.ofList))

/-- A capture without its `?`: the name and, after a `(`, the constraint. -/
def nameAndConstraint? (text : List Char) : Option (List Char × Constraint) :=
  match Text.cutFirst '(' text with
  | none => some (text, .any)
  | some (name, rest) => (constraint? rest).map (name, ·)

/-- Reads what follows the colon of a capture that is the segment `part` of `pattern`. -/
def parseCapture (pattern part : String) (text : List Char) : Except RouteError Segment :=
  let (head, optional) := match Text.dropLast? '?' text with
    | some head => (head, true)
    | none => (text, false)
  match nameAndConstraint? head with
  | none => .error (.invalidSegment pattern part)
  | some (name, constraint) =>
    if name.isEmpty then .error (.emptyCapture pattern)
    else if name.all isNameChar then .ok (.capture (String.ofList name) constraint optional)
    else .error (.invalidSegment pattern part)

def parse (pattern part : String) : Except RouteError Segment :=
  match part.toList with
  | ':' :: rest => parseCapture pattern part rest
  | _ => .ok (.literal part)

end Segment

/-- A path template and the text it was read from. -/
structure Pattern where
  text : String
  segments : List Segment
  deriving DecidableEq, Repr

namespace Pattern

/-- Whether `segment` may follow the segments `before` of `pattern`. -/
def extend (pattern : String) (before : List Segment) (segment : Segment) :
    Except RouteError Unit :=
  match segment with
  | .capture name _ optional =>
    if before.any (fun earlier => earlier.name? = some name) then
      .error (.duplicateCapture pattern name)
    else if !optional && before.any Segment.isOptional then
      .error (.requiredAfterOptional pattern)
    else .ok ()
  | .literal _ =>
    if before.any Segment.isOptional then .error (.requiredAfterOptional pattern) else .ok ()

/-- Reads the segments `parts`, which follow the segments `before`. -/
def parseParts (pattern : String) (before : List Segment) :
    List String → Except RouteError (List Segment)
  | [] => .ok before
  | part :: parts => do
    let segment ← Segment.parse pattern part
    extend pattern before segment
    parseParts pattern (before ++ [segment]) parts

def parse (text : String) : Except RouteError Pattern :=
  match text.toList with
  | '/' :: _ => (parseParts text [] (Text.segments text)).map (⟨text, ·⟩)
  | _ => .error (.notAbsolute text)

/-- The captures of `parts` by `segments`, if each part fits its segment and the segments left
over are optional. -/
def matchSegments : List Segment → List String → Option Groups
  | [], [] => some []
  | [], _ :: _ => none
  | segment :: segments, [] => if segment.isOptional then matchSegments segments [] else none
  | .literal text :: segments, part :: parts =>
    if text = part then matchSegments segments parts else none
  | .capture name constraint _ :: segments, part :: parts =>
    if constraint.accepts part then
      (matchSegments segments parts).map ((name, part) :: ·)
    else none

def match? (p : Pattern) (path : String) : Option Groups :=
  matchSegments p.segments (Text.segments path)

end Pattern

end MapSidebar
