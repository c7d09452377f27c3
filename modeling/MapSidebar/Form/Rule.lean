import MapSidebar.Feedback

/-!
# Fields, and validation by rules

The fields of a form stand in the order in which they were first set; setting one again changes its
value in its place. A form can be validated by a list of rules before it is sent. A rule applies on a
condition on one field, or always; it gives a message, or makes the validation itself fail.
-/
namespace MapSidebar

/-- The fields of a form, in order, by name and value. -/
abbrev FormFields := List (String × String)

namespace FormFields

def get? (fields : FormFields) (name : String) : Option String := List.lookup name fields

/-- Sets a field, which is added if it is not there. -/
def set (fields : FormFields) (name value : String) : FormFields :=
  match fields with
  | [] => [(name, value)]
  | (key, old) :: rest =>
    if key = name then (name, value) :: rest else (key, old) :: set rest name value

end FormFields

/-- When a rule applies. -/
inductive FormCondition where
  | always
  /-- The field is missing or empty. -/
  | ifEmpty (field : String)
  /-- The field has this value. -/
  | ifEqual (field value : String)
  deriving DecidableEq, Repr

/-- What a rule does when it applies. -/
inductive FormVerdict where
  | message (message : FormMessage)
  /-- The validation fails. -/
  | raise (reason : String)
  deriving DecidableEq, Repr

/-- A rule; it applies when any of its conditions holds. -/
structure FormRule where
  conditions : List FormCondition
  verdict : FormVerdict
  deriving DecidableEq, Repr

def FormCondition.holds (fields : FormFields) : FormCondition → Bool
  | .always => true
  | .ifEmpty field => (fields.get? field).all (· = "")
  | .ifEqual field value => fields.get? field = some value

def FormRule.applies (fields : FormFields) (rule : FormRule) : Bool :=
  rule.conditions.any (FormCondition.holds fields)

/-- The messages of the rules that apply, in order, or the reason of the first that fails. -/
def FormRule.validate (rules : List FormRule) (fields : FormFields) :
    Except String (List FormMessage) :=
  (rules.filter (applies fields)).mapM fun rule =>
    match rule.verdict with
    | .message message => .ok message
    | .raise reason => .error reason

end MapSidebar
