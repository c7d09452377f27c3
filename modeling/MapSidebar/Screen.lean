import MapSidebar.Feedback
import MapSidebar.Geometry
import MapSidebar.Page

/-!
# What is on the screen

The sidebar, the highlighted geometry, list containers with their page controls, and the messages
and the submit control of a form. All of them change only by writes. What is written is markup:
`escape` writes the five characters that it gives a meaning as entities, one pass over a text, and
`errorFragment` is the box shown in place of content that could not be had.
-/
namespace MapSidebar

namespace Markup

def entity : Char → List Char
  | '&' => "&amp;".toList
  | '<' => "&lt;".toList
  | '>' => "&gt;".toList
  | '"' => "&quot;".toList
  | '\'' => "&#39;".toList
  | c => [c]

/-- Text as markup that shows it. -/
def escapeChars (text : List Char) : List Char := text.flatMap entity

def escape (text : String) : String := String.ofList (escapeChars text.toList)

/-- A non-fatal error shown in place of content. -/
def errorFragment (message : String) : String :=
  "<div class=\"alert alert-danger\" role=\"alert\">" ++ escape message ++ "</div>"

@[simp] theorem escapeChars_nil : escapeChars [] = [] := rfl

@[simp] theorem escapeChars_cons (c : Char) (rest : List Char) :
    escapeChars (c :: rest) = entity c ++ escapeChars rest := rfl

@[simp] theorem escapeChars_append (a b : List Char) :
    escapeChars (a ++ b) = escapeChars a ++ escapeChars b := by
  simp [escapeChars]

@[simp] theorem toList_escape (text : String) : (escape text).toList = escapeChars text.toList :=
  String.toList_ofList

end Markup

inductive Write where
  | replace (markup : String)
  | append (markup : String)
  | clear
  deriving DecidableEq, Repr

def Write.apply (w : Write) (markup : String) : String :=
  match w with
  | .replace new => new
  | .append more => markup ++ more
  | .clear => ""

/-- A list and the controls for moving through it. -/
structure Container where
  items : String := ""
  controls : Option PageControls := none
  deriving DecidableEq, Repr

inductive ContainerWrite where
  | items (w : Write)
  /-- Shows controls, or takes them away. -/
  | controls (shown : Option PageControls)
  deriving DecidableEq, Repr

def ContainerWrite.apply (w : ContainerWrite) (c : Container) : Container :=
  match w with
  | .items w => { c with items := w.apply c.items }
  | .controls shown => { c with controls := shown }

/-- The messages and the submit control of a form. -/
structure FormPanel where
  messages : List FormMessage := []
  submitEnabled : Bool := true
  deriving DecidableEq, Repr

inductive PanelWrite where
  | add (message : FormMessage)
  | clearMessages
  | enable (enabled : Bool)
  deriving DecidableEq, Repr

def PanelWrite.apply (w : PanelWrite) (p : FormPanel) : FormPanel :=
  match w with
  | .add message => { p with messages := p.messages ++ [message] }
  | .clearMessages => { p with messages := [] }
  | .enable enabled => { p with submitEnabled := enabled }

/-- The sidebar, the highlighted geometry and the list containers. -/
structure Screen where
  sidebar : String := ""
  focus : Option RenderData := none
  containers : List Container := []
  deriving Repr

inductive ScreenWrite where
  | sidebar (w : Write)
  /-- Highlights geometry, or nothing. -/
  | focus (data : Option RenderData)
  | container (index : Nat) (w : ContainerWrite)
  deriving Repr

def ScreenWrite.apply (w : ScreenWrite) (s : Screen) : Screen :=
  match w with
  | .sidebar w => { s with sidebar := w.apply s.sidebar }
  | .focus data => { s with focus := data }
  | .container index w => { s with containers := s.containers.modify index w.apply }

/-- The container at an index; one that does not exist is empty. -/
def Screen.container (s : Screen) (index : Nat) : Container := s.containers.getD index {}

end MapSidebar
