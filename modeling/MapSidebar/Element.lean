import MapSidebar.Number.Unsigned

/-!
# What a map is made of

Elements, changesets and notes are named by numbers below 2^64, and an element also by its kind.
`read` accepts any spelling of a number (leading zeros, a sign) and `text` writes the canonical
one, so `read` followed by `text` brings an id to canonical form.
-/
namespace MapSidebar

inductive ElementType where
  | node | way | relation
  deriving DecidableEq, Repr

namespace ElementType

def all : List ElementType := [node, way, relation]

def text : ElementType → String
  | node => "node"
  | way => "way"
  | relation => "relation"

def read? (word : String) : Option ElementType := all.find? (fun kind => kind.text = word)

/-- The wording of the refusal of a word that names no kind. -/
def unknownMessage (word : String) : String := "unknown element type: " ++ word

@[simp] theorem read?_text (kind : ElementType) : read? kind.text = some kind := by
  cases kind <;> decide

end ElementType

structure ElementId where
  value : UInt64
  deriving DecidableEq, Repr

structure ChangesetId where
  value : UInt64
  deriving DecidableEq, Repr

structure NoteId where
  value : UInt64
  deriving DecidableEq, Repr

/-- The canonical text of a number: no sign and no leading zero. -/
def canonicalText (value : UInt64) : String := toString value.toNat

namespace ElementId

def read (text : String) : Except NumberError ElementId := (readUInt64 text).map ElementId.mk

def text (id : ElementId) : String := canonicalText id.value

end ElementId

namespace ChangesetId

def read (text : String) : Except NumberError ChangesetId := (readUInt64 text).map ChangesetId.mk

def text (id : ChangesetId) : String := canonicalText id.value

end ChangesetId

namespace NoteId

def read (text : String) : Except NumberError NoteId := (readUInt64 text).map NoteId.mk

def text (id : NoteId) : String := canonicalText id.value

end NoteId

end MapSidebar
