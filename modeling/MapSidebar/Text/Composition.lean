import MapSidebar.Text.CombiningClass
import MapSidebar.Text.Decomposition

/-!
# Composed text

One text can be written in several ways: a letter with marks may be one character or several, and
marks of different classes may come in any order. `normalize` brings a text to the one form in which
characters are put together as far as they go.
-/
namespace MapSidebar.Composition

/-- Adds a character to a text that is kept from its end to its front: a mark goes in front of those
of greater classes. -/
def place (c : Char) : List Char → List Char
  | [] => [c]
  | d :: before =>
    if CombiningClass.of c ≠ 0 && CombiningClass.of c < CombiningClass.of d then
      d :: place c before
    else c :: d :: before

/-- A text taken apart, with the marks of each letter in the order of their classes. -/
def takeApart (text : List Char) : List Char :=
  ((text.flatMap Decomposition.decompose).foldl (fun done c => place c done) []).reverse

/-- Whether a character is next to the letter before it: no mark stands between them, or only marks
of smaller classes. The marks are kept from the last one on. -/
def touches (marks : List Char) (c : Char) : Bool :=
  match marks with
  | [] => true
  | mark :: _ => CombiningClass.of mark < CombiningClass.of c

/-- Puts together a letter, of which some marks have been passed, and what follows. -/
def putTogetherFrom (letter : Char) (marks : List Char) : List Char → List Char
  | [] => letter :: marks.reverse
  | c :: rest =>
    match if touches marks c then Decomposition.join? letter c else none with
    | some joined => putTogetherFrom joined marks rest
    | none =>
      if CombiningClass.of c = 0 then letter :: (marks.reverse ++ putTogetherFrom c [] rest)
      else putTogetherFrom letter (c :: marks) rest

def putTogether : List Char → List Char
  | [] => []
  | c :: rest =>
    if CombiningClass.of c = 0 then putTogetherFrom c [] rest else c :: putTogether rest

def normalize (text : List Char) : List Char := putTogether (takeApart text)

/-- Marks of two classes meet their letter in either order. -/
example : normalize ['e', '\u0302', '\u0323'] = ['\u1ec7'] := by decide +kernel

/-- The letters of a syllable become one character. -/
example : normalize ['\u1100', '\u1161', '\u11a8'] = ['\uac01'] := by decide +kernel

end MapSidebar.Composition
