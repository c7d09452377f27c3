import MapSidebar.Screen
import Mathlib.Data.List.Infix

/-!
# Escaping is faithful and safe

A text that has been escaped is found again by one pass that puts the characters back for their
entities, whatever the text looks like; and it is safe in markup: no tag and no quoted value begins or
ends in it, and every `&` in it begins an entity. So the box around a message is one pair of tags with
nothing but the message in it.
-/
namespace MapSidebar.Markup

/-- The entities of the five characters that markup gives a meaning. -/
def entities : List (List Char) :=
  ["&amp;".toList, "&lt;".toList, "&gt;".toList, "&quot;".toList, "&#39;".toList]

/-- The text with the characters put back for their entities, in one pass from the left. -/
def unescapeChars : List Char → List Char
  | '&' :: 'a' :: 'm' :: 'p' :: ';' :: rest => '&' :: unescapeChars rest
  | '&' :: 'l' :: 't' :: ';' :: rest => '<' :: unescapeChars rest
  | '&' :: 'g' :: 't' :: ';' :: rest => '>' :: unescapeChars rest
  | '&' :: 'q' :: 'u' :: 'o' :: 't' :: ';' :: rest => '"' :: unescapeChars rest
  | '&' :: '#' :: '3' :: '9' :: ';' :: rest => '\'' :: unescapeChars rest
  | c :: rest => c :: unescapeChars rest
  | [] => []

/-- The text with the characters put back for their entities, in one pass from the left. -/
def unescape (text : String) : String := String.ofList (unescapeChars text.toList)

/-- The tags in markup, each from a `<` to the next `>`; `opened` is what has been read of one. -/
def tagsFrom : Option (List Char) → List Char → List (List Char)
  | none, [] => []
  | some opened, [] => [opened]
  | none, c :: rest => if c = '<' then tagsFrom (some [c]) rest else tagsFrom none rest
  | some opened, c :: rest =>
    if c = '>' then (opened ++ [c]) :: tagsFrom none rest else tagsFrom (some (opened ++ [c])) rest

def tags (markup : String) : List String := (tagsFrom none markup.toList).map String.ofList

/-- Markup that is nothing but text. -/
structure IsText (markup : List Char) : Prop where
  no_tag : '<' ∉ markup ∧ '>' ∉ markup
  no_quote : '"' ∉ markup ∧ '\'' ∉ markup
  /-- Every `&` begins an entity. -/
  begins : ∀ before rest, markup = before ++ '&' :: rest →
    ∃ entity ∈ entities, entity <+: '&' :: rest

/-! ## One pass back -/

theorem unescapeChars_cons {c : Char} (plain : c ≠ '&') (rest : List Char) :
    unescapeChars (c :: rest) = c :: unescapeChars rest := by
  rw [unescapeChars]
  all_goals simp [plain]

/-- What has been written for a character is taken for that character, whatever follows. -/
theorem unescapeChars_entity (c : Char) (rest : List Char) :
    unescapeChars (entity c ++ rest) = c :: unescapeChars rest := by
  fun_cases entity c with
  | case1 | case2 | case3 | case4 | case5 => rfl
  | case6 _ plain => exact unescapeChars_cons plain rest

theorem unescapeChars_escapeChars (text : List Char) : unescapeChars (escapeChars text) = text := by
  induction text with
  | nil => rfl
  | cons c rest ih => rw [escapeChars_cons, unescapeChars_entity, ih]

theorem unescape_escape (text : String) : unescape (escape text) = text := by
  rw [unescape, toList_escape, unescapeChars_escapeChars, String.ofList_toList]

theorem escape_append (a b : String) : escape (a ++ b) = escape a ++ escape b := by
  rw [← String.toList_inj]
  simp

/-! ## Nothing but text -/

namespace IsText

variable {a b : List Char}

theorem nil : IsText [] := ⟨by simp, by simp, by simp⟩

theorem append (first : IsText a) (last : IsText b) : IsText (a ++ b) := by
  refine ⟨?_, ?_, fun before rest cut => ?_⟩
  · simp [first.no_tag, last.no_tag]
  · simp [first.no_quote, last.no_quote]
  · rcases List.append_eq_append_iff.mp cut with ⟨middle, -, inside⟩ | ⟨middle, inside, joined⟩
    · exact last.begins middle rest inside
    · cases middle with
      | nil => exact last.begins [] rest joined.symm
      | cons c middle =>
        -- The entity ends within the first text.
        obtain ⟨rfl, rfl⟩ := List.cons.inj joined
        obtain ⟨entity, known, ahead⟩ := first.begins before middle inside
        exact ⟨entity, known, ahead.trans (List.prefix_append ('&' :: middle) b)⟩

end IsText

theorem isText_of_mem_entities {written : List Char} (known : written ∈ entities) :
    IsText written := by
  have shape : ∀ e ∈ entities, e.head? = some '&' ∧ '&' ∉ e.tail ∧ '<' ∉ e ∧ '>' ∉ e ∧ '"' ∉ e ∧
      '\'' ∉ e := by decide
  obtain ⟨head, once, lt, gt, quote, apostrophe⟩ := shape written known
  refine ⟨⟨lt, gt⟩, ⟨quote, apostrophe⟩, fun before rest cut => ?_⟩
  cases before with
  | nil => exact ⟨written, known, by rw [cut]; exact List.prefix_rfl⟩
  | cons c before => exact absurd (by simp [cut]) once

/-- What is written for a character is text. -/
theorem isText_entity (c : Char) : IsText (entity c) := by
  fun_cases entity c with
  | case1 | case2 | case3 | case4 | case5 => exact isText_of_mem_entities (by decide)
  | case6 _ ampersand lt gt quote apostrophe =>
    refine ⟨?_, ?_, fun before rest cut => ?_⟩
    · simp [Ne.symm lt, Ne.symm gt]
    · simp [Ne.symm quote, Ne.symm apostrophe]
    · cases before with
      | nil => exact absurd (List.cons.inj cut).1 ampersand
      | cons d before => simp at cut

theorem isText_escapeChars (text : List Char) : IsText (escapeChars text) := by
  induction text with
  | nil => exact .nil
  | cons c rest ih => exact (isText_entity c).append ih

theorem isText_escape (text : String) : IsText (escape text).toList := by
  rw [toList_escape]
  exact isText_escapeChars text.toList

/-! ## One pair of tags -/

def boxStart : String := "<div class=\"alert alert-danger\" role=\"alert\">"

def boxEnd : String := "</div>"

/-- Markup is a box around a message: one pair of tags and the text between them. -/
structure IsBox (markup message : String) : Prop where
  tags : tags markup = [boxStart, boxEnd]
  inner : ∃ inner, markup = boxStart ++ inner ++ boxEnd ∧ IsText inner.toList ∧
    unescape inner = message

/-- There is no tag in text. -/
theorem tagsFrom_append {text : List Char} (absent : '<' ∉ text) (rest : List Char) :
    tagsFrom none (text ++ rest) = tagsFrom none rest := by
  induction text with
  | nil => rfl
  | cons c text ih =>
    simp only [List.mem_cons, not_or] at absent
    rw [List.cons_append, tagsFrom, if_neg (Ne.symm absent.1), ih absent.2]

/-- A box around text holds no tags but its own. -/
theorem tags_box {inner : String} (text : IsText inner.toList) :
    tags (boxStart ++ inner ++ boxEnd) = [boxStart, boxEnd] := by
  have start : ∀ rest, tagsFrom none (boxStart.toList ++ rest) =
      boxStart.toList :: tagsFrom none rest := fun rest => rfl
  have whole : tagsFrom none (boxStart ++ inner ++ boxEnd).toList =
      [boxStart.toList, boxEnd.toList] := by
    rw [String.toList_append, String.toList_append, List.append_assoc, start,
      tagsFrom_append text.no_tag.1]
    rfl
  rw [tags, whole]
  simp

theorem isBox_errorFragment (message : String) : IsBox (errorFragment message) message :=
  ⟨tags_box (isText_escape message), escape message, rfl, isText_escape message,
    unescape_escape message⟩

/-- A box is around one message. -/
theorem IsBox.message_eq {markup message other : String} (box : IsBox markup message)
    (also : IsBox markup other) : message = other := by
  obtain ⟨inner, rfl, -, rfl⟩ := box.inner
  obtain ⟨inner', same, -, rfl⟩ := also.inner
  have inside : inner.toList = inner'.toList := by
    simpa [← String.toList_inj] using same
  rw [String.toList_inj.mp inside]

theorem errorFragment_injective : Function.Injective errorFragment := by
  intro message other same
  exact (isBox_errorFragment message).message_eq (same ▸ isBox_errorFragment other)

example : unescape (escape "&amp;lt;'") = "&amp;lt;'" ∧ unescape "&amp;lt;" = "&lt;" := by
  decide +kernel

end MapSidebar.Markup
