import MapSidebar.Text.Split
import Mathlib.Data.List.DropRight

/-!
# What is left when ends are taken away

What a text is without the characters of a class at its ends is told by a decomposition: the text is
that, with characters of the class on both sides, and it neither begins nor ends with one of them.
-/
namespace MapSidebar.Text

variable {p : Char → Bool} {text middle left right : List Char}

/-- A text neither begins nor ends with a character of a class. -/
structure Stripped (p : Char → Bool) (text : List Char) : Prop where
  first : ∀ c, text.head? = some c → p c = false
  last : ∀ c, text.getLast? = some c → p c = false

theorem stripped_iff : Stripped p text ↔ (∀ c, text.head? = some c → p c = false) ∧
    ∀ c, text.getLast? = some c → p c = false :=
  ⟨fun stripped => ⟨stripped.first, stripped.last⟩, fun ⟨first, last⟩ => ⟨first, last⟩⟩

theorem Stripped.reverse (stripped : Stripped p text) : Stripped p text.reverse where
  first c begins := stripped.last c (by rwa [List.head?_reverse] at begins)
  last c ends := stripped.first c (by rwa [List.getLast?_reverse] at ends)

/-! ## One end -/

theorem dropEnd_append (all : ∀ c ∈ right, p c = true) (text : List Char) :
    dropEnd p (text ++ right) = dropEnd p text := by
  rw [dropEnd, List.reverse_append, List.dropWhile_append_of_pos (by simpa using all)]
  rfl

/-- A text that does not end with the class stays as it is. -/
theorem dropEnd_of_last (last : ∀ c, text.getLast? = some c → p c = false) :
    dropEnd p text = text :=
  List.rdropWhile_eq_self_iff.mpr fun filled => by
    simp [last _ (List.getLast?_eq_some_getLast filled)]

theorem last_dropEnd (p : Char → Bool) (text : List Char) :
    ∀ c, (dropEnd p text).getLast? = some c → p c = false := by
  intro c ends
  have outside := List.head?_dropWhile_not p text.reverse
  rw [dropEnd, List.getLast?_reverse] at ends
  rw [ends] at outside
  simpa using outside

/-- Only characters of the class are taken away. -/
theorem dropEnd_append_rest (p : Char → Bool) (text : List Char) : ∃ right,
    text = dropEnd p text ++ right ∧ ∀ c ∈ right, p c = true :=
  ⟨text.rtakeWhile p, List.rdropWhile_append_rtakeWhile.symm,
    fun _ member => List.mem_rtakeWhile_imp member⟩

theorem dropEnd_append_of_ne {after : List Char} (left_over : dropEnd p after ≠ [])
    (before : List Char) : dropEnd p (before ++ after) = before ++ dropEnd p after := by
  have outside : (after.reverse.dropWhile p).isEmpty = false := by
    simpa [dropEnd] using left_over
  rw [dropEnd, List.reverse_append, List.dropWhile_append, outside]
  simp [dropEnd]

theorem dropEnd_cons_of_neg {c : Char} (outside : ¬ p c = true) (text : List Char) :
    dropEnd p (c :: text) = c :: dropEnd p text := by
  rw [dropEnd, dropEnd, List.reverse_cons, List.dropWhile_append]
  split
  next nothing => simp_all
  next => simp

/-! ## Both ends -/

/-- What a text is without a class at its ends. -/
theorem strip_eq_iff : dropEnd p (text.dropWhile p) = middle ↔ ∃ left right,
    text = left ++ middle ++ right ∧ (∀ c ∈ left ++ right, p c = true) ∧ Stripped p middle := by
  constructor
  · rintro rfl
    obtain ⟨right, whole, all_right⟩ := dropEnd_append_rest p (text.dropWhile p)
    refine ⟨text.takeWhile p, right, ?_, ?_, ?_, last_dropEnd p _⟩
    · rw [List.append_assoc, ← whole, List.takeWhile_append_dropWhile]
    · intro c member
      rcases List.mem_append.mp member with before | after
      · exact List.mem_takeWhile_imp before
      · exact all_right c after
    · intro c begins
      have first : (text.dropWhile p).head? = some c := by
        rw [whole, List.head?_append, begins]
        rfl
      have outside := List.head?_dropWhile_not p text
      rw [first] at outside
      simpa using outside
  · rintro ⟨left, right, rfl, all, stripped⟩
    have all_left : ∀ c ∈ left, p c = true := fun c member => all c (List.mem_append_left _ member)
    have all_right : ∀ c ∈ right, p c = true :=
      fun c member => all c (List.mem_append_right _ member)
    rw [List.append_assoc, List.dropWhile_append_of_pos all_left]
    cases middle with
    | nil =>
      rw [List.nil_append, List.dropWhile_eq_nil_iff.mpr all_right]
      rfl
    | cons c middle =>
      rw [List.cons_append, List.dropWhile_cons_of_neg (by simp [stripped.first c rfl]),
        ← List.cons_append, dropEnd_append all_right, dropEnd_of_last stripped.last]

theorem stripped_strip (p : Char → Bool) (text : List Char) :
    Stripped p (dropEnd p (text.dropWhile p)) := by
  obtain ⟨-, -, -, -, stripped⟩ := strip_eq_iff.mp (Eq.refl (dropEnd p (text.dropWhile p)))
  exact stripped

theorem strip_of_stripped (stripped : Stripped p text) : dropEnd p (text.dropWhile p) = text :=
  strip_eq_iff.mpr ⟨[], [], by simp, by simp, stripped⟩

/-- Both ends are treated alike. -/
theorem strip_reverse (p : Char → Bool) (text : List Char) :
    dropEnd p (text.reverse.dropWhile p) = (dropEnd p (text.dropWhile p)).reverse := by
  obtain ⟨left, right, whole, all, stripped⟩ :=
    strip_eq_iff.mp (Eq.refl (dropEnd p (text.dropWhile p)))
  refine strip_eq_iff.mpr ⟨right.reverse, left.reverse, ?_, ?_, stripped.reverse⟩
  · rw [congrArg List.reverse whole, List.reverse_append, List.reverse_append, List.append_assoc]
  · simpa [or_comm] using all

/-- What is taken away at the front does not matter at the end. -/
theorem getLast?_strip (p : Char → Bool) (text : List Char) :
    (dropEnd p (text.dropWhile p)).getLast? = (dropEnd p text).getLast? := by
  have whole : text.takeWhile p ++ text.dropWhile p = text := List.takeWhile_append_dropWhile
  by_cases nothing : dropEnd p (text.dropWhile p) = []
  · obtain ⟨right, rest, all⟩ := dropEnd_append_rest p (text.dropWhile p)
    rw [nothing] at rest
    have all_text : ∀ c ∈ text, p c = true := by
      intro c member
      rw [← whole, rest] at member
      rcases List.mem_append.mp member with before | after
      · exact List.mem_takeWhile_imp before
      · exact all c after
    rw [nothing, ← List.nil_append text, dropEnd_append all_text]
    rfl
  · have split := dropEnd_append_of_ne nothing (text.takeWhile p)
    rw [whole] at split
    rw [split, List.getLast?_append_of_ne_nil _ nothing]

/-- What a text is without blanks at its ends. -/
theorem trim_eq_iff : trim text = middle ↔ ∃ left right, text = left ++ middle ++ right ∧
    (∀ c ∈ left ++ right, isBlank c = true) ∧ Stripped isBlank middle :=
  strip_eq_iff

theorem trim_of_stripped (stripped : Stripped isBlank text) : trim text = text :=
  strip_of_stripped stripped

theorem stripped_trim (text : List Char) : Stripped isBlank (trim text) :=
  stripped_strip isBlank text

theorem trim_reverse (text : List Char) : trim text.reverse = (trim text).reverse :=
  strip_reverse isBlank text

end MapSidebar.Text
