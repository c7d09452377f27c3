/-!
# Cutting text

`splitAt` cuts a text, of characters or bytes, at every occurrence of a separator, so it always gives
at least one piece; `cutFirst` cuts once, at the first occurrence. Both drop the separator itself.
`trim` cuts off the blanks at both ends.
-/
namespace MapSidebar.Text

variable {α : Type} [DecidableEq α]

/-- The pieces between the occurrences of `sep`; a text without `sep` is its own only piece. -/
def splitAt (sep : α) : List α → List (List α)
  | [] => [[]]
  | c :: rest =>
    if c = sep then [] :: splitAt sep rest
    else match splitAt sep rest with
      | [] => [[c]]
      | piece :: pieces => (c :: piece) :: pieces

/-- What stands before and after the first `sep`, if there is one. -/
def cutFirst (sep : α) : List α → Option (List α × List α)
  | [] => none
  | c :: rest =>
    if c = sep then some ([], rest)
    else (cutFirst sep rest).map fun (before, after) => (c :: before, after)

/-- The text without its last character, when that character is `c`. -/
def dropLast? (c : α) (text : List α) : Option (List α) :=
  if text.getLast? = some c then some text.dropLast else none

/-- The non-empty pieces of a path between slashes. -/
def segments (path : String) : List String :=
  ((splitAt '/' path.toList).filter (fun piece => !piece.isEmpty)).map String.ofList

theorem splitAt_ne_nil (sep : α) (text : List α) : splitAt sep text ≠ [] := by
  cases text with
  | nil => simp [splitAt]
  | cons c rest =>
    by_cases same : c = sep
    · simp [splitAt, same]
    · simp only [splitAt, same, if_false]
      split <;> simp

/-- No piece holds the separator. -/
theorem not_mem_of_mem_splitAt (sep : α) (text piece : List α)
    (member : piece ∈ splitAt sep text) : sep ∉ piece := by
  induction text generalizing piece with
  | nil => simp_all [splitAt]
  | cons c rest ih =>
    by_cases same : c = sep
    · simp only [splitAt, same, if_true, List.mem_cons] at member
      rcases member with rfl | member
      · simp
      · exact ih piece member
    · simp only [splitAt, same, if_false] at member
      split at member
      · rw [List.mem_singleton] at member
        subst member
        simpa using fun equal : sep = c => same equal.symm
      · rename_i head tail cut
        rw [List.mem_cons] at member
        rcases member with rfl | member
        · have absent := ih head (by simp [cut])
          simpa [absent] using fun equal : sep = c => same equal.symm
        · exact ih piece (by simp [cut, member])

/-- A cut loses only the separator, and the first part does not hold it. -/
theorem cutFirst_eq_some (sep : α) (text before after : List α)
    (cut : cutFirst sep text = some (before, after)) :
    text = before ++ sep :: after ∧ sep ∉ before := by
  induction text generalizing before with
  | nil => simp [cutFirst] at cut
  | cons c rest ih =>
    by_cases same : c = sep
    · simp_all [cutFirst]
    · simp only [cutFirst, same, if_false, Option.map_eq_some_iff, Prod.exists] at cut
      obtain ⟨head, tail, cutRest, pair⟩ := cut
      simp only [Prod.mk.injEq] at pair
      obtain ⟨rfl, rfl⟩ := pair
      obtain ⟨join, absent⟩ := ih head cutRest
      exact ⟨by simp [join], by simpa [absent] using fun equal : sep = c => same equal.symm⟩

/-- There is no cut exactly in a text without the separator. -/
theorem cutFirst_eq_none (sep : α) (text : List α) :
    cutFirst sep text = none ↔ sep ∉ text := by
  induction text with
  | nil => simp [cutFirst]
  | cons c rest ih =>
    by_cases same : c = sep
    · simp [cutFirst, same]
    · have differs : sep ≠ c := fun equal => same equal.symm
      simp [cutFirst, same, ih, differs]

/-! ## Blanks -/

/-- White space. -/
def isBlank (c : Char) : Bool :=
  (0x09 ≤ c.toNat && c.toNat ≤ 0x0D) || c.toNat = 0x20 || c.toNat = 0x85 || c.toNat = 0xA0
    || c.toNat = 0x1680 || (0x2000 ≤ c.toNat && c.toNat ≤ 0x200A) || c.toNat = 0x2028
    || c.toNat = 0x2029 || c.toNat = 0x202F || c.toNat = 0x205F || c.toNat = 0x3000

/-- Without the characters of a class at the end. -/
def dropEnd (p : Char → Bool) (text : List Char) : List Char := (text.reverse.dropWhile p).reverse

/-- Without blanks at both ends. -/
def trim (text : List Char) : List Char := dropEnd isBlank (text.dropWhile isBlank)

end MapSidebar.Text
