import MapSidebar.Page
import Mathlib.Data.List.Basic

/-!
# The pages in a window

The links of a window lead to pages that exist, and to the first and the last page among them.
-/
namespace MapSidebar

variable {n current total distance last : Nat} {marked : Bool}

/-- From pages in order, links are made to those that come after the last one, each once. -/
theorem page_mem_linksAfter {pages : List Nat} (sorted : pages.Pairwise (· ≤ ·)) :
    .page n marked ∈ linksAfter current last pages ↔
      last < n ∧ n ∈ pages ∧ marked = decide (n = current) := by
  induction pages generalizing last with
  | nil => simp [linksAfter]
  | cons page pages ih =>
    obtain ⟨least, sorted⟩ := List.pairwise_cons.mp sorted
    -- What comes after `page` in the list is not before it in number.
    have after : last < page → (page < n ∧ n ∈ pages ∨ n = page ↔
        last < n ∧ n ∈ page :: pages) := by
      intro beyond
      rw [List.mem_cons]
      constructor
      · rintro (⟨less, inside⟩ | rfl)
        · exact ⟨by omega, .inr inside⟩
        · exact ⟨beyond, .inl rfl⟩
      · rintro ⟨-, rfl | inside⟩
        · exact .inr rfl
        · rcases Nat.lt_or_eq_of_le (least n inside) with less | rfl
          · exact .inl ⟨less, inside⟩
          · exact .inr rfl
    have link : .page n marked ∈ PageLink.page page (decide (page = current)) ::
        linksAfter current page pages ↔
          (page < n ∧ n ∈ pages ∨ n = page) ∧ marked = decide (n = current) := by
      rw [List.mem_cons, ih sorted, PageLink.page.injEq]
      constructor
      · rintro (⟨rfl, rfl⟩ | ⟨less, inside, rfl⟩)
        · exact ⟨.inr rfl, rfl⟩
        · exact ⟨.inl ⟨less, inside⟩, rfl⟩
      · rintro ⟨⟨less, inside⟩ | rfl, rfl⟩
        · exact .inr ⟨less, inside, rfl⟩
        · exact .inl ⟨rfl, rfl⟩
    unfold linksAfter
    split
    next covered =>
      rw [ih sorted, List.mem_cons]
      constructor
      · rintro ⟨beyond, inside, same⟩
        exact ⟨beyond, .inr inside, same⟩
      · rintro ⟨beyond, rfl | inside, same⟩
        · omega
        · exact ⟨beyond, inside, same⟩
    next beyond =>
      rw [← and_assoc, ← after (by omega)]
      split
      · rw [List.mem_cons, link]
        simp
      · exact link

theorem mem_nearbyPages : n ∈ nearbyPages current total distance ↔
    1 ≤ n ∧ n ≤ total ∧ current ≤ n + distance ∧ n ≤ current + distance := by
  rw [nearbyPages, List.mem_range'_1]
  omega

/-- A window links the first page, the last page and all within the distance of the current one, which
alone is marked. -/
theorem page_mem_pageWindow : .page n marked ∈ pageWindow current total distance ↔
    1 ≤ n ∧ n ≤ total ∧
      (n = 1 ∨ n = total ∨ current ≤ n + distance ∧ n ≤ current + distance) ∧
      marked = decide (n = current) := by
  unfold pageWindow
  split
  next empty =>
    simp only [List.not_mem_nil, false_iff]
    omega
  next some_pages =>
    have sorted : (1 :: (nearbyPages current total distance ++ [total])).Pairwise (· ≤ ·) := by
      rw [List.pairwise_cons, List.pairwise_append]
      refine ⟨fun m inside => ?_, List.pairwise_le_range', List.pairwise_singleton _ _, ?_⟩
      · rcases List.mem_append.mp inside with near | last
        · exact (mem_nearbyPages.mp near).1
        · rw [List.mem_singleton] at last
          omega
      · rintro m near last at_end
        rw [List.mem_singleton.mp at_end]
        exact (mem_nearbyPages.mp near).2.1
    rw [page_mem_linksAfter sorted, List.mem_cons, List.mem_append, List.mem_singleton,
      mem_nearbyPages]
    by_cases same : marked = decide (n = current)
    · simp only [same, and_true]
      omega
    · simp only [same, and_false]

end MapSidebar
