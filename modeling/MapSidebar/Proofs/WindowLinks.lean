import MapSidebar.Proofs.PageArithmetic
import MapSidebar.Proofs.Window
import Mathlib.Data.List.Sort

/-!
# What a window shows

A window shows the first page, the last page and the pages near the current one, in order and each
once. Where pages are left out between two neighbours stands one ellipsis, and nowhere else does one
stand. These rules leave no choice, so that they say all there is to say about a window.
-/
namespace MapSidebar

/-- The page that a link leads to; an ellipsis leads nowhere. -/
def PageLink.number? : PageLink → Option Nat
  | .page number _ => some number
  | .ellipsis => none

/-- The pages that links lead to, in order. -/
def linkedPages (links : List PageLink) : List Nat := links.filterMap PageLink.number?

@[simp] theorem linkedPages_nil : linkedPages [] = [] := rfl

@[simp] theorem linkedPages_page (n : Nat) (mark : Bool) (links : List PageLink) :
    linkedPages (.page n mark :: links) = n :: linkedPages links := rfl

@[simp] theorem linkedPages_ellipsis (links : List PageLink) :
    linkedPages (.ellipsis :: links) = linkedPages links := rfl

theorem mem_linkedPages {n : Nat} {links : List PageLink} :
    n ∈ linkedPages links ↔ ∃ mark, .page n mark ∈ links := by
  rw [linkedPages, List.mem_filterMap]
  constructor
  · rintro ⟨link, member, number⟩
    cases link with
    | page m mark =>
      cases Option.some.inj number
      exact ⟨mark, member⟩
    | ellipsis => cases number
  · rintro ⟨mark, member⟩
    exact ⟨_, member, rfl⟩

/-- What keeps the rules for the links shown on page `current` of `total`. -/
structure IsWindow (current total distance : Nat) (links : List PageLink) : Prop where
  empty : links = [] ↔ total = 0
  increasing : (linkedPages links).Pairwise (· < ·)
  pages : ∀ n, n ∈ linkedPages links ↔
    1 ≤ n ∧ n ≤ total ∧ (n = 1 ∨ n = total ∨ ((n : Int) - current).natAbs ≤ distance)
  marked : ∀ n mark, .page n mark ∈ links → (mark = true ↔ n = current)
  /-- Between two neighbours stands one ellipsis if they differ by more than one, else nothing. -/
  between : ∀ before gap after m n mark mark',
    links = before ++ .page m mark :: (gap ++ .page n mark' :: after) → linkedPages gap = [] →
    gap = if m + 1 < n then [.ellipsis] else []
  /-- An ellipsis has a page on either side. -/
  inside : ∀ before after, links = before ++ .ellipsis :: after →
    ∃ earlier m mark n mark' later,
      before = earlier ++ [.page m mark] ∧ after = .page n mark' :: later
  few : links.count .ellipsis ≤ 2

/-! ## Trails -/

/-- Links go on from page `last`: the next one leads to the page after it, or to a later one after an
ellipsis. -/
inductive Trail (current : Nat) : Nat → List PageLink → Prop
  | nil (last : Nat) : Trail current last []
  | next {last : Nat} {links : List PageLink} (rest : Trail current (last + 1) links) :
    Trail current last (.page (last + 1) (decide (last + 1 = current)) :: links)
  | gap {last n : Nat} {links : List PageLink} (left_out : last + 1 < n)
    (rest : Trail current n links) :
    Trail current last (.ellipsis :: .page n (decide (n = current)) :: links)

theorem trail_linksAfter (current last : Nat) (pages : List Nat) :
    Trail current last (linksAfter current last pages) := by
  induction pages generalizing last with
  | nil => exact .nil last
  | cons page pages ih =>
    unfold linksAfter
    split
    next => exact ih last
    next beyond =>
      split
      next left_out => exact .gap left_out (ih page)
      next adjacent =>
        have following : page = last + 1 := by omega
        subst following
        exact .next (ih (last + 1))

namespace Trail

variable {current last m n : Nat} {mark : Bool} {links before gap after : List PageLink}

theorem increasing (trail : Trail current last links) :
    (last :: linkedPages links).Pairwise (· < ·) := by
  rw [← List.isChain_iff_pairwise]
  induction trail with
  | nil last => exact .singleton last
  | next rest ih => exact List.isChain_cons_cons.mpr ⟨Nat.lt_succ_self _, ih⟩
  | gap left_out rest ih => exact List.isChain_cons_cons.mpr ⟨Nat.lt_of_succ_lt left_out, ih⟩

/-- After any of its pages, a trail goes on from there. -/
theorem after_page (trail : Trail current last links)
    (cut : links = before ++ .page n mark :: after) : Trail current n after := by
  induction trail generalizing before with
  | nil last => simp at cut
  | next rest ih =>
    cases before with
    | nil =>
      cases cut
      exact rest
    | cons link before => exact ih (List.cons.inj cut).2
  | gap left_out rest ih =>
    cases before with
    | nil => cases cut
    | cons link before =>
      cases before with
      | nil =>
        cases cut
        exact rest
      | cons link before => exact ih (List.cons.inj (List.cons.inj cut).2).2

/-- What stands before the next page of a trail. -/
theorem gap_eq (trail : Trail current last (gap ++ .page n mark :: after))
    (no_page : linkedPages gap = []) : gap = if last + 1 < n then [.ellipsis] else [] := by
  cases gap with
  | nil =>
    rw [List.nil_append] at trail
    cases trail with
    | next rest => rw [if_neg (Nat.lt_irrefl _)]
  | cons link gap =>
    cases link with
    | page m mark => simp at no_page
    | ellipsis =>
      cases gap with
      | nil =>
        cases trail with
        | gap left_out rest => rw [if_pos left_out]
      | cons link gap =>
        cases trail with
        | gap left_out rest => simp at no_page

/-- An ellipsis stands right before a page, and right after one or at the beginning. -/
theorem beside_ellipsis (trail : Trail current last links)
    (cut : links = before ++ .ellipsis :: after) :
    (before = [] ∨ ∃ earlier m mark, before = earlier ++ [.page m mark]) ∧
      ∃ n mark later, after = .page n mark :: later := by
  have behind : ∀ {m : Nat} {mark : Bool} {before : List PageLink},
      (before = [] ∨ ∃ earlier m mark, before = earlier ++ [.page m mark]) →
      ∃ earlier m' mark', .page m mark :: before = earlier ++ [.page m' mark'] := by
    rintro m mark before (rfl | ⟨earlier, n, mark', rfl⟩)
    · exact ⟨[], m, mark, rfl⟩
    · exact ⟨.page m mark :: earlier, n, mark', rfl⟩
  induction trail generalizing before with
  | nil last => simp at cut
  | next rest ih =>
    cases before with
    | nil => cases cut
    | cons link before =>
      simp only [List.cons_append, List.cons.injEq] at cut
      obtain ⟨rfl, cut⟩ := cut
      obtain ⟨left, right⟩ := ih cut
      exact ⟨.inr (behind left), right⟩
  | gap left_out rest ih =>
    cases before with
    | nil =>
      cases cut
      exact ⟨.inl rfl, _, _, _, rfl⟩
    | cons link before =>
      cases before with
      | nil => cases cut
      | cons next before =>
        simp only [List.cons_append, List.cons.injEq] at cut
        obtain ⟨rfl, rfl, cut⟩ := cut
        obtain ⟨left, right⟩ := ih cut
        obtain ⟨earlier, m, mark, same⟩ := behind left
        exact ⟨.inr ⟨.ellipsis :: earlier, m, mark, congrArg (.ellipsis :: ·) same⟩, right⟩

/-- A trail is known by its pages. -/
theorem eq_linksAfter (trail : Trail current last links) :
    links = linksAfter current last (linkedPages links) := by
  induction trail with
  | nil last => rfl
  | next rest ih =>
    rw [linkedPages_page, linksAfter, if_neg (by omega), if_neg (by omega), ← ih]
  | gap left_out rest ih =>
    rw [linkedPages_ellipsis, linkedPages_page, linksAfter, if_neg (by omega), if_pos left_out,
      ← ih]

end Trail

/-! ## The links of a window -/

/-- A window that is not empty begins with the first page and goes on from there. -/
theorem pageWindow_eq_cons {current total distance : Nat} (some_page : total ≠ 0) :
    pageWindow current total distance = .page 1 (decide (1 = current)) ::
      linksAfter current 1 (nearbyPages current total distance ++ [total]) := by
  rw [pageWindow, if_neg some_page, linksAfter, if_neg (by omega), if_neg (by omega)]

/-- Links to pages in a row leave out pages at most before the first and after the last of them. -/
theorem count_ellipsis_linksAfter (current last total first count : Nat) :
    (linksAfter current last (List.range' first count ++ [total])).count .ellipsis ≤
      if first ≤ last + 1 then 1 else 2 := by
  induction count generalizing last first with
  | zero =>
    have one : (linksAfter current last [total]).count .ellipsis ≤ 1 := by
      simp only [linksAfter]
      split
      · simp
      · split <;> simp
    rw [List.range'_zero, List.nil_append]
    split <;> omega
  | succ count ih =>
    rw [List.range'_succ, List.cons_append, linksAfter]
    split
    next covered =>
      have rest := ih last (first + 1)
      rw [if_pos (by omega)] at rest ⊢
      exact rest
    next beyond =>
      have rest := ih first (first + 1)
      rw [if_pos (Nat.le_refl _)] at rest
      split
      next left_out =>
        rw [if_neg (by omega), List.count_cons_self, List.count_cons_of_ne (by simp)]
        omega
      next adjacent =>
        rw [if_pos (by omega), List.count_cons_of_ne (by simp)]
        exact rest

theorem count_ellipsis_pageWindow (current total distance : Nat) :
    (pageWindow current total distance).count .ellipsis ≤ 2 := by
  by_cases none_there : total = 0
  · simp [pageWindow, none_there]
  · rw [pageWindow_eq_cons none_there, List.count_cons_of_ne (by simp), nearbyPages]
    have bound := count_ellipsis_linksAfter current 1 total (max 1 (current - distance))
      (min total (current + distance) + 1 - max 1 (current - distance))
    split at bound <;> omega

theorem isWindow_pageWindow (current total distance : Nat) :
    IsWindow current total distance (pageWindow current total distance) := by
  have few := count_ellipsis_pageWindow current total distance
  have linked : ∀ n, n ∈ linkedPages (pageWindow current total distance) ↔ 1 ≤ n ∧ n ≤ total ∧
      (n = 1 ∨ n = total ∨ ((n : Int) - current).natAbs ≤ distance) := by
    intro n
    simp only [mem_linkedPages, page_mem_pageWindow, exists_and_left, exists_eq, and_true]
    omega
  have marked : ∀ n mark, .page n mark ∈ pageWindow current total distance →
      (mark = true ↔ n = current) := by
    intro n mark member
    rw [(page_mem_pageWindow.mp member).2.2.2, decide_eq_true_iff]
  by_cases none_there : total = 0
  · have nothing : pageWindow current total distance = [] := by rw [pageWindow, if_pos none_there]
    rw [nothing] at linked marked few ⊢
    exact ⟨by simp [none_there], List.Pairwise.nil, linked, marked, by simp, by simp, few⟩
  · -- Seen from before the first page, the whole window is a trail.
    have whole : Trail current 0 (pageWindow current total distance) := by
      rw [pageWindow_eq_cons none_there]
      exact .next (trail_linksAfter current 1 _)
    refine ⟨?_, (List.pairwise_cons.mp whole.increasing).2, linked, marked, ?_, ?_, few⟩
    · simp [pageWindow_eq_cons none_there, none_there]
    · intro before gap after m n mark mark' cut no_page
      exact (whole.after_page cut).gap_eq no_page
    · intro before after cut
      obtain ⟨left, n, mark', later, right⟩ := whole.beside_ellipsis cut
      rcases left with rfl | ⟨earlier, m, mark, left⟩
      · rw [pageWindow_eq_cons none_there] at cut
        cases cut
      · exact ⟨earlier, m, mark, n, mark', later, left, right⟩

example : pageWindow 12 5 1 = [.page 1 false, .ellipsis, .page 5 false] := by decide

/-! ## The rules leave no choice -/

/-- The rules that hold of the rest of the links as well. -/
structure Spaced (current : Nat) (links : List PageLink) : Prop where
  increasing : (linkedPages links).Pairwise (· < ·)
  marked : ∀ n mark, .page n mark ∈ links → mark = decide (n = current)
  between : ∀ before gap after m n mark mark',
    links = before ++ .page m mark :: (gap ++ .page n mark' :: after) → linkedPages gap = [] →
    gap = if m + 1 < n then [.ellipsis] else []
  followed : ∀ before after, links = before ++ .ellipsis :: after →
    ∃ n mark later, after = .page n mark :: later

namespace Spaced

variable {current last : Nat} {mark : Bool} {link : PageLink} {links : List PageLink}

theorem rest (spaced : Spaced current (link :: links)) : Spaced current links := by
  refine ⟨?_, fun n mark member => spaced.marked n mark (List.mem_cons_of_mem link member), ?_, ?_⟩
  · cases link with
    | page n mark => exact (List.pairwise_cons.mp spaced.increasing).2
    | ellipsis => exact spaced.increasing
  · intro before gap after m n mark mark' cut
    exact spaced.between (link :: before) gap after m n mark mark' (congrArg (link :: ·) cut)
  · intro before after cut
    exact spaced.followed (link :: before) after (congrArg (link :: ·) cut)

/-- Behind a page, links that keep the rules are a trail. -/
theorem trail : ∀ {links : List PageLink} {last : Nat} {mark : Bool},
    Spaced current (.page last mark :: links) → Trail current last links
  | [], last, _, _ => .nil last
  | .page n mark' :: links, last, mark, spaced => by
    have less : last < n := (List.pairwise_cons.mp spaced.increasing).1 n (List.mem_cons_self ..)
    have close := spaced.between [] [] links last n mark mark' rfl rfl
    have following : n = last + 1 := by
      split at close
      next left_out => cases close
      next near => omega
    subst following
    rw [spaced.marked (last + 1) mark' (by simp)]
    exact .next (trail spaced.rest)
  | .ellipsis :: links, last, mark, spaced => by
    obtain ⟨n, mark', later, rfl⟩ := spaced.followed [.page last mark] links rfl
    have apart := spaced.between [] [.ellipsis] later last n mark mark' rfl rfl
    have left_out : last + 1 < n := by
      split at apart
      next left_out => exact left_out
      next near => cases apart
    rw [spaced.marked n mark' (by simp)]
    exact .gap left_out (trail spaced.rest.rest)

end Spaced

namespace IsWindow

variable {current total distance : Nat} {links other : List PageLink}

theorem spaced (window : IsWindow current total distance links) : Spaced current links := by
  refine ⟨window.increasing, ?_, window.between, ?_⟩
  · intro n mark member
    rw [Bool.eq_iff_iff, decide_eq_true_iff]
    exact window.marked n mark member
  · intro before after cut
    obtain ⟨_, _, _, n, mark, later, -, right⟩ := window.inside before after cut
    exact ⟨n, mark, later, right⟩

/-- Seen from before the first page, a window is a trail. -/
theorem trail (window : IsWindow current total distance links) : Trail current 0 links := by
  cases links with
  | nil => exact .nil 0
  | cons link links =>
    cases link with
    | ellipsis =>
      obtain ⟨earlier, m, mark, _, _, _, left, -⟩ := window.inside [] links rfl
      simp at left
    | page n mark =>
      have some_page : total ≠ 0 := fun none_there => by
        cases window.empty.mpr none_there
      -- The first page is linked, and nothing can come before it.
      have first : 1 ∈ n :: linkedPages links := (window.pages 1).mpr ⟨by omega, by omega, .inl rfl⟩
      have least : 1 ≤ n := ((window.pages n).mp (by simp)).1
      have begins : n = 1 := by
        rcases List.mem_cons.mp first with same | later
        · exact same.symm
        · have := (List.pairwise_cons.mp window.increasing).1 1 later
          omega
      subst begins
      rw [window.spaced.marked 1 mark (by simp)]
      exact .next window.spaced.trail

theorem eq (window : IsWindow current total distance links)
    (window' : IsWindow current total distance other) : links = other := by
  have same : linkedPages links = linkedPages other :=
    window.increasing.eq_of_mem_iff window'.increasing fun n =>
      (window.pages n).trans (window'.pages n).symm
  rw [window.trail.eq_linksAfter, window'.trail.eq_linksAfter, same]

end IsWindow

/-- Whatever the numbers, the links that are shown keep the rules for a window, and no others do. -/
theorem window_goes_by_the_rules (current total distance : UInt32) :
    pageWindow? current total distance =
      .ok (pageWindow current.toNat total.toNat distance.toNat) ∧
    ∀ links, links = pageWindow current.toNat total.toNat distance.toNat ↔
      IsWindow current.toNat total.toNat distance.toNat links := by
  have window := isWindow_pageWindow current.toNat total.toNat distance.toNat
  refine ⟨pageWindow?_eq current total distance, fun links => ⟨?_, fun other => other.eq window⟩⟩
  intro same
  rw [same]
  exact window

end MapSidebar
