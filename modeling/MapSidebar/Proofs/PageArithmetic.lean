import MapSidebar.Proofs.Endings

/-!
# Arithmetic with page numbers

The numbers of pages have 32 bits, and a server may tell any of them. Among the sums and the differences
that are taken of them there is one that may not exist: the number after the last one, when a numbered
list steps on. That step does nothing, and everything else is computed as if numbers had no bound.
-/
namespace MapSidebar

/-! ## Neighbours -/

section

variable {m n : UInt32} {fault : PageOverflow}

theorem pageAfter_eq_ok : pageAfter n = .ok m ↔ m.toNat = n.toNat + 1 := by
  unfold pageAfter
  split
  next small =>
    have next : (n + 1).toNat = n.toNat + 1 := by
      rw [UInt32.toNat_add, UInt32.toNat_one, Nat.mod_eq_of_lt small]
    rw [Except.ok.injEq, ← UInt32.toNat_inj, next]
    exact eq_comm
  next large =>
    have bound : m.toNat < UInt32.size := m.toNat_lt
    simp only [reduceCtorEq, false_iff]
    omega

/-- There is no number after the last one. -/
theorem pageAfter_eq_error : pageAfter n = .error fault ↔ n = 4294967295 ∧ fault = .afterLast := by
  unfold pageAfter
  split
  next small =>
    simp only [reduceCtorEq, false_iff, not_and]
    rintro rfl
    exact absurd small (by decide)
  next large =>
    have last : n = 4294967295 := by
      have bound := n.toNat_lt
      have reached : n.toNat = 4294967295 := by
        simp only [UInt32.size] at large
        omega
      exact UInt32.toNat.inj reached
    simp [last, eq_comm (a := fault)]

theorem pageBefore_eq_ok : pageBefore n = .ok m ↔ n.toNat = m.toNat + 1 := by
  unfold pageBefore
  split
  next zero => simp [zero]
  next positive =>
    have first : (1 : UInt32) ≤ n := by
      rw [UInt32.le_iff_toNat_le, UInt32.toNat_one]
      exact Nat.pos_of_ne_zero fun zero => positive (UInt32.toNat.inj zero)
    have next : (n - 1).toNat = n.toNat - 1 := UInt32.toNat_sub_of_le _ _ first
    have least := UInt32.le_iff_toNat_le.mp first
    rw [UInt32.toNat_one] at least
    rw [Except.ok.injEq, ← UInt32.toNat_inj, next]
    omega

/-- There is no number before zero. -/
theorem pageBefore_eq_error : pageBefore n = .error fault ↔ n = 0 ∧ fault = .beforeZero := by
  unfold pageBefore
  split
  next zero => simp [zero, eq_comm (a := fault)]
  next positive => simp [positive]

end

/-! ## The window -/

/-- The sum of two numbers, or the last number if there is none. -/
def saturatingSum (a b : UInt32) : UInt32 :=
  if a.toNat + b.toNat < UInt32.size then a + b else 4294967295

/-- The difference of two numbers, or zero if there is none. -/
def saturatingDifference (a b : UInt32) : UInt32 := if b ≤ a then a - b else 0

def numbersBetween (low high : UInt32) : List UInt32 :=
  (List.range' low.toNat (high.toNat + 1 - low.toNat)).map UInt32.ofNat

/-- Links for those of `pages` that come after `last`, all numbers of 32 bits. -/
def linksAfter? (current last : UInt32) : List UInt32 → Except PageOverflow (List PageLink)
  | [] => .ok []
  | page :: pages =>
    if page ≤ last then linksAfter? current last pages
    else do
      let next ← pageAfter last
      let links ← linksAfter? current page pages
      let link := PageLink.page page.toNat (page = current)
      pure (if next < page then .ellipsis :: link :: links else link :: links)

/-- The links shown on page `current` of `total`, all numbers of 32 bits. -/
def pageWindow? (current total distance : UInt32) : Except PageOverflow (List PageLink) :=
  if total = 0 then .ok []
  else
    let low := max (saturatingDifference current distance) 1
    let high := min (saturatingSum current distance) total
    linksAfter? current 0 (1 :: (numbersBetween low high ++ [total]))

section

variable (a b current last total distance : UInt32)

theorem toNat_saturatingSum :
    (saturatingSum a b).toNat = min (a.toNat + b.toNat) 4294967295 := by
  unfold saturatingSum
  split
  next small =>
    rw [UInt32.toNat_add, Nat.mod_eq_of_lt small]
    simp only [UInt32.size] at small
    omega
  next large =>
    simp only [UInt32.size] at large
    change 4294967295 = _
    omega

theorem toNat_saturatingDifference :
    (saturatingDifference a b).toNat = a.toNat - b.toNat := by
  unfold saturatingDifference
  split
  next less => exact UInt32.toNat_sub_of_le _ _ less
  next more =>
    rw [UInt32.le_iff_toNat_le] at more
    change 0 = _
    omega

theorem toNat_max : (max a b).toNat = max a.toNat b.toNat := by
  change (if a ≤ b then b else a).toNat = _
  split
  next less => exact (Nat.max_eq_right (UInt32.le_iff_toNat_le.mp less)).symm
  next more =>
    rw [UInt32.le_iff_toNat_le, Nat.not_le] at more
    exact (Nat.max_eq_left (Nat.le_of_lt more)).symm

theorem toNat_min : (min a b).toNat = min a.toNat b.toNat := by
  change (if a ≤ b then a else b).toNat = _
  split
  next less => exact (Nat.min_eq_left (UInt32.le_iff_toNat_le.mp less)).symm
  next more =>
    rw [UInt32.le_iff_toNat_le, Nat.not_le] at more
    exact (Nat.min_eq_right (Nat.le_of_lt more)).symm

theorem map_toNat_numbersBetween : (numbersBetween a b).map UInt32.toNat =
    List.range' a.toNat (b.toNat + 1 - a.toNat) := by
  rw [numbersBetween, List.map_map]
  refine (List.map_congr_left fun n inside => ?_).trans (List.map_id _)
  have bound := b.toNat_lt
  rw [List.mem_range'_1] at inside
  exact UInt32.toNat_ofNat_of_lt' (by simp only [UInt32.size]; omega)

/-- The number after the last link is only taken when there is a page past that link, so it is there. -/
theorem linksAfter?_eq (pages : List UInt32) : linksAfter? current last pages =
    .ok (linksAfter current.toNat last.toNat (pages.map UInt32.toNat)) := by
  induction pages generalizing last with
  | nil => rfl
  | cons page pages ih =>
    rw [List.map_cons, linksAfter?, linksAfter]
    simp only [UInt32.le_iff_toNat_le]
    split
    next covered => exact ih last
    next beyond =>
      obtain ⟨next, after⟩ : ∃ next : UInt32, pageAfter last = .ok next := by
        cases after : pageAfter last with
        | ok next => exact ⟨next, rfl⟩
        | error fault =>
          obtain ⟨rfl, -⟩ := pageAfter_eq_error.mp after
          have bound := page.toNat_lt
          change ¬ page.toNat ≤ 4294967295 at beyond
          omega
      have gap : next < page ↔ last.toNat + 1 < page.toNat := by
        rw [UInt32.lt_iff_toNat_lt, pageAfter_eq_ok.mp after]
      have marked : decide (page = current) = decide (page.toNat = current.toNat) := by
        rw [decide_eq_decide]
        exact UInt32.toNat_inj.symm
      simp only [after, ih page, gap, marked, bind, Except.bind, pure, Except.pure]

/-- No window overflows, and each has the links that it would have if numbers had no bound. -/
theorem pageWindow?_eq : pageWindow? current total distance =
    .ok (pageWindow current.toNat total.toNat distance.toNat) := by
  have none_there : total = 0 ↔ total.toNat = 0 := by
    rw [← UInt32.toNat_inj]
    rfl
  have near : (numbersBetween (max (saturatingDifference current distance) 1)
      (min (saturatingSum current distance) total)).map UInt32.toNat =
        nearbyPages current.toNat total.toNat distance.toNat := by
    have bound := total.toNat_lt
    have low : max (current.toNat - distance.toNat) 1 = max 1 (current.toNat - distance.toNat) :=
      Nat.max_comm _ _
    have high : min (min (current.toNat + distance.toNat) 4294967295) total.toNat =
        min total.toNat (current.toNat + distance.toNat) := by omega
    rw [map_toNat_numbersBetween, toNat_max, toNat_min, toNat_saturatingDifference,
      toNat_saturatingSum, UInt32.toNat_one, low, high, nearbyPages]
  rw [pageWindow?, pageWindow]
  simp only [none_there]
  split
  · rfl
  · rw [linksAfter?_eq, List.map_cons, List.map_append, near]
    rfl

end

/-! ## Moves -/

namespace Pager

variable {p : Pager} {m : PageMove} {fault : PageOverflow} {initial : UInt32}

/-- The one move that may overflow is the step past the last number. -/
theorem request?_eq_error : p.request? m = .error fault ↔
    m = .older ∧ fault = .afterLast ∧ (∃ initial, p.options.mode = .numbered initial) ∧
      p.position.page = 4294967295 ∧
      (p.position.numPages.isSome = true ∨ p.position.hasMore = true) := by
  have through : ∀ n : Except PageOverflow UInt32,
      n.map p.goto? = .error fault ↔ n = .error fault := by
    rintro (other | n) <;> simp [Except.map]
  cases m with
  | goto n => simp [request?]
  | older =>
    cases mode : p.options.mode with
    | numbered initial =>
      simp only [request?, mode]
      split
      next known =>
        rw [Bool.or_eq_true] at known
        rw [through, pageAfter_eq_error]
        simp only [known, and_true, true_and, PageMode.numbered.injEq, exists_eq']
        exact and_comm
      next unknown =>
        rw [Bool.or_eq_true] at unknown
        simp [unknown]
    | cursor =>
      simp only [request?, mode]
      split <;> simp
  | newer =>
    cases mode : p.options.mode with
    | numbered initial =>
      simp only [request?, mode]
      split
      next past =>
        rw [through, pageBefore_eq_error]
        simp only [reduceCtorEq, false_and, iff_false, not_and]
        intro zero
        rw [zero] at past
        exact absurd past (by decide)
      next first => simp
    | cursor =>
      simp only [request?, mode]
      split <;> simp

/-- A step on leads to the number after the one of the list. -/
theorem older_target (mode : p.options.mode = .numbered initial) {target : PageTarget}
    (wanted : p.request? .older = .ok (some target)) :
    (p.position.numPages.isSome = true ∨ p.position.hasMore = true) ∧
      ∃ n : UInt32, n.toNat = p.position.page.toNat + 1 ∧ target = { address := .number n } := by
  simp only [request?, mode] at wanted
  split at wanted
  next known =>
    rw [Bool.or_eq_true] at known
    cases after : pageAfter p.position.page with
    | error fault => simp [after, Except.map] at wanted
    | ok n =>
      rw [after] at wanted
      have found := ((goto?_eq_some mode).mp (Except.ok.inj wanted)).2.2.2
      exact ⟨known, n, pageAfter_eq_ok.mp after, found⟩
  next unknown => cases wanted

/-- A step back leads to the number before it. -/
theorem newer_target (mode : p.options.mode = .numbered initial) {target : PageTarget}
    (wanted : p.request? .newer = .ok (some target)) :
    ∃ n : UInt32, p.position.page.toNat = n.toNat + 1 ∧ target = { address := .number n } := by
  simp only [request?, mode] at wanted
  split at wanted
  next past =>
    cases before : pageBefore p.position.page with
    | error fault => simp [before, Except.map] at wanted
    | ok n =>
      rw [before] at wanted
      exact ⟨n, pageBefore_eq_ok.mp before,
        ((goto?_eq_some mode).mp (Except.ok.inj wanted)).2.2.2⟩
  next first => cases wanted

end Pager

namespace Stage

variable {s : Stage} {k : Nat} {p : Pager} {c : Chronicle} {m : PageMove} {fault : PageOverflow}

theorem move_eq_error (at_k : s.pagers[k]? = some p) :
    s.move k m = .error fault ↔ p.request? m = .error fault := by
  cases wanted : p.request? m with
  | error other => simp [move, at_k, wanted, Except.map]
  | ok found => cases found <;> simp [move, at_k, wanted, Except.map]

theorem run_move_error (beyond : s.move k m = .error fault) (later : List Happening) :
    s.run (.action (.move k m) :: later) = s.run later := by
  have same : s.happen (.action (.move k m)) = s := by rw [happen, perform, beyond]
  rw [run, List.foldl_cons, same]
  rfl

/-- Of every pager there is a request. -/
theorem run_asks (screen : Screen) (specs : List ControllerSpec) (history : List Happening)
    (at_k : ((fresh screen specs).run history).pagers[k]? = some p) :
    ((fresh screen specs).chronicle k {} history).asks ≠ [] := by
  refine course_induction (motive := fun _ c _ => c.asks ≠ []) (fun _ _ _ => List.cons_ne_nil _ _)
    (fun _ advance some_asked => ?_) screen specs history at_k
  cases advance with
  | kept => exact some_asked
  | asked job wanted => exact List.cons_ne_nil _ _
  | shown page task asks => exact List.cons_ne_nil _ _
  | failed e task asks => exact some_asked
  | unmounted sequence => exact some_asked

/-! ## All of it -/

/-- What holds of the numbers of pager `k`, mounted or not, when its chronicle is `c`. -/
structure NumbersInOrder (s : Stage) (k : Nat) (p : Pager) (c : Chronicle) : Prop where
  /-- A move overflows exactly if it is the step of a numbered list past the last number, and the list
  knows of more. -/
  overflow : ∀ m fault, s.move k m = .error fault ↔
    m = .older ∧ fault = .afterLast ∧ (∃ initial, p.options.mode = .numbered initial) ∧
      p.position.page = 4294967295 ∧
      (p.position.numPages.isSome = true ∨ p.position.hasMore = true)
  /-- In terms of the run: what was asked for last, or the page that answers it, has the last number,
  and a page has told a page count, or the one rendered last has announced more. -/
  reached : s.move k .older = .error .afterLast ↔
    (∃ initial, p.options.mode = .numbered initial) ∧
    (∃ ask shown earlier, c.asks = (ask, shown) :: earlier ∧
      ask.number (shown.getD {}) = 4294967295) ∧
    ((pageCount c.asks).isSome = true ∨
      ∃ ask page, rendered c.asks = some (ask, page) ∧ page.hasMore = some true)
  /-- Then everything goes on as if the move had not been made. -/
  unchanged : ∀ m fault, s.move k m = .error fault → s.perform (.move k m) = s ∧
    ∀ later, s.run (.action (.move k m) :: later) = s.run later
  /-- An unmount takes no numbers: whatever is told of the moves remains true after it. -/
  unmounted : (s.unmount k).pagers[k]? = some p.unmounted ∧ p.unmounted.position = p.position ∧
    ∀ m fault, (s.unmount k).move k m = .error fault ↔ s.move k m = .error fault
  /-- Every other step of a numbered list leads to the number right after its own. -/
  older : ∀ initial t, p.options.mode = .numbered initial → s.move k .older = .ok (t, true) →
    ∃ n : UInt32, n.toNat = p.position.page.toNat + 1 ∧
      t = s.issuePage k p { address := .number n }
  /-- A step back leads to the number right before it. -/
  newer : ∀ initial t, p.options.mode = .numbered initial → s.move k .newer = .ok (t, true) →
    ∃ n : UInt32, p.position.page.toNat = n.toNat + 1 ∧
      t = s.issuePage k p { address := .number n }

/-- Whatever numbers a server tells and wherever a list begins, the one sum that may not exist is the
number after the last one; and every window is the one that it would be if numbers had no bound. -/
theorem numbers_in_order (screen : Screen) (specs : List ControllerSpec) (history : List Happening)
    {k : Nat} {p : Pager} (at_k : ((fresh screen specs).run history).pagers[k]? = some p) :
    NumbersInOrder ((fresh screen specs).run history) k p
      ((fresh screen specs).chronicle k {} history) ∧
    ∀ current total distance, pageWindow? current total distance =
      .ok (pageWindow current.toNat total.toNat distance.toNat) := by
  have noted := run_noted screen specs history at_k
  have some_asked := run_asks screen specs history at_k
  generalize (fresh screen specs).run history = s at *
  generalize (fresh screen specs).chronicle k {} history = c at *
  refine ⟨⟨?_, ?_, ?_, ?_, ?_, ?_⟩, pageWindow?_eq⟩
  · exact fun m fault => (move_eq_error at_k).trans Pager.request?_eq_error
  · obtain ⟨⟨ask, shown⟩, earlier, asks⟩ := List.exists_cons_of_ne_nil some_asked
    rw [move_eq_error at_k, Pager.request?_eq_error, noted.count, noted.hasMore_iff]
    constructor
    · rintro ⟨-, -, ⟨initial, mode⟩, last, known⟩
      have number := noted.number_eq mode asks
      exact ⟨⟨initial, mode⟩, ⟨ask, shown, earlier, asks, number ▸ last⟩, known⟩
    · rintro ⟨⟨initial, mode⟩, ⟨ask', shown', earlier', asks', last⟩, known⟩
      have number := noted.number_eq mode asks'
      exact ⟨rfl, rfl, ⟨initial, mode⟩, number.trans last, known⟩
  · intro m fault beyond
    exact ⟨run_move_error beyond [], run_move_error beyond⟩
  · have gone := unmount_pager_self at_k
    refine ⟨gone, rfl, fun m fault => ?_⟩
    rw [move_eq_error at_k, move_eq_error gone, Pager.request?_eq_error, Pager.request?_eq_error]
    rfl
  · intro initial t mode accepted
    obtain ⟨target, wanted, rfl⟩ := move_accepted at_k accepted
    obtain ⟨-, n, next, rfl⟩ := Pager.older_target mode wanted
    exact ⟨n, next, rfl⟩
  · intro initial t mode accepted
    obtain ⟨target, wanted, rfl⟩ := move_accepted at_k accepted
    obtain ⟨n, next, rfl⟩ := Pager.newer_target mode wanted
    exact ⟨n, next, rfl⟩

/-- A list begins at the last number, and its page announces more. -/
def lastNumber : List Happening :=
  [.action (.mount 0 { build := fun _ => { url := "/list" }, mode := .numbered 4294967295 }), .turn 0,
    .action (.answer 0 (.ok (.json 200 (.object [("has_more", .bool true)])))), .turn 0]

theorem numbers_in_order_lastNumber : ∃ p : Pager,
    ((fresh { containers := [{}] } []).run lastNumber).pagers[0]? = some p ∧
    p.position.page = 4294967295 ∧ p.position.hasMore = true ∧
    ((fresh { containers := [{}] } []).run lastNumber).move 0 .older = .error .afterLast ∧
    NumbersInOrder ((fresh { containers := [{}] } []).run lastNumber) 0 p
      ((fresh { containers := [{}] } []).chronicle 0 {} lastNumber) :=
  ⟨_, rfl, rfl, rfl, rfl, (numbers_in_order _ _ _ rfl).1⟩

end Stage

end MapSidebar
