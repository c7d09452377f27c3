import MapSidebar.Proofs.Turns
import Mathlib.Data.List.Induction

/-!
# The current ticket

Every operation moves the counter, and a ticket is the number that its issue moved the counter to.
So tickets only grow, the ticket that the last operation returned is the one that is current, and one
that has become stale remains so. As many operations as 64 bits can count go through without an
overflow, and count as if numbers had no bound (`Words`).
-/
namespace MapSidebar.Sequence

/-- The sequence after an operation, and the ticket that it returns. -/
def perform (s : Sequence) : Operation → Sequence × Option Ticket
  | .issue => (s.issue.1, some s.issue.2)
  | .invalidate => (s.invalidate, none)

def returns (s : Sequence) : List Operation → List (Option Ticket)
  | [] => []
  | op :: ops => (s.perform op).2 :: (s.perform op).1.returns ops

@[simp] theorem perform_current (s : Sequence) (op : Operation) :
    (s.perform op).1.current = s.current + 1 := by cases op <;> rfl

/-! ## Histories -/

namespace History

variable {h : History} {t : Ticket} {ops : List Operation}

def run (h : History) (ops : List Operation) : History := ops.foldl step h

theorem step_eq (h : History) (op : Operation) :
    h.step op = ⟨(h.sequence.perform op).1, h.issued ++ (h.sequence.perform op).2.toList⟩ := by
  cases op with
  | issue => rfl
  | invalidate => exact congrArg (History.mk _) (List.append_nil _).symm

theorem run_cons (h : History) (op : Operation) (ops : List Operation) :
    h.run (op :: ops) = (h.step op).run ops := rfl

theorem run_append (h : History) (earlier later : List Operation) :
    h.run (earlier ++ later) = (h.run earlier).run later := List.foldl_append

theorem run_concat (h : History) (ops : List Operation) (op : Operation) :
    h.run (ops ++ [op]) = (h.run ops).step op := run_append h ops [op]

theorem run_current (h : History) (ops : List Operation) :
    (h.run ops).sequence.current = h.sequence.current + ops.length := by
  induction ops generalizing h with
  | nil => rfl
  | cons op ops ih =>
    rw [run_cons, ih, step_eq, perform_current, List.length_cons]
    omega

/-- The tickets of a history are what its operations have returned. -/
theorem run_issued (h : History) (ops : List Operation) :
    (h.run ops).issued = h.issued ++ (h.sequence.returns ops).reduceOption := by
  induction ops generalizing h with
  | nil => exact (List.append_nil _).symm
  | cons op ops ih =>
    rw [run_cons, ih, step_eq, returns, List.append_assoc]
    cases (h.sequence.perform op).2 <;> rfl

theorem returns_concat (h : History) (ops : List Operation) (op : Operation) :
    h.sequence.returns (ops ++ [op]) =
      h.sequence.returns ops ++ [((h.run ops).sequence.perform op).2] := by
  induction ops generalizing h with
  | nil => rfl
  | cons first ops ih =>
    have rest := ih (h.step first)
    rw [step_eq] at rest
    rw [List.cons_append, returns, rest, returns, List.cons_append, run_cons, step_eq]

/-! ## What every operation keeps -/

/-- Tickets grow in the order in which they are issued, and none is beyond the counter. -/
structure Growing (h : History) : Prop where
  increasing : h.issued.Pairwise fun t u => t.value < u.value
  reached : ∀ t ∈ h.issued, t.value ≤ h.sequence.current

namespace Growing

theorem empty : Growing {} := ⟨.nil, by simp⟩

theorem passed (growing : h.Growing) (issued : t ∈ h.issued) :
    t.value < h.sequence.current + 1 := Nat.lt_succ_of_le (growing.reached t issued)

theorem step (growing : h.Growing) (op : Operation) : (h.step op).Growing := by
  cases op with
  | issue =>
    refine ⟨List.pairwise_append.mpr ⟨growing.increasing, List.pairwise_singleton .., ?_⟩, ?_⟩
    · intro t issued u last
      rw [List.mem_singleton.mp last]
      exact growing.passed issued
    · intro t issued
      rcases List.mem_append.mp issued with old | last
      · exact Nat.le_of_lt (growing.passed old)
      · rw [List.mem_singleton.mp last]
        exact Nat.le_refl _
  | invalidate =>
    exact ⟨growing.increasing, fun t issued => Nat.le_of_lt (growing.passed issued)⟩

theorem run (growing : h.Growing) (ops : List Operation) : (h.run ops).Growing :=
  List.foldlRecOn ops History.step growing fun _ growing op _ => growing.step op

/-- An operation leaves no ticket current but the one that it returns. -/
theorem live_step (growing : h.Growing) (op : Operation) :
    (h.step op).live = (h.sequence.perform op).2.toList := by
  have none_left : h.issued.filter (h.sequence.perform op).1.isCurrent = [] := by
    refine List.filter_eq_nil_iff.mpr fun t issued => ?_
    have passed := growing.passed issued
    rw [isCurrent, decide_eq_true_iff, perform_current]
    omega
  have fresh : (h.sequence.perform op).2.toList.filter (h.sequence.perform op).1.isCurrent =
      (h.sequence.perform op).2.toList := by
    cases op <;> simp [perform, issue, isCurrent]
  rw [live, step_eq, List.filter_append, none_left, fresh, List.nil_append]

/-- A ticket that is not current is behind the counter, which never goes back. -/
theorem stale_run (growing : h.Growing) (issued : t ∈ h.issued)
    (stale : h.sequence.isCurrent t = false) (ops : List Operation) :
    (h.run ops).sequence.isCurrent t = false := by
  have reached := growing.reached t issued
  simp only [isCurrent, decide_eq_false_iff_not] at stale ⊢
  rw [run_current]
  omega

end Growing

/-- The current ticket is what the last operation has returned. -/
theorem live_run (ops : List Operation) :
    (run {} ops).live = ((returns {} ops).getLast?.join).toList := by
  induction ops using List.reverseRecOn with
  | nil => rfl
  | append_singleton ops op _ =>
    rw [run_concat, (Growing.empty.run ops).live_step, returns_concat {}, List.getLast?_concat]
    rfl

theorem isCurrent_iff (issued : t ∈ (run {} ops).issued) :
    (run {} ops).sequence.isCurrent t = true ↔ (returns {} ops).getLast? = some (some t) := by
  have live : t ∈ (run {} ops).live ↔ (run {} ops).sequence.isCurrent t = true := by
    rw [History.live, List.mem_filter]
    exact and_iff_right issued
  rw [← live, live_run, Option.mem_toList, Option.join_eq_some_iff]

end History

/-! ## Numbers of 64 bits -/

/-- A history whose numbers have 64 bits. -/
structure Words where
  current : UInt64 := 0
  issued : List UInt64 := []

namespace Words

variable {w v : Words} {ops : List Operation}

/-- The number after another; there is none after the last one. -/
def after? (n : UInt64) : Option UInt64 := if n.toNat + 1 < UInt64.size then some (n + 1) else none

/-- One operation, if the counter does not overflow. -/
def step? (w : Words) : Operation → Option Words
  | .issue => (after? w.current).map fun n => ⟨n, w.issued ++ [n]⟩
  | .invalidate => (after? w.current).map fun n => ⟨n, w.issued⟩

/-- Several operations, if the counter does not overflow. -/
def run? (w : Words) (ops : List Operation) : Option Words := ops.foldlM step? w

/-- The issued numbers that are still current. -/
def live (w : Words) : List UInt64 := w.issued.filter (· = w.current)

def ticket (n : UInt64) : Ticket := ⟨n.toNat⟩

/-- The same history with numbers that have no bound. -/
def unbounded (w : Words) : History := ⟨⟨w.current.toNat⟩, w.issued.map ticket⟩

theorem step?_eq (w : Words) (op : Operation) : (w.step? op).map unbounded =
    if w.current.toNat + 1 < UInt64.size then some (w.unbounded.step op) else none := by
  split
  next small =>
    have next : (w.current + 1).toNat = w.current.toNat + 1 := by
      rw [UInt64.toNat_add, UInt64.toNat_one, Nat.mod_eq_of_lt small]
    cases op with
    | issue => simp [step?, after?, small, unbounded, ticket, History.step, issue, next]
    | invalidate => simp [step?, after?, small, unbounded, History.step, invalidate, next]
  next large => cases op <;> simp [step?, after?, large]

/-- A counter of 64 bits goes through as many operations as it can count, and no more. -/
theorem run?_eq (w : Words) (ops : List Operation) : (w.run? ops).map unbounded =
    if w.current.toNat + ops.length < UInt64.size then some (w.unbounded.run ops) else none := by
  induction ops generalizing w with
  | nil => exact (if_pos w.current.toNat_lt).symm
  | cons op ops ih =>
    have first := step?_eq w op
    rw [run?, List.foldlM_cons, List.length_cons]
    by_cases small : w.current.toNat + 1 < UInt64.size
    · rw [if_pos small] at first
      obtain ⟨v, stepped, same⟩ := Option.map_eq_some_iff.mp first
      have moved : v.current.toNat = w.current.toNat + 1 := by
        have counted := congrArg (·.sequence.current) same
        rw [History.step_eq] at counted
        exact counted.trans (perform_current ..)
      have rest := ih v
      rw [moved, same, Nat.add_assoc, Nat.add_comm 1] at rest
      rw [stepped]
      exact rest
    · rw [if_neg small] at first
      rw [Option.map_eq_none_iff.mp first, if_neg (by omega)]
      rfl

/-- The same numbers are current. -/
theorem live_unbounded (w : Words) : w.unbounded.live = w.live.map ticket := by
  unfold History.live live unbounded
  rw [List.filter_map]
  congr 1
  refine List.filter_congr fun n _ => ?_
  simp [isCurrent, ticket, UInt64.toNat_inj]

end Words

/-! ## All of it -/

/-- What holds of the tickets of a history `h` that has come about by some operations. -/
structure TicketsInOrder (ops : List Operation) (h : History) : Prop where
  /-- A counter of 64 bits goes through all operations and arrives at the same history, with the same
  tickets current. -/
  counted : ∃ w, Words.run? {} ops = some w ∧ w.unbounded = h ∧ h.live = w.live.map Words.ticket
  /-- The tickets are what the operations have returned. -/
  issued : h.issued = (returns {} ops).reduceOption
  /-- They grow in the order in which they are issued. -/
  increasing : (h.issued.map Ticket.value).Pairwise (· < ·)
  /-- No two of them are equal. -/
  distinct : (h.issued.map Ticket.value).Nodup
  /-- A ticket is current exactly if the very last operation has returned it. -/
  current : ∀ t ∈ h.issued,
    h.sequence.isCurrent t = true ↔ (returns {} ops).getLast? = some (some t)
  /-- At most one is current. -/
  single : h.live.length ≤ 1
  /-- None is after the tickets have been invalidated. -/
  invalidated : ops.getLast? = some .invalidate → h.live = []
  /-- A ticket that was not current at some time has not become current since. -/
  stale : ∀ earlier later, ops = earlier ++ later → ∀ t ∈ (History.run {} earlier).issued,
    (History.run {} earlier).sequence.isCurrent t = false → h.sequence.isCurrent t = false
  /-- Answers under all tickets but the one that the last operation has returned are of no use to the
  controller or the pager that counts with this sequence. -/
  discarded : ∀ t ∈ h.issued, (returns {} ops).getLast? ≠ some (some t) →
    ∀ (s : Stage) (k : Nat) (a : Answer),
      (∀ c visit, s.controllers[k]? = some c → c.sequence = h.sequence →
        s.applyContent k t visit a = s) ∧
      ∀ p, s.pagers[k]? = some p → p.sequence = h.sequence → s.applyPage k t a = s

/-- However issuing and invalidating alternate, as long as 64 bits can count it, tickets are never
issued twice and only the last operation decides which one is current. -/
theorem tickets_in_order (ops : List Operation) (few : ops.length < UInt64.size) :
    TicketsInOrder ops (History.run {} ops) := by
  have growing := History.Growing.empty.run ops
  have increasing : ((History.run {} ops).issued.map Ticket.value).Pairwise (· < ·) :=
    List.pairwise_map.mpr growing.increasing
  refine ⟨?_, History.run_issued {} ops, increasing, increasing.imp Nat.ne_of_lt,
    fun t issued => History.isCurrent_iff issued, ?_, ?_, ?_, ?_⟩
  · have counted := Words.run?_eq {} ops
    rw [if_pos (by simpa using few)] at counted
    obtain ⟨w, ran, same⟩ := Option.map_eq_some_iff.mp counted
    replace same : w.unbounded = History.run {} ops := same
    exact ⟨w, ran, same, same ▸ w.live_unbounded⟩
  · rw [History.live_run]
    cases (returns {} ops).getLast?.join <;> simp
  · intro last
    obtain ⟨earlier, rfl⟩ := List.getLast?_eq_some_iff.mp last
    rw [History.run_concat, (History.Growing.empty.run earlier).live_step]
    rfl
  · rintro earlier later rfl t issued stale
    rw [History.run_append]
    exact (History.Growing.empty.run earlier).stale_run issued stale later
  · intro t issued other s k a
    have stale : (History.run {} ops).sequence.isCurrent t = false :=
      Bool.eq_false_iff.mpr fun current => other ((History.isCurrent_iff issued).mp current)
    refine ⟨fun c visit at_k same => ?_, fun p at_k same => ?_⟩
    · exact Stage.applyContent_stale at_k (same ▸ stale) visit a
    · exact Stage.applyPage_stale at_k (same ▸ stale) a

/-- The first ticket is invalidated before the second is issued. -/
theorem tickets_in_order_invalidatedOnce :
    [Operation.issue, .invalidate, .issue].length < UInt64.size ∧
    (History.run {} [.issue, .invalidate, .issue]).issued = [⟨1⟩, ⟨3⟩] ∧
    (History.run {} [.issue, .invalidate, .issue]).sequence.isCurrent ⟨1⟩ = false ∧
    TicketsInOrder [.issue, .invalidate, .issue] (History.run {} [.issue, .invalidate, .issue]) :=
  ⟨by decide, rfl, rfl, tickets_in_order _ (by decide)⟩

end MapSidebar.Sequence
