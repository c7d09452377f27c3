import MapSidebar.Proofs.Turns

/-!
# How jobs, slots and counters hang together

Controllers and pagers keep track of their requests in the same way: a counter of tickets and a slot
for the job whose answer is awaited. `Tied` says how these stand to the ledger: the slot holds the one
live job of its owner, which is also the last one started and carries the current ticket, and the
ticket of a job that has been aborted is no longer current.
-/
namespace MapSidebar

/-- Who started a job. -/
inductive Owner where
  | controller (index : Nat)
  | pager (index : Nat)
  deriving DecidableEq, Repr

namespace StageTask

def owner : StageTask → Owner
  | .content i _ _ _ => .controller i
  | .page k _ _ => .pager k

def ticket : StageTask → Ticket
  | .content _ ticket _ _ => ticket
  | .page _ ticket _ => ticket

end StageTask

variable {l l' : Ledger StageTask} {o : Owner}

/-- Two ledgers that hold the same jobs of an owner. -/
def Alike (o : Owner) (l l' : Ledger StageTask) : Prop :=
  ∀ (n : Nat) (t : StageTask) (st : JobStatus), t.owner = o →
    (l'[n]? = some (t, st) ↔ l[n]? = some (t, st))

/-- How the jobs of an owner stand to its counter and its slot. -/
structure Tied (l : Ledger StageTask) (o : Owner) (sequence : Sequence) (slot : Option Nat) :
    Prop where
  issued : ∀ (n : Nat) (t : StageTask) (st : JobStatus), l[n]? = some (t, st) → t.owner = o →
    t.ticket.value ≤ sequence.current
  live : ∀ (n : Nat) (t : StageTask), l[n]? = some (t, .live) → t.owner = o →
    slot = some n ∧ t.ticket.value = sequence.current
  dropped : ∀ (n : Nat) (t : StageTask), l[n]? = some (t, .dropped) → t.owner = o →
    t.ticket.value < sequence.current
  held : ∀ n : Nat, slot = some n → ∃ t, l[n]? = some (t, .live) ∧ t.owner = o
  last : ∀ n : Nat, slot = some n → ∀ (m : Nat) (t : StageTask) (st : JobStatus),
    l[m]? = some (t, st) → t.owner = o → m ≤ n

namespace Alike

theorem refl (o : Owner) (l : Ledger StageTask) : Alike o l l := fun _ _ _ _ => Iff.rfl

theorem trans {m : Ledger StageTask} (first : Alike o l m) (last : Alike o m l') : Alike o l l' :=
  fun n t st own => (last n t st own).trans (first n t st own)

theorem dropJob {n : Nat} {u : StageTask} {su : JobStatus} (at_n : l[n]? = some (u, su))
    (foreign : u.owner ≠ o) : Alike o l (l.dropJob n) := by
  intro m t st own
  rw [Ledger.dropJob_entry]
  by_cases equal : m = n
  · subst equal
    constructor
    · rintro ⟨old, at_m, -⟩
      cases at_n.symm.trans at_m
      exact absurd own foreign
    · intro at_m
      cases at_n.symm.trans at_m
      exact absurd own foreign
  · simp [equal]

theorem useJob {n : Nat} {u : StageTask} {su : JobStatus} (at_n : l[n]? = some (u, su))
    (foreign : u.owner ≠ o) : Alike o l (l.useJob n) := by
  intro m t st own
  rw [Ledger.useJob_entry]
  by_cases equal : m = n
  · subst equal
    constructor
    · rintro ⟨old, at_m, -⟩
      cases at_n.symm.trans at_m
      exact absurd own foreign
    · intro at_m
      cases at_n.symm.trans at_m
      exact absurd own foreign
  · simp [equal]

/-- What one owner aborts is no job of another. -/
theorem dropSlot {o' : Owner} {sequence : Sequence} {slot : Option Nat}
    (tied : Tied l o' sequence slot) (foreign : o ≠ o') : Alike o l (l.dropSlot slot) := by
  cases slot with
  | none => exact refl o l
  | some n =>
    obtain ⟨u, at_n, own⟩ := tied.held n rfl
    exact dropJob at_n fun equal => foreign (equal.symm.trans own)

theorem append {u : StageTask} {su : JobStatus} (foreign : u.owner ≠ o) :
    Alike o l (l ++ [(u, su)]) := by
  intro n t st own
  rw [Ledger.append_entry]
  constructor
  · rintro (old | ⟨-, rfl, -⟩)
    · exact old
    · exact absurd own foreign
  · exact .inl

end Alike

namespace Tied

variable {sequence : Sequence} {slot : Option Nat}

theorem of_alike (tied : Tied l o sequence slot) (alike : Alike o l l') :
    Tied l' o sequence slot where
  issued n t st at_n own := tied.issued n t st ((alike n t st own).mp at_n) own
  live n t at_n own := tied.live n t ((alike n t _ own).mp at_n) own
  dropped n t at_n own := tied.dropped n t ((alike n t _ own).mp at_n) own
  held n is := by
    obtain ⟨t, at_n, own⟩ := tied.held n is
    exact ⟨t, (alike n t _ own).mpr at_n, own⟩
  last n is m t st at_m own := tied.last n is m t st ((alike m t st own).mp at_m) own

/-- An owner of no jobs. -/
theorem fresh (none_own : ∀ (n : Nat) (t : StageTask) (st : JobStatus),
    l[n]? = some (t, st) → t.owner ≠ o) (sequence : Sequence) : Tied l o sequence none where
  issued n t st at_n own := absurd own (none_own n t st at_n)
  live n t at_n own := absurd own (none_own n t _ at_n)
  dropped n t at_n own := absurd own (none_own n t _ at_n)
  held := by simp
  last := by simp

/-- An owner that aborts its job moves its counter at once, so that the ticket of the job is no
longer current. -/
theorem dropSlot (tied : Tied l o sequence slot) :
    Tied (l.dropSlot slot) o sequence.invalidate none := by
  have old : ∀ (n : Nat) (t : StageTask) (st : JobStatus),
      (l.dropSlot slot)[n]? = some (t, st) → ∃ st', l[n]? = some (t, st') ∧
        (st = .live → st' = .live ∧ slot ≠ some n) := by
    intro n t st at_n
    cases slot with
    | none => exact ⟨st, at_n, fun live => ⟨live, by simp⟩⟩
    | some m =>
      obtain ⟨st', at_n', rfl⟩ := Ledger.dropJob_entry.mp at_n
      refine ⟨st', at_n', ?_⟩
      by_cases equal : n = m
      · simp [equal]
      · simp [equal, Ne.symm equal]
  refine ⟨?_, ?_, ?_, by simp, by simp⟩
  · intro n t st at_n own
    obtain ⟨st', at_n', -⟩ := old n t st at_n
    have := tied.issued n t st' at_n' own
    simp only [Sequence.invalidate]
    omega
  · intro n t at_n own
    obtain ⟨st', at_n', was⟩ := old n t .live at_n
    obtain ⟨rfl, other⟩ := was rfl
    exact absurd (tied.live n t at_n' own).1 other
  · intro n t at_n own
    obtain ⟨st', at_n', -⟩ := old n t .dropped at_n
    have := tied.issued n t st' at_n' own
    simp only [Sequence.invalidate]
    omega

/-- An owner that waits for nothing starts a job. -/
theorem start (tied : Tied l o sequence none) {t : StageTask} (own : t.owner = o)
    {next : Sequence} (current : t.ticket.value = next.current)
    (later : sequence.current ≤ next.current) :
    Tied (l ++ [(t, .live)]) o next (some l.length) := by
  refine ⟨?_, ?_, ?_, ?_, ?_⟩
  · intro n u st at_n mine
    rcases Ledger.append_entry.mp at_n with old | ⟨-, rfl, -⟩
    · have := tied.issued n u st old mine
      omega
    · omega
  · intro n u at_n mine
    rcases Ledger.append_entry.mp at_n with old | ⟨rfl, rfl, -⟩
    · cases (tied.live n u old mine).1
    · exact ⟨rfl, current⟩
  · intro n u at_n mine
    rcases Ledger.append_entry.mp at_n with old | ⟨-, -, impossible⟩
    · have := tied.dropped n u old mine
      omega
    · cases impossible
  · intro n is
    cases is
    exact ⟨t, Ledger.append_entry.mpr (.inr ⟨rfl, rfl, rfl⟩), own⟩
  · intro n is m u st at_m _
    cases is
    have := Ledger.lt_length at_m
    simp only [List.length_append, List.length_singleton] at this
    omega

/-- An owner whose job uses its answer waits for nothing. -/
theorem useJob {n : Nat} (tied : Tied l o sequence (some n)) :
    Tied (l.useJob n) o sequence none := by
  refine ⟨?_, ?_, ?_, by simp, by simp⟩
  · intro m t st at_m own
    obtain ⟨st', at_m', -⟩ := Ledger.useJob_entry.mp at_m
    exact tied.issued m t st' at_m' own
  · intro m t at_m own
    obtain ⟨st', at_m', was⟩ := Ledger.useJob_entry.mp at_m
    by_cases equal : m = n
    · simp only [equal, if_true] at was
      exact absurd was.symm (JobStatus.use_ne_live st')
    · simp only [equal, if_false] at was
      subst was
      exact absurd (Option.some.inj (tied.live m t at_m' own).1).symm equal
  · intro m t at_m own
    obtain ⟨st', at_m', was⟩ := Ledger.useJob_entry.mp at_m
    have dropped : st' = .dropped := by
      split at was
      · exact JobStatus.use_eq_dropped.mp was.symm
      · exact was.symm
    exact tied.dropped m t (dropped ▸ at_m') own

/-- The live job of an owner is the one in its slot. -/
theorem slot_eq_some_iff (tied : Tied l o sequence slot) {n : Nat} :
    slot = some n ↔ ∃ t, l[n]? = some (t, .live) ∧ t.owner = o :=
  ⟨tied.held n, fun ⟨t, at_n, own⟩ => (tied.live n t at_n own).1⟩

theorem isSome_slot_iff (tied : Tied l o sequence slot) :
    slot.isSome ↔ ∃ (n : Nat) (t : StageTask), l[n]? = some (t, .live) ∧ t.owner = o := by
  rw [Option.isSome_iff_exists]
  exact exists_congr fun n => tied.slot_eq_some_iff

end Tied

end MapSidebar
