import MapSidebar.Schedule

/-!
# What has become of the jobs

A job is live until it is aborted or has used its answer, and neither is ever undone. The ledger of a
schedule forgets everything about its jobs but that and what they are for. Most of what a schedule
does leaves the ledger as it is; a start, an abort and the use of an answer each change it at one
place.
-/
namespace MapSidebar

/-- What has become of a job. -/
inductive JobStatus where
  | live
  /-- It has been aborted. -/
  | dropped
  /-- It has used its answer. -/
  | used
  deriving DecidableEq, Repr

namespace JobStatus

def drop : JobStatus → JobStatus
  | live => dropped
  | dropped => dropped
  | used => used

def use : JobStatus → JobStatus
  | live => used
  | dropped => dropped
  | used => used

@[simp] theorem drop_ne_live (st : JobStatus) : st.drop ≠ live := by cases st <;> simp [drop]

@[simp] theorem use_ne_live (st : JobStatus) : st.use ≠ live := by cases st <;> simp [use]

theorem use_eq_dropped {st : JobStatus} : st.use = dropped ↔ st = dropped := by
  cases st <;> simp [use]

theorem drop_of_ne_live {st : JobStatus} (h : st ≠ live) : st.drop = st := by
  cases st <;> simp_all [drop]

theorem use_of_ne_live {st : JobStatus} (h : st ≠ live) : st.use = st := by
  cases st <;> simp_all [use]

end JobStatus

namespace Phase

@[simp] theorem isEnded_queued : queued.isEnded = false := rfl

@[simp] theorem isEnded_waiting : waiting.isEnded = false := rfl

@[simp] theorem isEnded_answered (a : Answer) : (answered a).isEnded = false := rfl

@[simp] theorem isEnded_ended : ended.isEnded = true := rfl

end Phase

variable {κ : Type}

/-- What has become of a job; one that is aborted after its end has still used its answer. -/
def Job.status (j : Job κ) : JobStatus :=
  if j.aborted then .dropped else if j.phase.isEnded then .used else .live

theorem Job.status_eq_live {j : Job κ} :
    j.status = .live ↔ j.aborted = false ∧ j.phase.isEnded = false := by
  cases ha : j.aborted <;> cases he : j.phase.isEnded <;> simp [Job.status, ha, he]

theorem Job.status_eq_dropped {j : Job κ} : j.status = .dropped ↔ j.aborted = true := by
  cases ha : j.aborted <;> cases he : j.phase.isEnded <;> simp [Job.status, ha, he]

/-- The tasks of all jobs ever started, each with what has become of the job. -/
abbrev Ledger (κ : Type) := List (κ × JobStatus)

namespace Ledger

/-- The ledger once a job has been aborted. -/
def dropJob (l : Ledger κ) (job : Nat) : Ledger κ := l.modify job fun (t, st) => (t, st.drop)

/-- The ledger once a job has used its answer. -/
def useJob (l : Ledger κ) (job : Nat) : Ledger κ := l.modify job fun (t, st) => (t, st.use)

/-- The ledger once the job in a slot, if there is one, has been aborted. -/
def dropSlot (l : Ledger κ) : Option Nat → Ledger κ
  | some job => l.dropJob job
  | none => l

theorem dropJob_entry {l : Ledger κ} {job n : Nat} {t : κ} {st : JobStatus} :
    (l.dropJob job)[n]? = some (t, st) ↔
      ∃ old, l[n]? = some (t, old) ∧ st = if n = job then old.drop else old := by
  by_cases h : job = n
  · subst h
    simp only [dropJob, List.getElem?_modify_eq, Option.map_eq_map, Option.map_eq_some_iff,
      Prod.mk.injEq, if_true]
    constructor
    · rintro ⟨⟨u, old⟩, at_job, rfl, rfl⟩
      exact ⟨old, at_job, rfl⟩
    · rintro ⟨old, at_job, rfl⟩
      exact ⟨(t, old), at_job, rfl, rfl⟩
  · have hn : n ≠ job := Ne.symm h
    simp [dropJob, h, hn]

theorem useJob_entry {l : Ledger κ} {job n : Nat} {t : κ} {st : JobStatus} :
    (l.useJob job)[n]? = some (t, st) ↔
      ∃ old, l[n]? = some (t, old) ∧ st = if n = job then old.use else old := by
  by_cases h : job = n
  · subst h
    simp only [useJob, List.getElem?_modify_eq, Option.map_eq_map, Option.map_eq_some_iff,
      Prod.mk.injEq, if_true]
    constructor
    · rintro ⟨⟨u, old⟩, at_job, rfl, rfl⟩
      exact ⟨old, at_job, rfl⟩
    · rintro ⟨old, at_job, rfl⟩
      exact ⟨(t, old), at_job, rfl, rfl⟩
  · have hn : n ≠ job := Ne.symm h
    simp [useJob, h, hn]

theorem dropSlot_entry {l : Ledger κ} {slot : Option Nat} {n : Nat} {t : κ} {st : JobStatus}
    (at_n : (l.dropSlot slot)[n]? = some (t, st)) : ∃ old, l[n]? = some (t, old) := by
  cases slot with
  | none => exact ⟨st, at_n⟩
  | some job =>
    obtain ⟨old, before, -⟩ := dropJob_entry.mp at_n
    exact ⟨old, before⟩

/-- Only a live job can use its answer. -/
theorem useJob_of_ne_live {l : Ledger κ} {n : Nat} {t : κ} {st : JobStatus}
    (at_n : l[n]? = some (t, st)) (dead : st ≠ .live) : l.useJob n = l := by
  apply List.ext_getElem?
  intro m
  by_cases equal : n = m
  · subst equal
    rw [useJob, List.getElem?_modify_eq, at_n]
    simp [JobStatus.use_of_ne_live dead]
  · simp [useJob, equal]

theorem append_entry {l : Ledger κ} {t u : κ} {st su : JobStatus} {n : Nat} :
    (l ++ [(u, su)])[n]? = some (t, st) ↔
      l[n]? = some (t, st) ∨ (n = l.length ∧ t = u ∧ st = su) := by
  rcases Nat.lt_trichotomy n l.length with h | h | h
  · rw [List.getElem?_append_left h]
    have : n ≠ l.length := by omega
    simp [this]
  · subst h
    simp [eq_comm]
  · have ho : l.length ≤ n := by omega
    have hne : n - l.length ≠ 0 := by omega
    have hn : n ≠ l.length := by omega
    simp [List.getElem?_append_right ho, List.getElem?_eq_none ho, hne, hn]

theorem lt_length {l : Ledger κ} {n : Nat} {e : κ × JobStatus} (h : l[n]? = some e) :
    n < l.length := (List.getElem?_eq_some_iff.mp h).1

/-- Jobs keep their tasks, and only live ones may still change. -/
def Evolves (l l' : Ledger κ) : Prop :=
  ∀ (n : Nat) (t : κ) (st : JobStatus), l[n]? = some (t, st) →
    ∃ st', l'[n]? = some (t, st') ∧ (st ≠ JobStatus.live → st' = st)

namespace Evolves

theorem refl (l : Ledger κ) : Evolves l l := fun _ _ st h => ⟨st, h, fun _ => rfl⟩

theorem trans {l m r : Ledger κ} (first : Evolves l m) (last : Evolves m r) : Evolves l r := by
  intro n t st h
  obtain ⟨st', h', keep⟩ := first n t st h
  obtain ⟨st'', h'', keep'⟩ := last n t st' h'
  refine ⟨st'', h'', fun dead => ?_⟩
  have same := keep dead
  rw [keep' (same ▸ dead), same]

theorem dropJob (l : Ledger κ) (job : Nat) : Evolves l (l.dropJob job) := by
  intro n t st h
  refine ⟨_, dropJob_entry.mpr ⟨st, h, rfl⟩, fun dead => ?_⟩
  split
  · exact JobStatus.drop_of_ne_live dead
  · rfl

theorem useJob (l : Ledger κ) (job : Nat) : Evolves l (l.useJob job) := by
  intro n t st h
  refine ⟨_, useJob_entry.mpr ⟨st, h, rfl⟩, fun dead => ?_⟩
  split
  · exact JobStatus.use_of_ne_live dead
  · rfl

theorem append (l : Ledger κ) (e : κ × JobStatus) : Evolves l (l ++ [e]) := by
  intro n t st h
  exact ⟨st, append_entry.mpr (.inl h), fun _ => rfl⟩

end Evolves

end Ledger

namespace Schedule

def ledger (s : Schedule κ) : Ledger κ := s.jobs.map fun j => (j.task, j.status)

@[simp] theorem ledger_length (s : Schedule κ) : s.ledger.length = s.jobs.length := by
  simp [ledger]

theorem ledger_entry {s : Schedule κ} {n : Nat} {t : κ} {st : JobStatus} :
    s.ledger[n]? = some (t, st) ↔ ∃ j, s.jobs[n]? = some j ∧ j.task = t ∧ j.status = st := by
  simp [ledger]

theorem ledger_of_job {s : Schedule κ} {n : Nat} {j : Job κ} (h : s.jobs[n]? = some j) :
    s.ledger[n]? = some (j.task, j.status) := ledger_entry.mpr ⟨j, h, rfl, rfl⟩

/-- A job that is replaced by another for the same task changes the ledger at its place. -/
theorem ledger_set {s : Schedule κ} {n : Nat} {j : Job κ} (h : s.jobs[n]? = some j) (j' : Job κ)
    (task : j'.task = j.task) (f : JobStatus → JobStatus) (status : j'.status = f j.status) :
    (s.jobs.set n j').map (fun j => (j.task, j.status)) =
      s.ledger.modify n fun (t, st) => (t, f st) := by
  apply List.ext_getElem?
  intro m
  by_cases hm : n = m
  · subst hm
    have bound := (List.getElem?_eq_some_iff.mp h).1
    simp only [ledger, List.getElem?_map, List.getElem?_modify_eq, List.getElem?_set_self bound, h,
      Option.map_eq_map, Option.map_some, task, status]
  · simp [ledger, hm]

@[simp] theorem ledger_wake (s : Schedule κ) (job : Nat) : (s.wake job).ledger = s.ledger := by
  unfold wake
  split <;> rfl

@[simp] theorem wake_jobs (s : Schedule κ) (job : Nat) : (s.wake job).jobs = s.jobs := by
  unfold wake
  split <;> rfl

@[simp] theorem wake_sent (s : Schedule κ) (job : Nat) : (s.wake job).sent = s.sent := by
  unfold wake
  split <;> rfl

theorem ledger_start (s : Schedule κ) (task : κ) :
    (s.start task).ledger = s.ledger ++ [(task, .live)] := by
  simp [start, ledger, Job.status]

theorem setPhase_eq {s : Schedule κ} {job : Nat} {j : Job κ} (h : s.jobs[job]? = some j)
    (phase : Phase) :
    s.setPhase job phase = { s with jobs := s.jobs.set job { j with phase } } := by
  simp [setPhase, h]

@[simp] theorem setPhase_agenda (s : Schedule κ) (job : Nat) (phase : Phase) :
    (s.setPhase job phase).agenda = s.agenda := by
  unfold setPhase
  split <;> rfl

/-- A job that does not end stays what it was. -/
theorem ledger_setPhase {s : Schedule κ} {job : Nat} {j : Job κ} (h : s.jobs[job]? = some j)
    {phase : Phase} (same : phase.isEnded = j.phase.isEnded) :
    (s.setPhase job phase).ledger = s.ledger := by
  rw [setPhase_eq h]
  have kept := ledger_set h { j with phase } rfl id (by simp [Job.status, same])
  exact kept.trans (List.modify_id _ _)

theorem ledger_end {s : Schedule κ} {job : Nat} {j : Job κ} (h : s.jobs[job]? = some j) :
    (s.setPhase job .ended).ledger = s.ledger.useJob job := by
  rw [setPhase_eq h]
  refine ledger_set h { j with phase := .ended } rfl JobStatus.use ?_
  cases ha : j.aborted <;> cases he : j.phase.isEnded <;>
    simp [Job.status, ha, he, JobStatus.use]

theorem ledger_send {s : Schedule κ} {job : Nat} {j : Job κ} (h : s.jobs[job]? = some j)
    (queued : j.phase = .queued) (request : Request) : (s.send job request).ledger = s.ledger :=
  ledger_setPhase h (by simp [queued])

theorem ledger_abort (s : Schedule κ) (job : Nat) :
    (s.abort job).ledger = s.ledger.dropJob job := by
  unfold abort
  split
  next absent =>
    have short : s.ledger.length ≤ job := by simpa using absent
    exact (List.modify_eq_self short).symm
  next j at_job =>
    split
    next ended =>
      have dead : j.status = j.status.drop := by
        cases ha : j.aborted <;> simp [Job.status, ended, ha, JobStatus.drop]
      obtain ⟨bound, rfl⟩ := List.getElem?_eq_some_iff.mp at_job
      have same := ledger_set at_job _ rfl JobStatus.drop dead
      rwa [List.set_getElem_self] at same
    next going =>
      rw [ledger_wake]
      refine ledger_set at_job { j with aborted := true } rfl JobStatus.drop ?_
      cases ha : j.aborted <;> simp [Job.status, going, ha, JobStatus.drop]

@[simp] theorem sent_abort (s : Schedule κ) (job : Nat) : (s.abort job).sent = s.sent := by
  unfold abort
  split
  · rfl
  · split <;> simp

/-- Marks a request as answered. -/
def close (s : Schedule κ) (request : Nat) : Schedule κ :=
  { s with sent := s.sent.modify request fun x => { x with answered := true } }

theorem close_eq {s : Schedule κ} {request : Nat} {x : Sent} (h : s.sent[request]? = some x) :
    ({ s with sent := s.sent.set request { x with answered := true } } : Schedule κ) =
      s.close request := by
  obtain ⟨bound, rfl⟩ := List.getElem?_eq_some_iff.mp h
  have same : s.sent.set request { s.sent[request] with answered := true } =
      s.sent.modify request fun x => { x with answered := true } := by
    apply List.ext_getElem?
    intro n
    by_cases hn : request = n
    · subst hn
      simp [bound]
    · simp [hn]
  rw [same, close]

/-- An answer finds no open request, or closes one that nobody waits for, or is given to the job
that waits for it. -/
theorem answer_cases (s : Schedule κ) (request : Nat) (a : Answer) :
    s.answer request a = (s, .noRequest) ∨ s.answer request a = (s.close request, .unwanted) ∨
    ∃ x j, s.sent[request]? = some x ∧ s.jobs[x.job]? = some j ∧ j.phase = .waiting ∧
      s.answer request a =
        (((s.close request).setPhase x.job (.answered a)).wake x.job, .delivered) := by
  unfold answer
  split
  · exact .inl rfl
  next x at_x =>
    split
    · exact .inl rfl
    · dsimp only
      rw [close_eq at_x]
      split
      next live =>
        simp only [isLive] at live
        split at live
        next j at_job =>
          have waits : j.phase = .waiting := by
            cases hp : j.phase <;> simp_all [Phase.isWaiting]
          exact .inr (.inr ⟨x, j, at_x, at_job, waits, rfl⟩)
        · simp at live
      · exact .inr (.inl rfl)

@[simp] theorem close_ledger (s : Schedule κ) (request : Nat) :
    (s.close request).ledger = s.ledger := rfl

/-- An answer changes nothing in the ledger. -/
theorem ledger_answer (s : Schedule κ) (request : Nat) (a : Answer) :
    (s.answer request a).1.ledger = s.ledger := by
  rcases answer_cases s request a with none_open | unwanted | ⟨x, j, -, at_job, waits, delivered⟩
  · rw [none_open]
  · rw [unwanted, close_ledger]
  · rw [delivered, ledger_wake]
    exact ledger_setPhase (s := s.close request) at_job (by simp [waits])

end Schedule

end MapSidebar
