import MapSidebar.Proofs.Ledger
import Mathlib.Data.List.Nodup

/-!
# The agenda

A schedule is sound when every job with something to do stands on the agenda, once, and every request
that has been sent is the request of its job, none of which has sent two. `Calls` and `Passes` say
what can happen to a schedule: calls start and abort jobs and give answers, and in a turn a job sends
its request, goes away or has nothing to do. Both keep a schedule sound and its ledger in order.
-/
namespace MapSidebar

variable {κ : Type}

/-- Whether a job has something to do when it next runs. -/
def Job.hasWork (j : Job κ) : Bool :=
  match j.phase with
  | .queued => true
  | .waiting => j.aborted
  | .answered _ => true
  | .ended => false

namespace Schedule

/-- What a schedule keeps to, when `ask` gives the requests of the tasks. -/
structure Sound (ask : κ → Request) (s : Schedule κ) : Prop where
  once : s.agenda.Nodup
  known : ∀ n ∈ s.agenda, n < s.jobs.length
  listed : ∀ (n : Nat) (j : Job κ), s.jobs[n]? = some j → j.hasWork = true → n ∈ s.agenda
  sentOnce : (s.sent.map Sent.job).Nodup
  asked : ∀ x ∈ s.sent, ∃ j, s.jobs[x.job]? = some j ∧ x.request = ask j.task ∧ j.phase ≠ .queued
  unanswered : ∀ x ∈ s.sent, x.answered = false → ∀ j, s.jobs[x.job]? = some j →
    j.phase = .waiting ∨ j.aborted = true

variable {ask : κ → Request} {s : Schedule κ}

/-- Takes a job off the agenda, wherever it stands there. -/
def pick (s : Schedule κ) (job : Nat) : Schedule κ := { s with agenda := s.agenda.erase job }

@[simp] theorem pick_jobs (s : Schedule κ) (job : Nat) : (s.pick job).jobs = s.jobs := rfl

@[simp] theorem pick_sent (s : Schedule κ) (job : Nat) : (s.pick job).sent = s.sent := rfl

theorem mem_wake_agenda {job n : Nat} :
    n ∈ (s.wake job).agenda ↔ n ∈ s.agenda ∨ n = job := by
  unfold wake
  split
  next listed =>
    have : job ∈ s.agenda := by simpa using listed
    constructor
    · exact .inl
    · rintro (h | rfl) <;> assumption
  next => simp

theorem wake_agenda (s : Schedule κ) (job : Nat) : s.agenda <+: (s.wake job).agenda := by
  unfold wake
  split
  · exact List.prefix_rfl
  · exact List.prefix_append _ _

theorem nodup_wake_agenda (once : s.agenda.Nodup) (job : Nat) : (s.wake job).agenda.Nodup := by
  unfold wake
  split
  · exact once
  next absent =>
    have new : job ∉ s.agenda := by simpa using absent
    refine List.nodup_append.mpr ⟨once, List.pairwise_singleton _ job, ?_⟩
    intro a ha b hb equal
    have : b = job := by simpa using hb
    exact new (this ▸ equal ▸ ha)

theorem wake_eq (s : Schedule κ) (job : Nat) :
    s.wake job = { s with agenda := (s.wake job).agenda } := by
  unfold wake
  split <;> rfl

namespace Sound

theorem empty (ask : κ → Request) : ({} : Schedule κ).Sound ask where
  once := .nil
  known := by simp
  listed := by simp
  sentOnce := .nil
  asked := by simp
  unanswered := by simp

theorem start (sound : s.Sound ask) (task : κ) : (s.start task).Sound ask where
  once := by
    refine List.nodup_append.mpr ⟨sound.once, List.pairwise_singleton _ _, ?_⟩
    intro a ha b hb equal
    have bound := sound.known a ha
    have : b = s.jobs.length := by simpa [nextJob] using hb
    omega
  known := by
    intro n hn
    simp only [Schedule.start, nextJob, List.mem_append, List.mem_singleton] at hn
    simp only [Schedule.start, List.length_append, List.length_singleton]
    rcases hn with old | new
    · have := sound.known n old
      omega
    · omega
  listed := by
    intro n j at_n work
    simp only [Schedule.start, List.mem_append, List.mem_singleton, nextJob]
    by_cases bound : n < s.jobs.length
    · simp only [Schedule.start, List.getElem?_append_left bound] at at_n
      exact .inl (sound.listed n j at_n work)
    · have := (List.getElem?_eq_some_iff.mp at_n).1
      simp only [Schedule.start, List.length_append, List.length_singleton] at this
      exact .inr (by omega)
  sentOnce := sound.sentOnce
  asked := by
    intro x hx
    obtain ⟨j, at_x, same, sent⟩ := sound.asked x hx
    have bound := (List.getElem?_eq_some_iff.mp at_x).1
    rw [← List.getElem?_append_left bound] at at_x
    exact ⟨j, at_x, same, sent⟩
  unanswered := by
    intro x hx first j at_x
    obtain ⟨k, at_k, -⟩ := sound.asked x hx
    have bound := (List.getElem?_eq_some_iff.mp at_k).1
    simp only [Schedule.start, List.getElem?_append_left bound] at at_x
    exact sound.unanswered x hx first j at_x

/-- A job may be replaced, and the agenda with it, as long as no other job loses its place on the
agenda. -/
theorem replace (sound : s.Sound ask) {n : Nat} {j : Job κ} (at_n : s.jobs[n]? = some j)
    (j' : Job κ) (task : j'.task = j.task) (phase : j.phase ≠ .queued → j'.phase ≠ .queued)
    (waits : ∀ x ∈ s.sent, x.job = n → x.answered = false →
      j'.phase = .waiting ∨ j'.aborted = true)
    {agenda : List Nat} (once : agenda.Nodup) (known : ∀ m ∈ agenda, m ∈ s.agenda ∨ m = n)
    (keeps : ∀ m ∈ s.agenda, m ≠ n → m ∈ agenda) (work : j'.hasWork = true → n ∈ agenda) :
    ({ s with jobs := s.jobs.set n j', agenda } : Schedule κ).Sound ask := by
  have bound := (List.getElem?_eq_some_iff.mp at_n).1
  refine ⟨once, ?_, ?_, sound.sentOnce, ?_, ?_⟩
  · intro m hm
    simp only [List.length_set]
    rcases known m hm with old | rfl
    · exact sound.known m old
    · exact bound
  · intro m k at_m has
    by_cases equal : m = n
    · subst equal
      simp only [List.getElem?_set_self bound, Option.some.injEq] at at_m
      exact work (at_m ▸ has)
    · simp only [List.getElem?_set_ne (Ne.symm equal)] at at_m
      exact keeps m (sound.listed m k at_m has) equal
  · intro x hx
    obtain ⟨k, at_x, same, sent⟩ := sound.asked x hx
    by_cases equal : x.job = n
    · rw [equal, at_n, Option.some.injEq] at at_x
      subst at_x
      exact ⟨j', by simp only [equal, List.getElem?_set_self bound], task ▸ same, phase sent⟩
    · exact ⟨k, by simpa only [List.getElem?_set_ne (Ne.symm equal)] using at_x, same, sent⟩
  · intro x hx first k at_x
    by_cases equal : x.job = n
    · simp only [equal, List.getElem?_set_self bound, Option.some.injEq] at at_x
      exact at_x ▸ waits x hx equal first
    · simp only [List.getElem?_set_ne (Ne.symm equal)] at at_x
      exact sound.unanswered x hx first k at_x

/-- A job may be replaced by any that has run before if it then stands on the agenda. -/
theorem replace_wake (sound : s.Sound ask) {n : Nat} {j : Job κ} (at_n : s.jobs[n]? = some j)
    (j' : Job κ) (task : j'.task = j.task) (phase : j.phase ≠ .queued → j'.phase ≠ .queued)
    (waits : ∀ x ∈ s.sent, x.job = n → x.answered = false →
      j'.phase = .waiting ∨ j'.aborted = true) :
    (({ s with jobs := s.jobs.set n j' } : Schedule κ).wake n).Sound ask := by
  rw [wake_eq]
  have once := nodup_wake_agenda (s := { s with jobs := s.jobs.set n j' }) sound.once n
  refine sound.replace at_n j' task phase waits once ?_ ?_ ?_
  · exact fun m hm => (mem_wake_agenda (s := { s with jobs := s.jobs.set n j' })).mp hm
  · exact fun m hm _ => mem_wake_agenda.mpr (.inl hm)
  · exact fun _ => mem_wake_agenda.mpr (.inr rfl)

theorem abort (sound : s.Sound ask) (job : Nat) : (s.abort job).Sound ask := by
  unfold Schedule.abort
  split
  · exact sound
  next j at_job =>
    split
    · exact sound
    · exact sound.replace_wake at_job { j with aborted := true } rfl id fun _ _ _ _ => .inr rfl

/-- A job that is taken off the agenda may become any that has nothing to do. -/
theorem pick_replace (sound : s.Sound ask) {n : Nat} {j : Job κ} (at_n : s.jobs[n]? = some j)
    (j' : Job κ) (task : j'.task = j.task) (phase : j'.phase ≠ .queued) (idle : j'.hasWork = false)
    (waits : ∀ x ∈ s.sent, x.job = n → x.answered = false →
      j'.phase = .waiting ∨ j'.aborted = true) :
    ({ s.pick n with jobs := s.jobs.set n j' } : Schedule κ).Sound ask := by
  refine sound.replace at_n j' task (fun _ => phase) waits (sound.once.erase n) ?_ ?_ ?_
  · exact fun m hm => .inl (List.mem_of_mem_erase hm)
  · exact fun m hm different => (List.mem_erase_of_ne different).mpr hm
  · simp [idle]

theorem pick_idle (sound : s.Sound ask) {n : Nat} {j : Job κ} (at_n : s.jobs[n]? = some j)
    (phase : j.phase ≠ .queued) (idle : j.hasWork = false) : (s.pick n).Sound ask := by
  have kept := sound.pick_replace at_n j rfl phase idle fun x hx same first =>
    sound.unanswered x hx first j (same ▸ at_n)
  obtain ⟨bound, rfl⟩ := List.getElem?_eq_some_iff.mp at_n
  rwa [List.set_getElem_self] at kept

/-- A job ends when it has been aborted or has its answer. -/
theorem pick_end (sound : s.Sound ask) {n : Nat} {j : Job κ} (at_n : s.jobs[n]? = some j)
    (done : j.aborted = true ∨ j.phase ≠ .waiting) : ((s.pick n).setPhase n .ended).Sound ask := by
  rw [setPhase_eq (s := s.pick n) at_n]
  refine sound.pick_replace at_n { j with phase := .ended } rfl (by simp) rfl ?_
  intro x hx same first
  refine .inr (done.elim id fun answered => ?_)
  exact (sound.unanswered x hx first j (same ▸ at_n)).resolve_left answered

theorem pick_send (sound : s.Sound ask) {n : Nat} {j : Job κ} (at_n : s.jobs[n]? = some j)
    (queued : j.phase = .queued) (going : j.aborted = false) :
    ((s.pick n).send n (ask j.task)).Sound ask := by
  have bound := (List.getElem?_eq_some_iff.mp at_n).1
  have waits := sound.pick_replace at_n { j with phase := .waiting } rfl (by simp) going
    fun _ _ _ _ => .inl rfl
  have unsent : n ∉ s.sent.map Sent.job := by
    simp only [List.mem_map, not_exists, not_and]
    rintro x hx rfl
    obtain ⟨k, at_x, -, sent⟩ := sound.asked x hx
    rw [at_n, Option.some.injEq] at at_x
    exact sent (at_x ▸ queued)
  rw [send, setPhase_eq (s := s.pick n) at_n]
  refine ⟨waits.once, waits.known, waits.listed, ?_, ?_, ?_⟩
  · simp only [pick_sent, List.map_append, List.map_cons, List.map_nil]
    refine List.nodup_append.mpr ⟨sound.sentOnce, List.pairwise_singleton _ _, ?_⟩
    intro a ha b hb equal
    have : b = n := by simpa using hb
    exact unsent (this ▸ equal ▸ ha)
  · intro x hx
    simp only [pick_sent, List.mem_append, List.mem_singleton] at hx
    rcases hx with old | rfl
    · exact waits.asked x old
    · exact ⟨{ j with phase := .waiting }, List.getElem?_set_self bound, rfl, by simp⟩
  · intro x hx open_x k at_x
    simp only [pick_sent, List.mem_append, List.mem_singleton] at hx
    rcases hx with old | rfl
    · exact waits.unanswered x old open_x k at_x
    · simp only [pick_jobs, List.getElem?_set_self bound, Option.some.injEq] at at_x
      exact .inl (at_x ▸ rfl)

theorem close (sound : s.Sound ask) (request : Nat) : (s.close request).Sound ask := by
  have same : (s.close request).sent.map Sent.job = s.sent.map Sent.job := by
    apply List.ext_getElem?
    intro n
    by_cases hn : request = n
    · subst hn
      simp [Schedule.close, Function.comp_def]
    · simp [Schedule.close, hn]
  have old : ∀ y ∈ (s.close request).sent, y ∈ s.sent ∨
      ∃ x ∈ s.sent, y = { x with answered := true } := by
    intro y hy
    obtain ⟨n, at_n⟩ := List.getElem?_of_mem hy
    by_cases hn : request = n
    · subst hn
      simp only [Schedule.close, List.getElem?_modify_eq, Option.map_eq_map,
        Option.map_eq_some_iff] at at_n
      obtain ⟨x, at_x, rfl⟩ := at_n
      exact .inr ⟨x, List.mem_of_getElem? at_x, rfl⟩
    · simp only [Schedule.close, List.getElem?_modify_ne _ _ hn] at at_n
      exact .inl (List.mem_of_getElem? at_n)
  refine ⟨sound.once, sound.known, sound.listed, same ▸ sound.sentOnce, ?_, ?_⟩
  · intro y hy
    rcases old y hy with kept | ⟨x, hx, rfl⟩
    · exact sound.asked y kept
    · exact sound.asked x hx
  · intro y hy first j at_y
    rcases old y hy with kept | ⟨x, hx, rfl⟩
    · exact sound.unanswered y kept first j at_y
    · cases first

/-- A request that has been closed is the only one of its job. -/
theorem close_answered (sound : s.Sound ask) {request : Nat} {x : Sent}
    (at_x : s.sent[request]? = some x) {y : Sent} (hy : y ∈ (s.close request).sent)
    (same : y.job = x.job) : y.answered = true := by
  have closed : (s.close request).sent[request]? = some { x with answered := true } := by
    simp [Schedule.close, at_x]
  have equal := List.inj_on_of_nodup_map (sound.close request).sentOnce hy
    (List.mem_of_getElem? closed) same
  rw [equal]

theorem answer (sound : s.Sound ask) (request : Nat) (a : Answer) :
    (s.answer request a).1.Sound ask := by
  rcases answer_cases s request a with none_open | unwanted | ⟨x, j, at_x, at_job, -, delivered⟩
  · rw [none_open]
    exact sound
  · rw [unwanted]
    exact sound.close request
  · rw [delivered, setPhase_eq (s := s.close request) at_job]
    refine (sound.close request).replace_wake at_job { j with phase := .answered a } rfl
      (by simp) ?_
    intro y hy same first
    exact absurd (sound.close_answered at_x hy same) (by simp [first])

/-- The first answer to the request of a live job is given to the job. -/
theorem delivered (sound : s.Sound ask) {request : Nat} {x : Sent} {j : Job κ}
    (at_x : s.sent[request]? = some x) (first : x.answered = false)
    (at_job : s.jobs[x.job]? = some j) (live : j.status = .live) (a : Answer) :
    (s.answer request a).2 = .delivered ∧
      (s.answer request a).1.jobs[x.job]? = some { j with phase := .answered a } := by
  have waits : j.phase = .waiting :=
    (sound.unanswered x (List.mem_of_getElem? at_x) first j at_job).resolve_right
      (by simp [(Job.status_eq_live.mp live).1])
  have bound := (List.getElem?_eq_some_iff.mp at_job).1
  have open_x : s.isLive x = true := by simp [isLive, at_job, waits, Phase.isWaiting]
  have same : s.answer request a =
      (((s.close request).setPhase x.job (.answered a)).wake x.job, .delivered) := by
    simp only [Schedule.answer, at_x, first, Bool.false_eq_true, if_false, open_x, if_true,
      close_eq at_x]
  rw [same, wake_jobs, setPhase_eq (s := s.close request) at_job]
  exact ⟨rfl, List.getElem?_set_self bound⟩

end Sound

/-! ## Calls -/

/-- A schedule comes from another by calls. -/
inductive Calls (s : Schedule κ) : Schedule κ → Prop where
  | refl : Calls s s
  | abort {t : Schedule κ} (job : Nat) : Calls s t → Calls s (t.abort job)
  | start {t : Schedule κ} (task : κ) : Calls s t → Calls s (t.start task)
  | answer {t : Schedule κ} (request : Nat) (a : Answer) :
    Calls s t → Calls s (t.answer request a).1

namespace Calls

variable {t u : Schedule κ}

theorem trans (first : s.Calls t) (last : t.Calls u) : s.Calls u := by
  induction last with
  | refl => exact first
  | abort job _ ih => exact ih.abort job
  | start task _ ih => exact ih.start task
  | answer request a _ ih => exact ih.answer request a

theorem sound (calls : s.Calls t) (sound : s.Sound ask) : t.Sound ask := by
  induction calls with
  | refl => exact sound
  | abort job _ ih => exact ih.abort job
  | start task _ ih => exact ih.start task
  | answer request a _ ih => exact ih.answer request a

theorem evolves (calls : s.Calls t) : Ledger.Evolves s.ledger t.ledger := by
  induction calls with
  | refl => exact .refl _
  | @abort t job _ ih =>
    rw [ledger_abort]
    exact ih.trans (.dropJob _ job)
  | @start t task _ ih =>
    rw [ledger_start]
    exact ih.trans (.append _ _)
  | @answer t request a _ ih => rwa [ledger_answer]

/-- Jobs join the agenda at its end. -/
theorem agenda (calls : s.Calls t) : s.agenda <+: t.agenda := by
  induction calls with
  | refl => exact List.prefix_rfl
  | @abort t job _ ih =>
    refine ih.trans ?_
    unfold Schedule.abort
    split
    · exact List.prefix_rfl
    next j _ =>
      split
      · exact List.prefix_rfl
      · exact wake_agenda { t with jobs := t.jobs.set job { j with aborted := true } } job
  | start task _ ih => exact ih.trans (List.prefix_append _ _)
  | @answer t request a _ ih =>
    refine ih.trans ?_
    rcases answer_cases t request a with same | closed | ⟨x, j, -, at_job, -, delivered⟩
    · simp only [same, List.prefix_rfl]
    · simp only [closed, Schedule.close, List.prefix_rfl]
    · have woken := wake_agenda ((t.close request).setPhase x.job (.answered a)) x.job
      rw [setPhase_agenda] at woken
      rw [delivered]
      exact woken

/-- A job that has its answer keeps it. -/
theorem answered (calls : s.Calls t) {n : Nat} {task : κ} {a : Answer} {aborted : Bool}
    (at_n : s.jobs[n]? = some ⟨task, .answered a, aborted⟩) :
    ∃ aborted, t.jobs[n]? = some ⟨task, .answered a, aborted⟩ := by
  induction calls with
  | refl => exact ⟨aborted, at_n⟩
  | @abort t job _ ih =>
    obtain ⟨aborted, at_n⟩ := ih
    unfold Schedule.abort
    split
    · exact ⟨aborted, at_n⟩
    next j at_job =>
      split
      · exact ⟨aborted, at_n⟩
      · rw [wake_jobs]
        by_cases equal : job = n
        · subst equal
          cases at_job.symm.trans at_n
          exact ⟨true, List.getElem?_set_self (List.getElem?_eq_some_iff.mp at_n).1⟩
        · exact ⟨aborted, by rwa [List.getElem?_set_ne equal]⟩
  | @start t task _ ih =>
    obtain ⟨aborted, at_n⟩ := ih
    refine ⟨aborted, ?_⟩
    rwa [Schedule.start, List.getElem?_append_left (List.getElem?_eq_some_iff.mp at_n).1]
  | @answer t request a _ ih =>
    obtain ⟨aborted, at_n⟩ := ih
    refine ⟨aborted, ?_⟩
    rcases answer_cases t request a with same | closed | ⟨x, j, -, at_job, waits, delivered⟩
    · rwa [same]
    · rwa [closed]
    · rw [delivered, wake_jobs, setPhase_eq (s := t.close request) at_job]
      have other : x.job ≠ n := by
        intro equal
        rw [equal] at at_job
        cases at_job.symm.trans at_n
        cases waits
      rwa [List.getElem?_set_ne other]

end Calls

/-! ## Turns -/

/-- What the turn of a job that cannot use an answer does to a schedule. -/
inductive Passes (ask : κ → Request) (s : Schedule κ) (n : Nat) : Schedule κ → Prop where
  | absent : s.jobs[n]? = none → Passes ask s n (s.pick n)
  | idle {j : Job κ} : s.jobs[n]? = some j → j.phase ≠ .queued → j.hasWork = false →
    Passes ask s n (s.pick n)
  | gone {j : Job κ} : s.jobs[n]? = some j → j.aborted = true →
    Passes ask s n ((s.pick n).setPhase n .ended)
  | send {j : Job κ} : s.jobs[n]? = some j → j.phase = .queued → j.aborted = false →
    Passes ask s n ((s.pick n).send n (ask j.task))

namespace Passes

variable {t : Schedule κ} {n : Nat}

theorem sound (passes : s.Passes ask n t) (sound : s.Sound ask) : t.Sound ask := by
  cases passes with
  | absent at_n =>
    have unlisted : n ∉ s.agenda := fun listed => by
      have := List.getElem?_eq_none_iff.mp at_n
      have := sound.known n listed
      omega
    rw [pick, List.erase_of_not_mem unlisted]
    exact sound
  | idle at_n phase idle => exact sound.pick_idle at_n phase idle
  | gone at_n aborted => exact sound.pick_end at_n (.inl aborted)
  | send at_n queued going => exact sound.pick_send at_n queued going

theorem ledger (passes : s.Passes ask n t) : t.ledger = s.ledger := by
  cases passes with
  | absent at_n => rfl
  | idle at_n phase idle => rfl
  | @gone j at_n aborted =>
    rw [ledger_end (s := s.pick n) at_n]
    refine Ledger.useJob_of_ne_live (ledger_of_job (s := s.pick n) at_n) ?_
    rw [Job.status_eq_dropped.mpr aborted]
    simp
  | send at_n queued going => exact ledger_send (s := s.pick n) at_n queued _

theorem other (passes : s.Passes ask n t) {m : Nat} (different : m ≠ n) :
    t.jobs[m]? = s.jobs[m]? := by
  cases passes with
  | absent at_n => rfl
  | idle at_n phase idle => rfl
  | gone at_n _ =>
    rw [setPhase_eq (s := s.pick n) at_n]
    exact List.getElem?_set_ne (Ne.symm different)
  | send at_n queued going =>
    rw [Schedule.send, setPhase_eq (s := s.pick n) at_n]
    exact List.getElem?_set_ne (Ne.symm different)

theorem agenda (passes : s.Passes ask n t) : t.agenda = s.agenda.erase n := by
  cases passes with
  | absent at_n => rfl
  | idle at_n phase idle => rfl
  | gone at_n _ => rw [setPhase_eq (s := s.pick n) at_n]; rfl
  | send at_n queued going => rw [Schedule.send, setPhase_eq (s := s.pick n) at_n]; rfl

end Passes

end Schedule

end MapSidebar
