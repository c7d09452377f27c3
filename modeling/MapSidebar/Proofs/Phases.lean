import MapSidebar.Proofs.Agenda

/-!
# How far the jobs have come

A job begins when it is first given its turn, and runs until it ends. A schedule is in order when
every request on it was sent by a job that has begun, no job has sent two, every job that runs has
sent one, and the request of a job that waits is open (`Posted`). Calls keep that order, and so do the
steps of a job: it sends a request when it begins, or it ends. Nothing is assumed here about what a job
asks for.
-/
namespace MapSidebar

variable {κ : Type}

namespace Phase

/-- Whether a job has begun; it may have ended. -/
def hasBegun : Phase → Bool
  | queued => false
  | waiting => true
  | answered _ => true
  | ended => true

/-- Whether a job has begun and has not ended. -/
def isRunning : Phase → Bool
  | queued => false
  | waiting => true
  | answered _ => true
  | ended => false

end Phase

namespace Schedule

variable {s t : Schedule κ} {n : Nat}

def phases (s : Schedule κ) : List Phase := s.jobs.map (·.phase)

/-- The requests that have been sent, each with its job. -/
def posts (s : Schedule κ) : List (Nat × Request) := s.sent.map fun x => (x.job, x.request)

theorem phase_of_job {j : Job κ} (at_n : s.jobs[n]? = some j) : s.phases[n]? = some j.phase := by
  simp [phases, at_n]

/-! ## What changes the phases -/

@[simp] theorem phases_start (s : Schedule κ) (task : κ) :
    (s.start task).phases = s.phases ++ [.queued] := by
  simp [phases, start]

@[simp] theorem phases_pick (s : Schedule κ) (n : Nat) : (s.pick n).phases = s.phases := rfl

@[simp] theorem phases_wake (s : Schedule κ) (n : Nat) : (s.wake n).phases = s.phases := by
  simp [phases]

@[simp] theorem phases_close (s : Schedule κ) (request : Nat) :
    (s.close request).phases = s.phases := rfl

@[simp] theorem phases_setPhase (s : Schedule κ) (n : Nat) (ph : Phase) :
    (s.setPhase n ph).phases = s.phases.set n ph := by
  unfold setPhase phases
  split
  next absent => rw [List.set_eq_of_length_le (by simpa using absent)]
  next j at_n => rw [List.map_set]

@[simp] theorem sent_setPhase (s : Schedule κ) (n : Nat) (ph : Phase) :
    (s.setPhase n ph).sent = s.sent := by
  unfold setPhase
  split <;> rfl

@[simp] theorem phases_send (s : Schedule κ) (n : Nat) (request : Request) :
    (s.send n request).phases = s.phases.set n .waiting :=
  phases_setPhase s n .waiting

@[simp] theorem sent_send (s : Schedule κ) (n : Nat) (request : Request) :
    (s.send n request).sent = s.sent ++ [{ job := n, request }] := by
  simp [send]

@[simp] theorem phases_abort (s : Schedule κ) (n : Nat) : (s.abort n).phases = s.phases := by
  unfold abort
  split
  · rfl
  next j at_n =>
    split
    · rfl
    · rw [phases_wake, phases, List.map_set]
      obtain ⟨bound, same⟩ := List.getElem?_eq_some_iff.mp (phase_of_job at_n)
      exact same ▸ List.set_getElem_self bound

theorem close_entry {request : Nat} {y : Sent} (at_y : y ∈ (s.close request).sent) :
    y ∈ s.sent ∨ ∃ x, s.sent[request]? = some x ∧ y = { x with answered := true } := by
  obtain ⟨k, at_k⟩ := List.getElem?_of_mem at_y
  by_cases equal : request = k
  · subst equal
    simp only [close, List.getElem?_modify_eq, Option.map_eq_map, Option.map_eq_some_iff] at at_k
    obtain ⟨x, at_x, rfl⟩ := at_k
    exact .inr ⟨x, at_x, rfl⟩
  · simp only [close, List.getElem?_modify_ne _ _ equal] at at_k
    exact .inl (List.mem_of_getElem? at_k)

theorem close_map {α : Type} (s : Schedule κ) (request : Nat) (f : Sent → α)
    (blind : ∀ x, f { x with answered := true } = f x) :
    (s.close request).sent.map f = s.sent.map f := by
  apply List.ext_getElem?
  intro k
  by_cases equal : request = k
  · subst equal
    simp [close, Function.comp_def, blind]
  · simp [close, equal]

/-! ## Jobs in a phase of some kind -/

/-- A job is in a phase of some kind. -/
def In (s : Schedule κ) (n : Nat) (kind : Phase → Bool) : Prop :=
  ∃ ph, s.phases[n]? = some ph ∧ kind ph = true

/-- A job has begun; it may have ended. -/
abbrev HasBegun (s : Schedule κ) (n : Nat) : Prop := s.In n Phase.hasBegun

/-- A job has begun and has not ended. -/
abbrev Runs (s : Schedule κ) (n : Nat) : Prop := s.In n Phase.isRunning

/-- A job waits for its answer. -/
abbrev Waits (s : Schedule κ) (n : Nat) : Prop := s.In n Phase.isWaiting

variable {kind : Phase → Bool}

theorem not_in {ph : Phase} (at_n : s.phases[n]? = some ph) (other : kind ph = false) :
    ¬ s.In n kind := by
  rintro ⟨same, at_same, holds⟩
  cases at_n.symm.trans at_same
  simp [other] at holds

theorem waits_iff : s.Waits n ↔ s.phases[n]? = some .waiting := by
  constructor
  · rintro ⟨ph, at_n, waits⟩
    cases ph <;> simp_all [Phase.isWaiting]
  · exact fun at_n => ⟨.waiting, at_n, rfl⟩

theorem isLive_iff {x : Sent} : s.isLive x = true ↔ s.Waits x.job := by
  cases at_x : s.jobs[x.job]? with
  | none => simp [isLive, In, phases, at_x]
  | some j => simp [isLive, In, phases, at_x]

theorem in_congr (same : t.phases = s.phases) (m : Nat) : t.In m kind ↔ s.In m kind := by
  simp only [In, same]

/-- When one phase is replaced, only that job may be in a phase of another kind than before. -/
theorem in_set {old ph : Phase} (known : s.phases[n]? = some old)
    (phases : t.phases = s.phases.set n ph) (m : Nat) :
    t.In m kind ↔ if m = n then kind ph = true else s.In m kind := by
  have bound := (List.getElem?_eq_some_iff.mp known).1
  split
  next equal => simp [In, phases, equal, List.getElem?_set_self bound]
  next other => simp [In, phases, List.getElem?_set_ne (Ne.symm other)]

theorem in_start (fresh : kind .queued = false) (task : κ) (m : Nat) :
    (s.start task).In m kind ↔ s.In m kind := by
  simp only [In, phases_start, List.getElem?_append]
  split
  · rfl
  next beyond =>
    have absent : s.phases[m]? = none := by simpa using beyond
    simp only [absent, List.getElem?_singleton]
    split <;> simp [fresh]

/-- An answer does nothing, or closes a request whose job does not wait, or is given to a job that
waits for it. -/
theorem answer_phases (s : Schedule κ) (request : Nat) (a : Answer) :
    (s.answer request a).1 = s ∨
    ∃ x, s.sent[request]? = some x ∧
      ((¬ s.Waits x.job ∧ (s.answer request a).1 = s.close request) ∨
        (s.Waits x.job ∧ (s.answer request a).1 =
          ((s.close request).setPhase x.job (.answered a)).wake x.job)) := by
  unfold answer
  split
  · exact .inl rfl
  next x at_x =>
    split
    · exact .inl rfl
    · dsimp only
      rw [close_eq at_x]
      refine .inr ⟨x, at_x, ?_⟩
      split
      next live => exact .inr ⟨isLive_iff.mp live, rfl⟩
      next dead => exact .inl ⟨fun waits => dead (isLive_iff.mpr waits), rfl⟩

theorem length_answer (s : Schedule κ) (request : Nat) (a : Answer) :
    (s.answer request a).1.phases.length = s.phases.length := by
  rcases answer_phases s request a with same | ⟨x, -, ⟨-, closed⟩ | ⟨-, given⟩⟩
  · rw [same]
  · rw [closed, phases_close]
  · simp [given]

theorem in_answer {a : Answer} (same : kind (.answered a) = kind .waiting) (request m : Nat) :
    (s.answer request a).1.In m kind ↔ s.In m kind := by
  rcases answer_phases s request a with none | ⟨x, -, ⟨-, closed⟩ | ⟨waits, given⟩⟩
  · rw [none]
  · rw [closed]
    exact in_congr (phases_close s request) m
  · have waiting := waits_iff.mp waits
    have phases : (s.answer request a).1.phases = s.phases.set x.job (.answered a) := by
      simp [given]
    rw [in_set waiting phases]
    split
    next equal => simp [In, equal, waiting, same]
    next => rfl

/-- Calls begin no job and end none. -/
theorem Calls.in_iff (calls : s.Calls t) (fresh : kind .queued = false)
    (same : ∀ a, kind (.answered a) = kind .waiting) (m : Nat) : t.In m kind ↔ s.In m kind := by
  induction calls with
  | refl => rfl
  | abort job _ ih => exact (in_congr (phases_abort _ job) m).trans ih
  | start task _ ih => exact (in_start fresh task m).trans ih
  | answer request a _ ih => exact (in_answer (same a) request m).trans ih

theorem Calls.runs_iff (calls : s.Calls t) (m : Nat) : t.Runs m ↔ s.Runs m :=
  calls.in_iff rfl (fun _ => rfl) m

/-- The first answer to the request of a job that waits is given to the job. -/
theorem answer_of_waits {request : Nat} {x : Sent} {j : Job κ}
    (at_x : s.sent[request]? = some x) (first : x.answered = false)
    (at_job : s.jobs[x.job]? = some j) (waits : j.phase = .waiting) (a : Answer) :
    (s.answer request a).2 = .delivered ∧
      (s.answer request a).1.jobs[x.job]? = some { j with phase := .answered a } := by
  have bound := (List.getElem?_eq_some_iff.mp at_job).1
  have live : s.isLive x = true := isLive_iff.mpr (waits_iff.mpr (waits ▸ phase_of_job at_job))
  simp only [answer, at_x, first, live, close_eq at_x, Bool.false_eq_true, if_false, if_true,
    wake_jobs, setPhase_eq (s := s.close request) at_job, true_and]
  exact List.getElem?_set_self bound

/-- No job that has begun begins again, and none that has ended runs again. -/
def Advances (s t : Schedule κ) : Prop :=
  ∀ n, s.HasBegun n → t.HasBegun n ∧ (t.Runs n → s.Runs n)

namespace Advances

theorem of_eq (same : t.phases = s.phases) : s.Advances t := fun m begun =>
  ⟨(in_congr same m).mpr begun, (in_congr same m).mp⟩

theorem set {old ph : Phase} (known : s.phases[n]? = some old)
    (phases : t.phases = s.phases.set n ph) (begun : ph.hasBegun = true)
    (back : ph.isRunning = true → old.hasBegun = true → old.isRunning = true) :
    s.Advances t := by
  intro m before
  rw [HasBegun, in_set known phases, Runs, in_set known phases]
  split
  next equal =>
    refine ⟨begun, fun runs => ⟨old, equal ▸ known, back runs ?_⟩⟩
    obtain ⟨same, at_m, began⟩ := before
    cases known.symm.trans (equal ▸ at_m)
    exact began
  next => exact ⟨before, id⟩

theorem of_calls (calls : s.Calls t) : s.Advances t := fun m begun =>
  ⟨(calls.in_iff rfl (fun _ => rfl) m).mpr begun, (calls.runs_iff m).mp⟩

end Advances

/-! ## Requests and the jobs that sent them -/

def requestsOf (s : Schedule κ) (n : Nat) : List Request :=
  (s.posts.filter (·.1 = n)).map Prod.snd

theorem posts_answer (s : Schedule κ) (request : Nat) (a : Answer) :
    (s.answer request a).1.posts = s.posts := by
  have closed : (s.close request).posts = s.posts := close_map s request _ fun _ => rfl
  rcases answer_phases s request a with same | ⟨x, -, ⟨-, unwanted⟩ | ⟨-, given⟩⟩
  · rw [same]
  · rw [unwanted, closed]
  · rw [given, posts, wake_sent, sent_setPhase]
    exact closed

theorem Calls.posts (calls : s.Calls t) : t.posts = s.posts := by
  induction calls with
  | refl => rfl
  | abort job _ ih => rw [Schedule.posts, sent_abort, ← Schedule.posts, ih]
  | start task _ ih => exact ih
  | answer request a _ ih => rw [posts_answer, ih]

theorem live_length_eq (s : Schedule κ) : s.live.length = (s.sent.filter s.isLive).length := by
  have same : (s.sent.zipIdx.filter (s.isLive ∘ Prod.fst)).map Prod.fst =
      s.sent.filter s.isLive := by
    rw [← List.filter_map, List.zipIdx_map_fst]
  rw [← same, List.length_map, live, List.length_map]
  rfl

/-- The requests of a schedule are those of jobs that have begun, one each, and open as long as the
job waits. -/
structure Posted (s : Schedule κ) : Prop where
  once : (s.sent.map Sent.job).Nodup
  begun : ∀ x ∈ s.sent, s.HasBegun x.job
  out : ∀ n, s.Runs n → ∃ x ∈ s.sent, x.job = n
  unanswered : ∀ x ∈ s.sent, s.Waits x.job → x.answered = false

namespace Posted

theorem empty : ({} : Schedule κ).Posted where
  once := .nil
  begun := by simp
  out := by simp [In, phases]
  unanswered := by simp

theorem of_eq (posted : s.Posted) (phases : t.phases = s.phases) (sent : t.sent = s.sent) :
    t.Posted where
  once := sent ▸ posted.once
  begun x hx := (in_congr phases x.job).mpr (posted.begun x (sent ▸ hx))
  out n runs := sent ▸ posted.out n ((in_congr phases n).mp runs)
  unanswered x hx waits := posted.unanswered x (sent ▸ hx) ((in_congr phases x.job).mp waits)

theorem start (posted : s.Posted) (task : κ) : (s.start task).Posted where
  once := posted.once
  begun x hx := (in_start rfl task x.job).mpr (posted.begun x hx)
  out n runs := posted.out n ((in_start rfl task n).mp runs)
  unanswered x hx waits := posted.unanswered x hx ((in_start rfl task x.job).mp waits)

/-- A job that does not wait may have its answer, if it has sent its request, or have ended. -/
theorem replace (posted : s.Posted) {old ph : Phase} (known : s.phases[n]? = some old)
    (phases : t.phases = s.phases.set n ph) (sent : t.sent = s.sent) (begun : ph.hasBegun = true)
    (out : ph.isRunning = true → ∃ x ∈ s.sent, x.job = n) (settled : ph.isWaiting = false) :
    t.Posted where
  once := sent ▸ posted.once
  begun x hx := by
    rw [HasBegun, in_set known phases]
    split
    · exact begun
    · exact posted.begun x (sent ▸ hx)
  out m runs := by
    rw [Runs, in_set known phases] at runs
    rw [sent]
    split at runs
    next equal => exact equal ▸ out runs
    next => exact posted.out m runs
  unanswered x hx waits := by
    rw [Waits, in_set known phases] at waits
    split at waits
    · simp [settled] at waits
    · exact posted.unanswered x (sent ▸ hx) waits

/-- A job sends its request when it begins. -/
theorem send (posted : s.Posted) (queued : s.phases[n]? = some .queued) {request : Request}
    (phases : t.phases = s.phases.set n .waiting)
    (sent : t.sent = s.sent ++ [{ job := n, request }]) : t.Posted := by
  have unsent : ∀ x ∈ s.sent, x.job ≠ n := fun x hx equal =>
    not_in queued rfl (equal ▸ posted.begun x hx)
  refine ⟨?_, ?_, ?_, ?_⟩
  · rw [sent, List.map_append]
    refine List.nodup_append.mpr ⟨posted.once, List.pairwise_singleton _ n, ?_⟩
    intro m hm k hk equal
    obtain ⟨x, hx, rfl⟩ := List.mem_map.mp hm
    exact unsent x hx (equal.trans (by simpa using hk))
  · intro x hx
    rw [HasBegun, in_set queued phases]
    split
    · rfl
    next other =>
      rw [sent, List.mem_append, List.mem_singleton] at hx
      rcases hx with old | rfl
      · exact posted.begun x old
      · exact absurd rfl other
  · intro m runs
    rw [Runs, in_set queued phases] at runs
    simp only [sent, List.mem_append, List.mem_singleton]
    split at runs
    next equal => exact ⟨_, .inr rfl, equal.symm⟩
    next =>
      obtain ⟨x, hx, same⟩ := posted.out m runs
      exact ⟨x, .inl hx, same⟩
  · intro x hx waits
    rw [sent, List.mem_append, List.mem_singleton] at hx
    rcases hx with old | rfl
    · rw [Waits, in_set queued phases, if_neg (unsent x old)] at waits
      exact posted.unanswered x old waits
    · rfl

/-- A request may be closed when its job does not wait. -/
theorem close (posted : s.Posted) {request : Nat} {x : Sent} (at_x : s.sent[request]? = some x)
    (idle : ¬ s.Waits x.job) : (s.close request).Posted where
  once := close_map s request Sent.job (fun _ => rfl) ▸ posted.once
  begun y hy := by
    rcases close_entry hy with old | ⟨z, at_z, rfl⟩
    · exact posted.begun y old
    · exact posted.begun z (List.mem_of_getElem? at_z)
  out m runs := by
    obtain ⟨y, hy, same⟩ := posted.out m runs
    have listed : m ∈ (s.close request).sent.map Sent.job := by
      rw [close_map s request Sent.job fun _ => rfl]
      exact List.mem_map.mpr ⟨y, hy, same⟩
    exact List.mem_map.mp listed
  unanswered y hy waits := by
    rcases close_entry hy with old | ⟨z, at_z, rfl⟩
    · exact posted.unanswered y old waits
    · cases at_x.symm.trans at_z
      exact absurd waits idle

theorem answer (posted : s.Posted) (request : Nat) (a : Answer) :
    (s.answer request a).1.Posted := by
  rcases answer_phases s request a with same | ⟨x, at_x, ⟨idle, closed⟩ | ⟨waits, given⟩⟩
  · rwa [same]
  · rw [closed]
    exact posted.close at_x idle
  · -- The job is moved on first: a request may not be closed while its job waits.
    have waiting := waits_iff.mp waits
    have phases := phases_setPhase s x.job (.answered a)
    have moved : (s.setPhase x.job (.answered a)).Posted :=
      posted.replace waiting phases (sent_setPhase _ _ _) rfl
        (fun _ => ⟨x, List.mem_of_getElem? at_x, rfl⟩) rfl
    have sent : (s.setPhase x.job (.answered a)).sent[request]? = some x := by simpa using at_x
    have settled : ¬ (s.setPhase x.job (.answered a)).Waits x.job := by
      rw [Waits, in_set waiting phases]
      simp [Phase.isWaiting]
    rw [given]
    exact (moved.close sent settled).of_eq (by simp) (by simp [Schedule.close])

theorem calls (posted : s.Posted) (calls : s.Calls t) : t.Posted := by
  induction calls with
  | refl => exact posted
  | abort job _ ih => exact ih.of_eq (phases_abort _ job) (sent_abort _ job)
  | start task _ ih => exact ih.start task
  | answer request a _ ih => exact ih.answer request a

/-- A job that has not begun has sent nothing. -/
theorem requestsOf_queued (posted : s.Posted) (queued : s.phases[n]? = some .queued) :
    s.requestsOf n = [] := by
  simp only [requestsOf, posts, List.map_eq_nil_iff, List.filter_eq_nil_iff, List.mem_map,
    decide_eq_true_eq]
  rintro _ ⟨x, hx, rfl⟩ rfl
  exact not_in queued rfl (posted.begun x hx)

/-- When all jobs that wait are one, at most one request waits for its answer. -/
theorem live_length (posted : s.Posted) (alone : ∀ m k, s.Waits m → s.Waits k → m = k) :
    s.live.length ≤ 1 := by
  have once : ((s.sent.filter s.isLive).map Sent.job).Nodup :=
    posted.once.sublist (List.filter_sublist.map _)
  have same : ∀ m ∈ (s.sent.filter s.isLive).map Sent.job, s.Waits m := by
    intro m hm
    obtain ⟨x, hx, rfl⟩ := List.mem_map.mp hm
    exact isLive_iff.mp (List.mem_filter.mp hx).2
  rw [live_length_eq, ← List.length_map Sent.job]
  match (s.sent.filter s.isLive).map Sent.job, once, same with
  | [], _, _ => simp
  | [m], _, _ => simp
  | m :: k :: rest, once, same =>
    have equal := alone m k (same m (by simp)) (same k (by simp))
    simp [equal] at once

end Posted

end Schedule

end MapSidebar
