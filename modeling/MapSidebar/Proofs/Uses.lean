import MapSidebar.Proofs.Linked

/-!
# Answers are used once

Few happenings can abort the jobs of an owner; all others leave them alone, but for a turn in which
one of them uses its answer. In a run of such happenings a job that has its answer uses it in its
first turn, and no run lets a job use an answer twice.
-/
namespace MapSidebar.Stage

/-- Whether a happening may abort a job of an owner. A controller that loads or unloads takes away
the pagers that it owns. -/
def Happening.mayAbort (o : Owner) : Happening → Bool
  | .action (.load i _) | .action (.unload i) =>
    match o with
    | .controller j => i = j
    | .pager _ => true
  | .action (.move k _) | .action (.unmount k) => o = .pager k
  | _ => false

variable {s : Stage} {o : Owner} {n : Nat}

/-! ## What is left alone -/

theorem release_alike (linked : s.Linked) {j : Nat} {c : Controller}
    (at_j : s.controllers[j]? = some c) (foreign : o ≠ .controller j)
    (none_taken : ∀ k, o ≠ .pager k) :
    Alike o s.schedule.ledger (s.release c).schedule.ledger := by
  have both : MapSidebar.Linked (s.release c).schedule.ledger (s.controllers.set j c.unloaded)
      (s.release c).pagers ∧ Alike o s.schedule.ledger (s.release c).schedule.ledger := by
    refine s.release_induction (motive := fun t => MapSidebar.Linked t.schedule.ledger
      (s.controllers.set j c.unloaded) t.pagers ∧ Alike o s.schedule.ledger t.schedule.ledger)
      c ?_ ?_
    · rw [Schedule.ledger_abortSlot]
      exact ⟨linked.unload_controller at_j,
        Alike.dropSlot (linked.controller j c at_j).tied foreign⟩
    · rintro t k - ⟨linked, alike⟩
      refine ⟨Linked.unmount_with linked k, alike.trans ?_⟩
      cases at_k : t.pagers[k]? with
      | none =>
        rw [unmount_of_none at_k]
        exact .refl _ _
      | some p =>
        rw [unmount_eq at_k, Schedule.ledger_abortSlot]
        exact Alike.dropSlot (linked.pager k p at_k).tied (none_taken k)
  exact both.2

theorem mount_alike (known : ∀ k, o = .pager k → k < s.pagers.length) (container : Nat)
    (options : PagerOptions) :
    Alike o s.schedule.ledger (s.mount container options).schedule.ledger := by
  rw [mount, issuePage_eq, Schedule.ledger_start]
  refine Alike.append fun own => ?_
  have := known s.pagers.length own.symm
  omega

theorem mount_pagers_length (s : Stage) (container : Nat) (options : PagerOptions) :
    (s.mount container options).pagers.length = s.pagers.length + 1 := by
  rw [mount, issuePage_eq, List.length_set, List.length_append, List.length_singleton]

theorem applyTask_alike (known : ∀ k, o = .pager k → k < s.pagers.length) (a : Answer)
    (task : StageTask) : Alike o s.schedule.ledger (s.applyTask a task).schedule.ledger := by
  cases task with
  | page k ticket request =>
    rw [applyTask, applyPage_schedule]
    exact .refl _ _
  | content i ticket visit request =>
    rw [applyTask]
    cases at_i : s.controllers[i]? with
    | none =>
      simp only [applyContent, at_i]
      exact .refl _ _
    | some c =>
      cases current : c.sequence.isCurrent ticket with
      | false =>
        rw [applyContent_stale at_i current]
        exact .refl _ _
      | true =>
        rw [applyContent_current at_i current]
        split
        · rw [showContent_schedule]
          exact .refl _ _
        · refine (List.foldlRecOn _ (act i) (motive := fun t : Stage =>
            Alike o s.schedule.ledger t.schedule.ledger ∧ ∀ k, o = .pager k → k < t.pagers.length)
            ?_ ?_).1
          · rw [note_schedule, note_pagers, showContent_schedule, showContent_pagers]
            exact ⟨.refl _ _, known⟩
          · rintro t ⟨alike, known⟩ action -
            cases action with
            | write w => exact ⟨alike, known⟩
            | mount container options =>
              refine ⟨alike.trans (mount_alike known container options), fun k own => ?_⟩
              have := known k own
              have grown := t.mount_pagers_length container options
              simp only [act, attach]
              omega

/-- A turn leaves the jobs of an owner alone, or lets one of them use its answer. -/
theorem turn_alike (known : ∀ k, o = .pager k → k < s.pagers.length) (n : Nat) :
    Alike o s.schedule.ledger (s.turn n).schedule.ledger ∨
      (∃ task a, s.HasAnswer n task a) ∧
        Alike o (s.schedule.ledger.useJob n) (s.turn n).schedule.ledger := by
  rcases s.turn_cases n with ⟨schedule, same, passes⟩ | ⟨task, a, ready⟩
  · rw [same, passes.ledger]
    exact .inl (.refl _ _)
  · have used := applyTask_alike (s := s.finish n) known a task
    rw [finish_ledger ready] at used
    rw [turn_of_hasAnswer ready]
    exact .inr ⟨⟨task, a, ready⟩, used⟩

/-- A happening that may not abort the jobs of an owner leaves them alone, or lets one of them use
its answer. -/
theorem happen_alike (linked : s.Linked) (known : ∀ k, o = .pager k → k < s.pagers.length)
    {h : Happening} (spares : h.mayAbort o = false) :
    Alike o s.schedule.ledger (s.happen h).schedule.ledger ∨
      ∃ n, s.turnOf h = some n ∧ (∃ task a, s.HasAnswer n task a) ∧
        Alike o (s.schedule.ledger.useJob n) (s.happen h).schedule.ledger := by
  cases h with
  | turn n =>
    rcases turn_alike known n with alike | used
    · exact .inl alike
    · exact .inr ⟨n, rfl, used⟩
  | action action =>
    cases action with
    | load j visit =>
      left
      rw [happen, perform]
      cases at_j : s.controllers[j]? with
      | none =>
        rw [load_of_none at_j]
        exact .refl _ _
      | some c =>
        have foreign : o ≠ .controller j := by rintro rfl; simp [Happening.mayAbort] at spares
        have none_taken : ∀ k, o ≠ .pager k := by rintro k rfl; simp [Happening.mayAbort] at spares
        rw [load_eq at_j, start_ledger]
        exact (release_alike linked at_j foreign none_taken).trans (Alike.append (Ne.symm foreign))
    | unload j =>
      left
      rw [happen, perform]
      cases at_j : s.controllers[j]? with
      | none =>
        rw [unload_of_none at_j]
        exact .refl _ _
      | some c =>
        have foreign : o ≠ .controller j := by rintro rfl; simp [Happening.mayAbort] at spares
        have none_taken : ∀ k, o ≠ .pager k := by rintro k rfl; simp [Happening.mayAbort] at spares
        rw [unload_eq at_j, writeAll_schedule]
        exact release_alike linked at_j foreign none_taken
    | mount container options => exact .inl (mount_alike known container options)
    | move k m =>
      left
      have foreign : o ≠ .pager k := by rintro rfl; simp [Happening.mayAbort] at spares
      rcases s.perform_move_cases k m with same | ⟨p, target, at_k, -, issued⟩
      · rw [happen, same]
        exact .refl _ _
      · rw [happen, issued, issuePage_eq, Schedule.ledger_start, Schedule.ledger_abortSlot]
        exact (Alike.dropSlot (linked.pager k p at_k).tied foreign).trans
          (Alike.append (Ne.symm foreign))
    | unmount k =>
      left
      have foreign : o ≠ .pager k := by rintro rfl; simp [Happening.mayAbort] at spares
      rw [happen, perform]
      cases at_k : s.pagers[k]? with
      | none =>
        rw [unmount_of_none at_k]
        exact .refl _ _
      | some p =>
        rw [unmount_eq at_k, Schedule.ledger_abortSlot]
        exact Alike.dropSlot (linked.pager k p at_k).tied foreign
    | answer request a =>
      left
      rw [happen, perform, Schedule.ledger_answer]
      exact .refl _ _
    | step =>
      rw [happen, perform]
      rcases s.step_cases with ⟨-, same⟩ | ⟨n, rest, agenda, turned⟩
      · rw [same]
        exact .inl (.refl _ _)
      · rw [turned]
        rcases turn_alike known n with alike | used
        · exact .inl alike
        · exact .inr ⟨n, by simp [turnOf, agenda], used⟩

/-- What is known of the pagers stays known. -/
theorem Linked.owner_known (linked : s.Linked) {t : StageTask} {st : JobStatus}
    (at_n : s.schedule.ledger[n]? = some (t, st)) :
    ∀ k, t.owner = .pager k → k < s.pagers.length :=
  fun k own => linked.pagers n t st k at_n own

/-- A job that has not been aborted is not aborted by happenings that may not do so. -/
theorem Linked.spared (linked : s.Linked) {t : StageTask} {st : JobStatus}
    (at_n : s.schedule.ledger[n]? = some (t, st)) (kept : st ≠ .dropped) (later : List Happening)
    (spares : ∀ h ∈ later, h.mayAbort t.owner = false) :
    ∃ st', (s.run later).schedule.ledger[n]? = some (t, st') ∧ st' ≠ .dropped := by
  induction later generalizing s st with
  | nil => exact ⟨st, at_n, kept⟩
  | cons h later ih =>
    have rest : ∀ h' ∈ later, h'.mayAbort t.owner = false := fun h' hh => spares h' (by simp [hh])
    have next : ∃ st', (s.happen h).schedule.ledger[n]? = some (t, st') ∧ st' ≠ .dropped := by
      rcases happen_alike linked (linked.owner_known at_n) (spares h (by simp)) with
        alike | ⟨m, -, -, alike⟩
      · exact ⟨st, (alike n t st rfl).mpr at_n, kept⟩
      · refine ⟨_, (alike n t _ rfl).mpr (Ledger.useJob_entry.mpr ⟨st, at_n, rfl⟩), ?_⟩
        split
        · exact fun dropped => kept (JobStatus.use_eq_dropped.mp dropped)
        · exact kept
    obtain ⟨st', at_n', kept'⟩ := next
    exact ih (linked.happen h) at_n' kept' rest

/-! ## How often an answer is used -/

/-- A happening that is not the turn of job `n` takes at most one other job off the agenda and leaves
the rest to calls. -/
theorem happen_other (s : Stage) {h : Happening} (other : s.turnOf h ≠ some n) :
    ∃ t : Schedule StageTask, t.jobs[n]? = s.schedule.jobs[n]? ∧
      (s.turnOf h = none ∧ t.agenda = s.schedule.agenda ∨
        ∃ m, s.turnOf h = some m ∧ m ≠ n ∧ t.agenda = s.schedule.agenda.erase m) ∧
      t.Calls (s.happen h).schedule := by
  rcases s.happen_cases h with ⟨m, given, turned⟩ | ⟨none_given, calls⟩
  · have different : n ≠ m := fun equal => other (equal ▸ given)
    rw [turned]
    rcases s.turn_cases m with ⟨schedule, same, passes⟩ | ⟨task, a, ready⟩
    · rw [same]
      exact ⟨schedule, passes.other different,
        .inr ⟨m, given, Ne.symm different, passes.agenda⟩, .refl⟩
    · rw [turn_of_hasAnswer ready]
      refine ⟨(s.finish m).schedule, ?_, .inr ⟨m, given, Ne.symm different, ?_⟩,
        (s.finish m).applyTask_calls a task⟩
      · rw [finish, Schedule.setPhase_eq (s := s.schedule.pick m) ready]
        exact List.getElem?_set_ne (Ne.symm different)
      · exact Schedule.setPhase_agenda _ _ _
  · exact ⟨s.schedule, rfl, .inl ⟨none_given, rfl⟩, calls⟩

/-- A job that has its answer keeps it until its turn, unless it is aborted. -/
theorem HasAnswer.happen {task : StageTask} {a : Answer} (ready : s.HasAnswer n task a)
    {h : Happening} (other : s.turnOf h ≠ some n)
    (kept : (s.happen h).schedule.ledger[n]? ≠ some (task, .dropped)) :
    (s.happen h).HasAnswer n task a := by
  obtain ⟨t, same, -, calls⟩ := s.happen_other other
  obtain ⟨aborted, at_n⟩ := calls.answered (same.trans ready)
  cases aborted with
  | false => exact at_n
  | true => exact absurd (Schedule.ledger_of_job at_n) kept

/-- An answer changes nothing before its job has its turn, and no job is aborted by it. -/
theorem answer_frame (s : Stage) (request : Nat) (a : Answer) :
    ∃ schedule, s.happen (.action (.answer request a)) = { s with schedule } ∧
      schedule.ledger = s.schedule.ledger :=
  ⟨_, rfl, s.schedule.ledger_answer request a⟩

/-- The turn of a job that is not live changes nothing, and no job is aborted by it. -/
theorem turn_of_ne_live {t : StageTask} {st : JobStatus}
    (at_n : s.schedule.ledger[n]? = some (t, st)) (dead : st ≠ .live) :
    ∃ schedule, s.turn n = { s with schedule } ∧ schedule.ledger = s.schedule.ledger := by
  rcases s.turn_cases n with ⟨schedule, same, passes⟩ | ⟨task, a, ready⟩
  · exact ⟨schedule, same, passes.ledger⟩
  · cases at_n.symm.trans ready.entry
    exact absurd rfl dead

end MapSidebar.Stage
