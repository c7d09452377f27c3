import MapSidebar.Proofs.Agenda
import MapSidebar.Stage.Basic

/-!
# What each call on a stage touches

Each call leaves most of a stage as it is. The lemmas here say which parts, and how the others come
out, so that no later proof has to open a call.
-/
namespace MapSidebar

/-- Aborts the job in a slot, if there is one. -/
def Schedule.abortSlot {κ : Type} (s : Schedule κ) : Option Nat → Schedule κ
  | some job => s.abort job
  | none => s

namespace Schedule

variable {κ : Type}

@[simp] theorem abort_length (s : Schedule κ) (job : Nat) :
    (s.abort job).jobs.length = s.jobs.length := by
  have same := congrArg List.length (ledger_abort s job)
  simpa [Ledger.dropJob] using same

theorem ledger_abortSlot (s : Schedule κ) (slot : Option Nat) :
    (s.abortSlot slot).ledger = s.ledger.dropSlot slot := by
  cases slot with
  | none => rfl
  | some job => exact ledger_abort s job

@[simp] theorem abortSlot_nextJob (s : Schedule κ) (slot : Option Nat) :
    (s.abortSlot slot).nextJob = s.nextJob := by
  cases slot with
  | none => rfl
  | some job => exact abort_length s job

theorem abortSlot_calls (s : Schedule κ) (slot : Option Nat) : s.Calls (s.abortSlot slot) := by
  cases slot with
  | none => exact .refl
  | some job => exact .abort job .refl

end Schedule

/-- After a replacement an entry is the new one or an old one from elsewhere. -/
theorem entry_of_set {α : Type} {l : List α} {i j : Nat} {a b : α}
    (at_j : (l.set i a)[j]? = some b) : i = j ∧ b = a ∨ i ≠ j ∧ l[j]? = some b := by
  by_cases equal : i = j
  · subst equal
    have bound := (List.getElem?_eq_some_iff.mp at_j).1
    rw [List.length_set] at bound
    rw [List.getElem?_set_self bound, Option.some.injEq] at at_j
    exact .inl ⟨rfl, at_j.symm⟩
  · rw [List.getElem?_set_ne equal] at at_j
    exact .inr ⟨equal, at_j⟩

def Screen.update (s : Screen) (container : Nat) (f : Container → Container) : Screen :=
  { s with containers := s.containers.modify container f }

@[simp] theorem Screen.update_sidebar (s : Screen) (container : Nat) (f : Container → Container) :
    (s.update container f).sidebar = s.sidebar := rfl

@[simp] theorem Screen.update_focus (s : Screen) (container : Nat) (f : Container → Container) :
    (s.update container f).focus = s.focus := rfl

namespace Stage

variable (s : Stage)

/-! ## Writes -/

@[simp] theorem note_screen (e : StageEvent) : (s.note e).screen = s.screen := rfl
@[simp] theorem note_controllers (e : StageEvent) : (s.note e).controllers = s.controllers := rfl
@[simp] theorem note_pagers (e : StageEvent) : (s.note e).pagers = s.pagers := rfl
@[simp] theorem note_schedule (e : StageEvent) : (s.note e).schedule = s.schedule := rfl
@[simp] theorem note_log (e : StageEvent) : (s.note e).log = s.log ++ [e] := rfl

theorem writeAll_eq (ws : List ScreenWrite) :
    s.writeAll ws = { s with
      screen := ws.foldl (fun screen w => w.apply screen) s.screen
      log := s.log ++ ws.map .write } := by
  induction ws generalizing s with
  | nil => simp [writeAll]
  | cons w ws ih =>
    have rest := ih (s.write w)
    simp only [writeAll, List.foldl_cons] at rest ⊢
    rw [rest]
    simp [write]

/-- Writes to a container change that container alone. -/
theorem writeContainer_eq (container : Nat) (ws : List ContainerWrite) :
    s.writeContainer container ws = { s with
      screen := s.screen.update container fun c => ws.foldl (fun c w => w.apply c) c
      log := s.log ++ ws.map fun w => .write (.container container w) } := by
  have written : ∀ screen : Screen,
      (ws.map (ScreenWrite.container container)).foldl (fun screen w => w.apply screen) screen =
        screen.update container fun c => ws.foldl (fun c w => w.apply c) c := by
    induction ws with
    | nil => exact fun screen => congrArg (Screen.mk _ _) (List.modify_id _ _).symm
    | cons w ws ih =>
      intro screen
      rw [List.map_cons, List.foldl_cons, ih]
      simp only [ScreenWrite.apply, Screen.update, List.modify_modify_eq, List.foldl_cons,
        Function.comp_def]
  rw [writeContainer, writeAll_eq, written]
  simp [Function.comp_def]

@[simp] theorem writeAll_controllers (ws : List ScreenWrite) :
    (s.writeAll ws).controllers = s.controllers := by rw [writeAll_eq]

@[simp] theorem writeAll_pagers (ws : List ScreenWrite) :
    (s.writeAll ws).pagers = s.pagers := by rw [writeAll_eq]

@[simp] theorem writeAll_schedule (ws : List ScreenWrite) :
    (s.writeAll ws).schedule = s.schedule := by rw [writeAll_eq]

@[simp] theorem writeContainer_controllers (container : Nat) (ws : List ContainerWrite) :
    (s.writeContainer container ws).controllers = s.controllers := by rw [writeContainer_eq]

@[simp] theorem writeContainer_pagers (container : Nat) (ws : List ContainerWrite) :
    (s.writeContainer container ws).pagers = s.pagers := by rw [writeContainer_eq]

@[simp] theorem writeContainer_schedule (container : Nat) (ws : List ContainerWrite) :
    (s.writeContainer container ws).schedule = s.schedule := by rw [writeContainer_eq]

@[simp] theorem writeContainer_sidebar (container : Nat) (ws : List ContainerWrite) :
    (s.writeContainer container ws).screen.sidebar = s.screen.sidebar := by
  rw [writeContainer_eq, Screen.update_sidebar]

@[simp] theorem writeContainer_focus (container : Nat) (ws : List ContainerWrite) :
    (s.writeContainer container ws).screen.focus = s.screen.focus := by
  rw [writeContainer_eq, Screen.update_focus]

/-! ## Jobs -/

theorem abort_eq (slot : Option Nat) :
    s.abort slot = { s with schedule := s.schedule.abortSlot slot } := by
  cases slot <;> rfl

/-- Every job that is started is for a task of its own, and is live. -/
theorem start_ledger (task : StageTask) :
    (s.start task).schedule.ledger = s.schedule.ledger ++ [(task, .live)] :=
  Schedule.ledger_start s.schedule task

/-! ## Pagers -/

theorem issuePage_eq (k : Nat) (p : Pager) (target : PageTarget) :
    s.issuePage k p target = { s with
      pagers := s.pagers.set k (p.issue target s.schedule.nextJob)
      schedule := (s.schedule.abortSlot p.task).start
        (.page k p.nextTicket (p.requestFor target)) } := by
  simp only [issuePage, abort_eq, setPager, start, Schedule.abortSlot_nextJob]

@[simp] theorem issuePage_controllers (k : Nat) (p : Pager) (target : PageTarget) :
    (s.issuePage k p target).controllers = s.controllers := by rw [issuePage_eq]

@[simp] theorem issuePage_screen (k : Nat) (p : Pager) (target : PageTarget) :
    (s.issuePage k p target).screen = s.screen := by rw [issuePage_eq]

@[simp] theorem issuePage_log (k : Nat) (p : Pager) (target : PageTarget) :
    (s.issuePage k p target).log = s.log := by rw [issuePage_eq]

@[simp] theorem mount_controllers (container : Nat) (options : PagerOptions) :
    (s.mount container options).controllers = s.controllers := issuePage_controllers _ _ _ _

@[simp] theorem mount_screen (container : Nat) (options : PagerOptions) :
    (s.mount container options).screen = s.screen := issuePage_screen _ _ _ _

@[simp] theorem mount_log (container : Nat) (options : PagerOptions) :
    (s.mount container options).log = s.log := issuePage_log _ _ _ _

variable {s}

theorem unmount_eq {k : Nat} {p : Pager} (h : s.pagers[k]? = some p) :
    s.unmount k = { s with
      screen := s.screen.update p.container fun _ => {}
      pagers := s.pagers.set k p.unmounted
      schedule := s.schedule.abortSlot p.task
      log := s.log ++ Pager.unmountWrites.map fun w => .write (.container p.container w) } := by
  simp only [unmount, h, abort_eq, setPager, writeContainer_eq, Pager.unmountWrites,
    List.foldl_cons, List.foldl_nil, ContainerWrite.apply, Write.apply]

theorem unmount_of_none {k : Nat} (h : s.pagers[k]? = none) : s.unmount k = s := by
  simp [unmount, h]

variable (s)

@[simp] theorem unmount_controllers (k : Nat) : (s.unmount k).controllers = s.controllers := by
  cases h : s.pagers[k]? with
  | none => rw [unmount_of_none h]
  | some p => rw [unmount_eq h]

@[simp] theorem unmount_nextJob (k : Nat) :
    (s.unmount k).schedule.nextJob = s.schedule.nextJob := by
  cases h : s.pagers[k]? with
  | none => rw [unmount_of_none h]
  | some p => rw [unmount_eq h, Schedule.abortSlot_nextJob]

/-- A move is refused and changes nothing, or asks for the page that was wanted. -/
theorem perform_move_cases (k : Nat) (m : PageMove) :
    s.perform (.move k m) = s ∨ ∃ p target, s.pagers[k]? = some p ∧
      p.request? m = .ok (some target) ∧ s.perform (.move k m) = s.issuePage k p target := by
  cases h : s.pagers[k]? with
  | none => exact .inl (by simp [perform, move, h])
  | some p =>
    cases wanted : p.request? m with
    | error overflow => exact .inl (by simp [perform, move, h, wanted, Except.map])
    | ok found =>
      cases found with
      | none => exact .inl (by simp [perform, move, h, wanted, Except.map])
      | some target =>
        exact .inr ⟨p, target, rfl, wanted, by simp [perform, move, h, wanted, Except.map]⟩

/-! ## Controllers -/

/-- What holds of a stage whose fetch is aborted, and is kept by taking away pagers, holds after a
release. -/
theorem release_induction {motive : Stage → Prop} (c : Controller)
    (stopped : motive { s with schedule := s.schedule.abortSlot c.task })
    (taken : ∀ (t : Stage) (k : Nat), k ∈ c.nested → motive t → motive (t.unmount k)) :
    motive (s.release c) := by
  have kept : ∀ (ks : List Nat) (t : Stage), (∀ k ∈ ks, k ∈ c.nested) → motive t →
      motive (ks.foldl unmount t) := by
    intro ks
    induction ks with
    | nil => exact fun t _ h => h
    | cons k ks ih =>
      intro t inside h
      refine ih (t.unmount k) (fun m hm => inside m (by simp [hm])) ?_
      exact taken t k (inside k (by simp)) h
  rw [release, abort_eq]
  exact kept c.nested _ (fun _ hk => hk) stopped

@[simp] theorem release_controllers (c : Controller) :
    (s.release c).controllers = s.controllers :=
  s.release_induction (motive := fun t => t.controllers = s.controllers) c rfl
    fun t k _ same => (t.unmount_controllers k).trans same

@[simp] theorem release_nextJob (c : Controller) :
    (s.release c).schedule.nextJob = s.schedule.nextJob :=
  s.release_induction (motive := fun t => t.schedule.nextJob = s.schedule.nextJob) c
    (Schedule.abortSlot_nextJob _ _) fun t k _ same => (t.unmount_nextJob k).trans same

variable {s}

theorem load_eq {i : Nat} {c : Controller} (h : s.controllers[i]? = some c) (visit : Visit) :
    s.load i visit =
      ((s.release c).setController i (c.issue s.schedule.nextJob)).start
        (.content i c.nextTicket visit (c.requestFor visit)) := by
  simp [load, h]

theorem load_of_none {i : Nat} (h : s.controllers[i]? = none) (visit : Visit) :
    s.load i visit = s := by
  simp [load, h]

theorem unload_eq {i : Nat} {c : Controller} (h : s.controllers[i]? = some c) :
    s.unload i = ((s.release c).setController i c.unloaded).writeAll c.unloadWrites := by
  simp [unload, h]

theorem load_controllers {i : Nat} {c : Controller} (h : s.controllers[i]? = some c)
    (visit : Visit) :
    (s.load i visit).controllers = s.controllers.set i (c.issue s.schedule.nextJob) := by
  rw [load_eq h, start, setController, release_controllers]

theorem unload_controllers {i : Nat} {c : Controller} (h : s.controllers[i]? = some c) :
    (s.unload i).controllers = s.controllers.set i c.unloaded := by
  rw [unload_eq h, writeAll_controllers, setController, release_controllers]

theorem unload_controller {i : Nat} {c : Controller} (h : s.controllers[i]? = some c) :
    (s.unload i).controllers[i]? = some c.unloaded := by
  rw [unload_controllers h]
  exact List.getElem?_set_self (List.getElem?_eq_some_iff.mp h).1

theorem attach_eq {i : Nat} {c : Controller} (h : s.controllers[i]? = some c) (k : Nat) :
    s.attach i k = s.setController i { c with nested := c.nested ++ [k] } := by
  obtain ⟨bound, rfl⟩ := List.getElem?_eq_some_iff.mp h
  have same : s.controllers.modify i (fun c => { c with nested := c.nested ++ [k] }) =
      s.controllers.set i { s.controllers[i] with nested := s.controllers[i].nested ++ [k] } := by
    apply List.ext_getElem?
    intro j
    by_cases equal : i = j
    · subst equal
      simp [bound]
    · simp [equal]
  simp only [attach, setController, same]

theorem unload_of_none {i : Nat} (h : s.controllers[i]? = none) : s.unload i = s := by
  simp [unload, h]

theorem unload_nextJob (s : Stage) (i : Nat) :
    (s.unload i).schedule.nextJob = s.schedule.nextJob := by
  cases h : s.controllers[i]? with
  | none => rw [unload_of_none h]
  | some c =>
    rw [unload_eq h, writeAll_schedule]
    exact s.release_nextJob c

end Stage

end MapSidebar
