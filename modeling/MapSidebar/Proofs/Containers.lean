import MapSidebar.Proofs.Exclusive
import MapSidebar.Proofs.PagerSteps

/-!
# The containers of lists

A container shows what the pagers on it write, and a controller may write to it when it has shown its
content. Whatever else happens leaves it alone, and so it does any view of it, such as its controls:
these change when a pager on the container shows a page or is taken away, or when a controller writes
controls itself.
-/
namespace MapSidebar

def Screen.controls (s : Screen) (m : Nat) : Option PageControls := (s.container m).controls

namespace Screen

variable {s : Screen} {i m : Nat}

theorem container_update_self (there : m < s.containers.length) (f : Container → Container) :
    (s.update m f).container m = f (s.container m) := by
  simp [update, container, List.getD_eq_getElem?_getD, there]

theorem container_update_other (other : i ≠ m) (f : Container → Container) :
    (s.update i f).container m = s.container m := by
  simp only [update, container, List.getD_eq_getElem?_getD]
  rw [List.getElem?_modify_ne _ _ other]

/-- A change that leaves the controls of its container leaves those of all. -/
theorem controls_update {f : Container → Container} (same : ∀ c, (f c).controls = c.controls) :
    (s.update i f).controls m = s.controls m := by
  by_cases own : i = m
  · subst own
    by_cases there : i < s.containers.length
    · rw [controls, container_update_self there, same, controls]
    · simp [controls, update, container, List.getD_eq_getElem?_getD, there]
  · rw [controls, container_update_other own, controls]

end Screen

/-- A write that shows controls at an index, or takes them away. -/
def ScreenWrite.ToControls (m : Nat) (w : ScreenWrite) : Prop :=
  ∃ shown, w = .container m (.controls shown)

theorem ScreenWrite.apply_controls {m : Nat} {w : ScreenWrite} (elsewhere : ¬ w.ToControls m)
    (s : Screen) : (w.apply s).controls m = s.controls m := by
  cases w with
  | sidebar w => rfl
  | focus data => rfl
  | container i w =>
    change (s.update i w.apply).controls m = s.controls m
    cases w with
    | items w => exact Screen.controls_update fun _ => rfl
    | controls shown =>
      have other : i ≠ m := by
        rintro rfl
        exact elsewhere ⟨shown, rfl⟩
      rw [Screen.controls, Screen.container_update_other other, Screen.controls]

/-- A controller that never writes controls at an index itself. -/
def ControllerSpec.Spares (spec : ControllerSpec) (m : Nat) : Prop :=
  ∀ visit content w, .write w ∈ spec.onReady visit content → ¬ w.ToControls m

/-- A controller whose own writes never change what is seen of the container at an index. -/
def ControllerSpec.Leaves {α : Type} (spec : ControllerSpec) (view : Container → α) (m : Nat) : Prop :=
  ∀ visit content w, .write w ∈ spec.onReady visit content → ∀ screen : Screen,
    view ((w.apply screen).container m) = view (screen.container m)

theorem ControllerSpec.Spares.leaves {spec : ControllerSpec} {m : Nat} (spared : spec.Spares m) :
    spec.Leaves Container.controls m :=
  fun visit content w member screen =>
    ScreenWrite.apply_controls (spared visit content w member) screen

namespace Stage

variable {s : Stage} {i j k m n : Nat} {c : Controller} {p : Pager} {h : Happening}

/-! ## Controllers keep what they are made with -/

theorem attach_specs (s : Stage) (i k : Nat) :
    (s.attach i k).controllers.map Controller.spec = s.controllers.map Controller.spec := by
  cases at_i : s.controllers[i]? with
  | none =>
    have beyond := List.getElem?_eq_none_iff.mp at_i
    rw [attach, List.modify_eq_self (by omega)]
  | some c =>
    rw [attach_eq at_i]
    exact Exclusive.made_set at_i rfl

theorem acts_specs (s : Stage) (i : Nat) (actions : List ReadyAction) :
    (actions.foldl (act i) s).controllers.map Controller.spec =
      s.controllers.map Controller.spec := by
  refine List.foldlRecOn actions (act i)
    (motive := fun t : Stage => t.controllers.map Controller.spec = _) rfl ?_
  rintro t same action -
  cases action with
  | write w => exact same
  | mount container options => rw [act, attach_specs, mount_controllers, same]

theorem turn_specs (linked : s.Linked) (n : Nat) :
    (s.turn n).controllers.map Controller.spec = s.controllers.map Controller.spec := by
  rcases s.turn_cases n with ⟨schedule, same, -⟩ | ⟨task, a, ready⟩
  · rw [same]
  · cases task with
    | page k ticket request => rw [linked.turn_page_controllers ready]
    | content i ticket visit request =>
      obtain ⟨c, at_i, -, -⟩ := linked.content_waits ready
      rw [linked.turn_content ready at_i]
      split
      · rw [showContent_controllers]
        exact Exclusive.made_set at_i rfl
      · rw [acts_specs, note_controllers, showContent_controllers]
        exact Exclusive.made_set at_i rfl

theorem happen_specs (linked : s.Linked) (h : Happening) :
    (s.happen h).controllers.map Controller.spec = s.controllers.map Controller.spec := by
  cases h with
  | turn n => exact turn_specs linked n
  | action action =>
    rw [happen]
    cases action with
    | load i visit =>
      cases at_i : s.controllers[i]? with
      | none => rw [perform, load_of_none at_i]
      | some c =>
        rw [perform, load_controllers at_i]
        exact Exclusive.made_set at_i rfl
    | unload i =>
      cases at_i : s.controllers[i]? with
      | none => rw [perform, unload_of_none at_i]
      | some c =>
        rw [perform, unload_controllers at_i]
        exact Exclusive.made_set at_i rfl
    | mount container options => rw [perform, mount_controllers]
    | move k m =>
      rcases s.perform_move_cases k m with same | ⟨p, target, -, -, issued⟩
      · rw [same]
      · rw [issued, issuePage_controllers]
    | unmount k => rw [perform, unmount_controllers]
    | answer request a => rfl
    | step =>
      rw [perform]
      rcases s.step_cases with ⟨-, same⟩ | ⟨n, rest, -, turned⟩
      · rw [same]
      · rw [turned]
        exact turn_specs linked n

/-! ## What leaves a container alone -/

theorem happen_width (s : Stage) (h : Happening) :
    (s.happen h).screen.containers.length = s.screen.containers.length := by
  cases h with
  | turn n => exact s.turn_width n
  | action action =>
    rw [happen]
    cases action with
    | load i visit => exact s.load_width i visit
    | unload i => exact s.unload_width i
    | mount container options => rw [perform, mount_screen]
    | move k m =>
      rcases s.perform_move_cases k m with same | ⟨p, target, -, -, issued⟩
      · rw [same]
      · rw [issued, issuePage_screen]
    | unmount k => exact s.unmount_width k
    | answer request a => rfl
    | step =>
      rw [perform]
      rcases s.step_cases with ⟨-, same⟩ | ⟨n, rest, -, turned⟩
      · rw [same]
      · rw [turned]
        exact s.turn_width n

theorem writeContainer_controls (s : Stage) (i : Nat) (ws : List Write) :
    (s.writeContainer i (ws.map .items)).screen.controls m = s.screen.controls m := by
  rw [writeContainer_eq]
  refine Screen.controls_update fun c => ?_
  refine List.foldlRecOn (ws.map ContainerWrite.items) _
    (motive := fun d : Container => d.controls = c.controls) rfl ?_
  intro d same w member
  obtain ⟨w, -, rfl⟩ := List.mem_map.mp member
  exact same

theorem runHook_controls (s : Stage) (k : Nat) (p : Pager) :
    (s.runHook k p).screen.controls m = s.screen.controls m := by
  unfold runHook
  split
  · rfl
  · exact (s.note _).writeContainer_controls _ _

theorem unmount_other (at_k : s.pagers[k]? = some p) (other : p.container ≠ m) :
    (s.unmount k).screen.container m = s.screen.container m := by
  rw [unmount_eq at_k]
  exact Screen.container_update_other other _

/-- A release leaves the containers of the pagers that are not taken away. -/
theorem release_other (s : Stage) (c : Controller)
    (others : ∀ k ∈ c.nested, ∀ p, s.pagers[k]? = some p → p.container ≠ m) :
    (s.release c).screen.container m = s.screen.container m := by
  refine (s.release_induction (motive := fun t => t.screen.container m = s.screen.container m ∧
    ∀ k ∈ c.nested, ∀ p, t.pagers[k]? = some p → p.container ≠ m) c ⟨rfl, others⟩ ?_).1
  rintro t k inside ⟨same, others⟩
  cases at_k : t.pagers[k]? with
  | none =>
    rw [unmount_of_none at_k]
    exact ⟨same, others⟩
  | some p =>
    refine ⟨(unmount_other at_k (others k inside p at_k)).trans same, fun j nested q at_j => ?_⟩
    by_cases own : k = j
    · subst own
      cases (unmount_pager_self at_k).symm.trans at_j
      exact others k inside p at_k
    · rw [t.unmount_pager_other own] at at_j
      exact others j nested q at_j

theorem unload_other (at_i : s.controllers[i]? = some c)
    (others : ∀ k ∈ c.nested, ∀ p, s.pagers[k]? = some p → p.container ≠ m) :
    (s.unload i).screen.container m = s.screen.container m := by
  have released := s.release_other c others
  rw [unload_eq at_i, Controller.unloadWrites]
  split <;> exact released

theorem writeContainer_other (s : Stage) (other : i ≠ m) (ws : List ContainerWrite) :
    (s.writeContainer i ws).screen.container m = s.screen.container m := by
  rw [writeContainer_eq]
  exact Screen.container_update_other other _

theorem runHook_other (s : Stage) (k : Nat) (other : p.container ≠ m) :
    (s.runHook k p).screen.container m = s.screen.container m := by
  unfold runHook
  split
  · rfl
  · exact (s.note _).writeContainer_other other _

theorem showContent_container (s : Stage) (i : Nat) (c : Controller)
    (result : Except FetchError PartialContent) :
    (s.showContent i c result).screen.container m = s.screen.container m := by
  rw [showContent, writeAll_eq]
  cases result with
  | ok content => rfl
  | error e => cases cancelled : e.isCancellation <;> simp [Controller.showWrites, cancelled] <;> rfl

/-- What a pager does with an answer shows in no container but its own. -/
theorem turn_page_other (linked : s.Linked) {ticket : Ticket} {request : Request} {a : Answer}
    (ready : s.HasAnswer n (.page k ticket request) a) (at_k : s.pagers[k]? = some p)
    (other : p.container ≠ m) : (s.turn n).screen.container m = s.screen.container m := by
  rw [linked.turn_page ready at_k]
  cases Pager.pageOf a with
  | error e => exact writeContainer_other _ other _
  | ok page => exact (runHook_other _ k other).trans (writeContainer_other _ other _)

section

variable {α : Type} {view : Container → α}

theorem acts_view (s : Stage) (i : Nat) {actions : List ReadyAction}
    (left : ∀ w, .write w ∈ actions → ∀ screen : Screen,
      view ((w.apply screen).container m) = view (screen.container m)) :
    view ((actions.foldl (act i) s).screen.container m) = view (s.screen.container m) := by
  refine List.foldlRecOn actions (act i)
    (motive := fun t : Stage => view (t.screen.container m) = view (s.screen.container m)) rfl ?_
  intro t same action member
  cases action with
  | write w => exact (left w member t.screen).trans same
  | mount container options =>
    rw [act, attach, mount_screen]
    exact same

/-- A turn leaves what is seen of a container if the pagers on it do. -/
theorem turn_view (linked : s.Linked)
    (left : ∀ spec ∈ s.controllers.map Controller.spec, spec.Leaves view m) (n : Nat)
    (pages : ∀ k p ticket request a, s.pagers[k]? = some p → p.container = m →
      s.HasAnswer n (.page k ticket request) a →
      view ((s.turn n).screen.container m) = view (s.screen.container m)) :
    view ((s.turn n).screen.container m) = view (s.screen.container m) := by
  rcases s.turn_cases n with ⟨schedule, same, -⟩ | ⟨task, a, ready⟩
  · rw [same]
  · cases task with
    | content i ticket visit request =>
      obtain ⟨c, at_i, -, -⟩ := linked.content_waits ready
      rw [linked.turn_content ready at_i]
      split
      · rw [showContent_container]
        rfl
      · have known := left c.spec (List.mem_map_of_mem (List.mem_of_getElem? at_i))
        rw [acts_view _ i fun w => known visit _ w, note_screen, showContent_container]
        rfl
    | page k ticket request =>
      obtain ⟨p, at_k, -, -⟩ := linked.page_waits ready
      by_cases own : p.container = m
      · exact pages k p ticket request a at_k own ready
      · rw [turn_page_other linked ready at_k own]

/-- A happening that takes away no pager on a container leaves what is seen of it if the pagers on it
do. -/
theorem happen_view (linked : s.Linked)
    (left : ∀ spec ∈ s.controllers.map Controller.spec, spec.Leaves view m) (h : Happening)
    (no_unmount : ∀ k p, s.pagers[k]? = some p → p.container = m → ¬ s.Unmounts k h)
    (pages : ∀ k p n ticket request a, s.pagers[k]? = some p → p.container = m →
      s.turnOf h = some n → s.HasAnswer n (.page k ticket request) a →
      view ((s.turn n).screen.container m) = view (s.screen.container m)) :
    view ((s.happen h).screen.container m) = view (s.screen.container m) := by
  rcases s.happen_cases h with ⟨n, given, turned⟩ | ⟨none_given, -⟩
  · rw [turned]
    exact turn_view linked left n fun k p ticket request a at_k own =>
      pages k p n ticket request a at_k own given
  cases h with
  | turn n => cases none_given
  | action action =>
    rw [happen]
    cases action with
    | load i visit =>
      cases at_i : s.controllers[i]? with
      | none => rw [perform, load_of_none at_i]
      | some c =>
        have kept := s.release_other c fun k inside p at_k own =>
          no_unmount k p at_k own ⟨c, at_i, inside⟩
        rw [perform, load_eq at_i]
        exact congrArg view kept
    | unload i =>
      cases at_i : s.controllers[i]? with
      | none => rw [perform, unload_of_none at_i]
      | some c =>
        have kept := unload_other at_i fun k inside p at_k own =>
          no_unmount k p at_k own ⟨c, at_i, inside⟩
        rw [perform, kept]
    | mount container options => rw [perform, mount_screen]
    | move k move =>
      rcases s.perform_move_cases k move with same | ⟨p, target, -, -, issued⟩
      · rw [same]
      · rw [issued, issuePage_screen]
    | unmount k =>
      rw [perform]
      cases at_k : s.pagers[k]? with
      | none => rw [unmount_of_none at_k]
      | some p => rw [unmount_other at_k fun own => no_unmount k p at_k own rfl]
    | answer request a => rfl
    | step =>
      rcases s.step_cases with ⟨-, same⟩ | ⟨n, rest, agenda, -⟩
      · rw [perform, same]
      · simp [turnOf, agenda] at none_given

end

/-- A happening that neither takes away a pager on a container nor shows a page of one leaves its
controls. -/
theorem happen_controls (linked : s.Linked) (spared : ∀ spec ∈ s.controllers.map Controller.spec,
    spec.Spares m) (h : Happening)
    (no_unmount : ∀ k p, s.pagers[k]? = some p → p.container = m → ¬ s.Unmounts k h)
    (no_page : ∀ k p n ticket request a page, s.pagers[k]? = some p → p.container = m →
      s.turnOf h = some n → s.HasAnswer n (.page k ticket request) a →
      Pager.pageOf a ≠ .ok page) :
    (s.happen h).screen.controls m = s.screen.controls m := by
  refine happen_view linked (fun spec known => (spared spec known).leaves) h no_unmount ?_
  intro k p n ticket request a at_k own given ready
  cases decoded : Pager.pageOf a with
  | ok page => exact absurd decoded (no_page k p n ticket request a page at_k own given ready)
  | error e =>
    rw [linked.turn_page ready at_k, decoded]
    dsimp only
    rw [failPage]
    split
    · exact writeContainer_controls _ p.container []
    · exact writeContainer_controls _ p.container [.replace (Pager.failureMarkup e)]

end Stage

end MapSidebar
