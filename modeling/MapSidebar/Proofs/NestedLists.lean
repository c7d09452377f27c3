import MapSidebar.Proofs.Containers

/-!
# The lists in a content

The pagers that a controller mounts once its content is shown are its own until its next load or
unload. Until then nothing but an unmount of their own takes them away; and then they are taken away
at once and for good: their containers are empty, and whatever is still answered to their requests
changes nothing, so that the containers are free for the lists of the next content.
-/
namespace MapSidebar

/-- The lists that a controller mounts, each with its container. -/
def mounts (actions : List ReadyAction) : List (Nat × PagerOptions) :=
  actions.filterMap fun
    | .write _ => none
    | .mount container options => some (container, options)

@[simp] theorem mounts_nil : mounts [] = [] := rfl

@[simp] theorem mounts_write (w : ScreenWrite) (actions : List ReadyAction) :
    mounts (.write w :: actions) = mounts actions := rfl

@[simp] theorem mounts_mount (container : Nat) (options : PagerOptions)
    (actions : List ReadyAction) :
    mounts (.mount container options :: actions) = (container, options) :: mounts actions := rfl

namespace Stage

/-- A load or an unload of controller `i`. -/
inductive Happening.Releases (i : Nat) : Happening → Prop where
  | load (visit : Visit) : Releases i (.action (.load i visit))
  | unload : Releases i (.action (.unload i))

/-- The pagers that controller `i`, if it is there, owns. -/
def nestedOf (s : Stage) (i : Nat) : List Nat := (s.controllers[i]?.map Controller.nested).getD []

variable {s t : Stage} {i j k n : Nat} {c : Controller} {p q : Pager} {h : Happening}

theorem nestedOf_eq (at_i : s.controllers[i]? = some c) : s.nestedOf i = c.nested := by
  simp [nestedOf, at_i]

/-- A pager is taken off its container by itself or with all that its owner lets go of. -/
theorem unmounts_iff : s.Unmounts k h ↔
    h = .action (.unmount k) ∨ ∃ i, h.Releases i ∧ k ∈ s.nestedOf i := by
  have owned : ∀ i, (∃ c, s.controllers[i]? = some c ∧ k ∈ c.nested) ↔ k ∈ s.nestedOf i := by
    intro i
    unfold nestedOf
    cases s.controllers[i]? <;> simp
  constructor
  · intro gone
    cases h with
    | turn n => exact gone.elim
    | action action =>
      cases action with
      | load i visit => exact .inr ⟨i, .load visit, (owned i).mp gone⟩
      | unload i => exact .inr ⟨i, .unload, (owned i).mp gone⟩
      | unmount j => exact .inl (congrArg _ (congrArg _ gone))
      | mount _ _ | move _ _ | answer _ _ | step => exact gone.elim
  · rintro (rfl | ⟨i, released, inside⟩)
    · rfl
    · cases released with
      | load visit => exact (owned i).mpr inside
      | unload => exact (owned i).mpr inside

/-- A pager is mounted after a step if it was before and has not been taken away. -/
theorem PagerStep.mounted_eq (step : s.PagerStep k p h q) :
    q.mounted = p.mounted ∨ s.Unmounts k h ∧ q.mounted = false := by
  cases step with
  | kept | issued | shown | failed => exact .inl rfl
  | unmounted sequence gone => exact .inr ⟨gone, rfl⟩

theorem IsNew.mounted (new : s.IsNew k p) : p.mounted = true := by
  obtain ⟨container, options, job, ticket, rfl, -⟩ := new
  rfl

/-! ## Who owns which pager -/

/-- The pagers that are mounted once a content is shown are those that the actions say, in their
order, and the controller owns them. -/
theorem acts_attached (actions : List ReadyAction) (at_i : s.controllers[i]? = some c) :
    (∃ c', (actions.foldl (act i) s).controllers[i]? = some c' ∧
      c'.nested = c.nested ++ List.range' s.pagers.length (mounts actions).length) ∧
    (∀ j, j ≠ i → (actions.foldl (act i) s).controllers[j]? = s.controllers[j]?) ∧
    (actions.foldl (act i) s).pagers.length = s.pagers.length + (mounts actions).length ∧
    ∀ m container options, (mounts actions)[m]? = some (container, options) →
      ∃ q, (actions.foldl (act i) s).pagers[s.pagers.length + m]? = some q ∧
        q.mounted = true ∧ q.container = container ∧ q.options = options := by
  induction actions generalizing s c with
  | nil => exact ⟨⟨c, at_i, by simp⟩, fun _ _ => rfl, rfl, by simp⟩
  | cons action actions ih =>
    cases action with
    | write w => exact ih (s := s.write w) at_i
    | mount container options =>
      have bound := (List.getElem?_eq_some_iff.mp at_i).1
      have attached : s.act i (.mount container options) = (s.mount container options).setController
          i { c with nested := c.nested ++ [s.pagers.length] } :=
        attach_eq ((s.mount_controllers container options).symm ▸ at_i) _
      have at_i' : (s.act i (.mount container options)).controllers[i]? =
          some { c with nested := c.nested ++ [s.pagers.length] } := by
        rw [attached, setController, mount_controllers]
        exact List.getElem?_set_self bound
      have pagers : (s.act i (.mount container options)).pagers =
          (s.mount container options).pagers := by rw [attached, setController]
      have length : (s.act i (.mount container options)).pagers.length = s.pagers.length + 1 := by
        rw [pagers, mount_pagers_length]
      obtain ⟨⟨c', at_c', nested⟩, others, length', placed⟩ := ih at_i'
      rw [length] at nested length' placed
      refine ⟨⟨c', at_c', ?_⟩, ?_, ?_, ?_⟩
      · rw [nested]
        simp [List.range'_succ]
      · intro j other
        refine (others j other).trans ?_
        rw [attached, setController, mount_controllers]
        exact List.getElem?_set_ne (Ne.symm other)
      · rw [List.foldl_cons, length', mounts_mount, List.length_cons]
        omega
      · intro m container' options' at_m
        cases m with
        | zero =>
          cases at_m
          have first : (s.act i (.mount container options)).pagers[s.pagers.length]? = some
              (Pager.issue { container, options } options.mode.first s.schedule.nextJob) := by
            rw [pagers, mount_pagers, List.getElem?_concat_length]
          exact ⟨_, (acts_pagers _ i actions _).1 _ first, rfl, rfl, rfl⟩
        | succ m =>
          have there := placed m container' options' at_m
          rwa [show s.pagers.length + 1 + m = s.pagers.length + (m + 1) by omega] at there

/-- The turn of a fetch leaves all controllers but the one that it is for. -/
theorem turn_content_other (linked : s.Linked) {ticket : Ticket} {visit : Visit}
    {request : Request} {a : Answer} (ready : s.HasAnswer n (.content i ticket visit request) a)
    (other : j ≠ i) : (s.turn n).controllers[j]? = s.controllers[j]? := by
  obtain ⟨c, at_i, -, -⟩ := linked.content_waits ready
  have bound := (List.getElem?_eq_some_iff.mp at_i).1
  have settled : ∀ result, ((s.finish n).showContent i c result).controllers[j]? =
      s.controllers[j]? := by
    intro result
    rw [showContent_controllers]
    exact List.getElem?_set_ne (Ne.symm other)
  rw [linked.turn_content ready at_i]
  cases Controller.contentOf a with
  | error e => exact settled (.error e)
  | ok content =>
    have own : (((s.finish n).showContent i c (.ok content)).note
        (.ready i visit content.payload?.isSome)).controllers[i]? = some c.settled := by
      rw [note_controllers, showContent_controllers]
      exact List.getElem?_set_self bound
    exact ((acts_attached (c.spec.onReady visit content) own).2.1 j other).trans
      (settled (.ok content))

/-- What a happening does to the pagers that controllers own. -/
inductive NestedStep (s t : Stage) (h : Happening) : Prop where
  | released (i : Nat) : h.Releases i →
    (∀ j, t.nestedOf j = if j = i then [] else s.nestedOf j) → NestedStep s t h
  | kept : (∀ i, ¬ h.Releases i) → (∀ j, t.nestedOf j = s.nestedOf j) → NestedStep s t h
  | attached (i count : Nat) : (∀ i, ¬ h.Releases i) →
    t.pagers.length = s.pagers.length + count →
    (∀ j, t.nestedOf j = s.nestedOf j ++
      if j = i then List.range' s.pagers.length count else []) → NestedStep s t h

theorem nestedOf_congr (same : t.controllers = s.controllers) (j : Nat) :
    t.nestedOf j = s.nestedOf j := by
  rw [nestedOf, same, nestedOf]

/-- A controller that is put in its place owns what it has been given. -/
theorem nestedOf_set (at_i : s.controllers[i]? = some c) {c' : Controller}
    (same : t.controllers = s.controllers.set i c') (j : Nat) :
    t.nestedOf j = if j = i then c'.nested else s.nestedOf j := by
  rw [nestedOf, same, nestedOf]
  split
  next equal =>
    subst equal
    rw [List.getElem?_set_self (List.getElem?_eq_some_iff.mp at_i).1]
    rfl
  next other => rw [List.getElem?_set_ne (Ne.symm other)]

theorem load_nested (s : Stage) (i : Nat) (visit : Visit) (j : Nat) :
    (s.load i visit).nestedOf j = if j = i then [] else s.nestedOf j := by
  cases at_i : s.controllers[i]? with
  | none =>
    rw [load_of_none at_i]
    split
    next equal => rw [equal, nestedOf, at_i]; rfl
    next => rfl
  | some c => exact nestedOf_set at_i (load_controllers at_i visit) j

theorem unload_nested (s : Stage) (i j : Nat) :
    (s.unload i).nestedOf j = if j = i then [] else s.nestedOf j := by
  cases at_i : s.controllers[i]? with
  | none =>
    rw [unload_of_none at_i]
    split
    next equal => rw [equal, nestedOf, at_i]; rfl
    next => rfl
  | some c => exact nestedOf_set at_i (unload_controllers at_i) j

/-- A turn lets at most one controller have the pagers that it mounts. -/
theorem turn_nested (linked : s.Linked) (n : Nat) :
    (∀ j, (s.turn n).nestedOf j = s.nestedOf j) ∨ ∃ i count,
      (s.turn n).pagers.length = s.pagers.length + count ∧ ∀ j, (s.turn n).nestedOf j =
        s.nestedOf j ++ if j = i then List.range' s.pagers.length count else [] := by
  rcases s.turn_cases n with ⟨schedule, same, -⟩ | ⟨task, a, ready⟩
  · rw [same]
    exact .inl fun _ => rfl
  · cases task with
    | page k ticket request => exact .inl (nestedOf_congr (linked.turn_page_controllers ready))
    | content i ticket visit request =>
      obtain ⟨c, at_i, -, -⟩ := linked.content_waits ready
      have bound := (List.getElem?_eq_some_iff.mp at_i).1
      have others : ∀ j, j ≠ i → (s.turn n).nestedOf j = s.nestedOf j := fun j other => by
        rw [nestedOf, turn_content_other linked ready other, nestedOf]
      have turned := linked.turn_content ready at_i
      cases decoded : Controller.contentOf a with
      | error e =>
        rw [decoded] at turned
        have same := (s.finish n).showContent_controllers i c (.error e)
        refine .inl fun j => ?_
        rw [turned, nestedOf_set at_i same]
        split
        next equal => rw [equal, nestedOf_eq at_i]; rfl
        next => rfl
      | ok content =>
        rw [decoded] at turned
        have settled : (((s.finish n).showContent i c (.ok content)).note
            (.ready i visit content.payload?.isSome)).controllers[i]? = some c.settled := by
          rw [note_controllers, showContent_controllers]
          exact List.getElem?_set_self bound
        obtain ⟨⟨c', at_c', nested⟩, -, length, -⟩ :=
          acts_attached (c.spec.onReady visit content) settled
        rw [note_pagers, showContent_pagers, finish_pagers] at nested length
        refine .inr ⟨i, _, by rw [turned, length], fun j => ?_⟩
        split
        next equal => rw [turned, equal, nestedOf_eq at_c', nested, nestedOf_eq at_i]; rfl
        next other => rw [others j other, List.append_nil]

/-- A controller loses all that it owns at once, and is only given pagers that are new. -/
theorem nested_step (linked : s.Linked) (h : Happening) : NestedStep s (s.happen h) h := by
  rcases s.happen_cases h with ⟨n, given, turned⟩ | ⟨none_given, -⟩
  · have quiet : ∀ i, ¬ h.Releases i := by
      rintro i (visit | -) <;> cases given
    rw [turned]
    rcases turn_nested linked n with same | ⟨i, count, length, more⟩
    · exact .kept quiet same
    · exact .attached i count quiet length more
  cases h with
  | turn n => cases none_given
  | action action =>
    cases action with
    | load i visit => exact .released i (.load visit) (s.load_nested i visit)
    | unload i => exact .released i .unload (s.unload_nested i)
    | mount container options =>
      exact .kept (fun i => by rintro ⟨⟩) (nestedOf_congr (s.mount_controllers container options))
    | move k m =>
      refine .kept (fun i => by rintro ⟨⟩) (nestedOf_congr ?_)
      rcases s.perform_move_cases k m with same | ⟨p, target, -, -, issued⟩
      · rw [happen, same]
      · rw [happen, issued, issuePage_controllers]
    | unmount k => exact .kept (fun i => by rintro ⟨⟩) (nestedOf_congr (s.unmount_controllers k))
    | answer request a => exact .kept (fun i => by rintro ⟨⟩) fun _ => rfl
    | step =>
      refine .kept (fun i => by rintro ⟨⟩) (nestedOf_congr ?_)
      rcases s.step_cases with ⟨-, same⟩ | ⟨n, rest, agenda, -⟩
      · rw [happen, perform, same]
      · simp [turnOf, agenda] at none_given

/-- Controllers own pagers that exist, and no pager has two owners. -/
structure Owned (s : Stage) : Prop where
  bound : ∀ i k, k ∈ s.nestedOf i → k < s.pagers.length
  single : ∀ i j k, k ∈ s.nestedOf i → k ∈ s.nestedOf j → i = j

theorem fresh_nested (screen : Screen) (specs : List ControllerSpec) (i : Nat) :
    (fresh screen specs).nestedOf i = [] := by
  simp only [nestedOf, fresh, List.getElem?_map]
  cases specs[i]? <;> rfl

/-- No pager that has been mounted is ever lost. -/
theorem pagers_length_le (linked : s.Linked) (h : Happening) :
    s.pagers.length ≤ (s.happen h).pagers.length := by
  rcases Nat.eq_zero_or_pos s.pagers.length with none_there | some_there
  · omega
  · have last : s.pagers[s.pagers.length - 1]? = some s.pagers[s.pagers.length - 1] :=
      List.getElem?_eq_getElem (by omega)
    obtain ⟨q, at_q, -⟩ := pager_step linked last h
    have := (List.getElem?_eq_some_iff.mp at_q).1
    omega

namespace Owned

theorem fresh (screen : Screen) (specs : List ControllerSpec) : (fresh screen specs).Owned :=
  ⟨by simp [fresh_nested], by simp [fresh_nested]⟩

theorem happen (owned : s.Owned) (linked : s.Linked) (h : Happening) : (s.happen h).Owned := by
  have grows := pagers_length_le linked h
  cases nested_step linked h with
  | released i _ nested =>
    have old : ∀ {j k}, k ∈ (s.happen h).nestedOf j → k ∈ s.nestedOf j := by
      intro j k inside
      rw [nested] at inside
      split at inside
      · cases inside
      · exact inside
    exact ⟨fun j k inside => Nat.lt_of_lt_of_le (owned.bound j k (old inside)) grows,
      fun j m k first second => owned.single j m k (old first) (old second)⟩
  | kept _ nested =>
    refine ⟨fun j k inside => ?_, fun j m k first second => ?_⟩
    · exact Nat.lt_of_lt_of_le (owned.bound j k (nested j ▸ inside)) grows
    · exact owned.single j m k (nested j ▸ first) (nested m ▸ second)
  | attached i count _ length nested =>
    -- What is new lies beyond all that is owned, and has one owner.
    have old_or_new : ∀ {j k}, k ∈ (s.happen h).nestedOf j →
        k ∈ s.nestedOf j ∧ k < s.pagers.length ∨
          j = i ∧ s.pagers.length ≤ k ∧ k < s.pagers.length + count := by
      intro j k inside
      rw [nested, List.mem_append] at inside
      rcases inside with old | new
      · exact .inl ⟨old, owned.bound j k old⟩
      · split at new
        next equal => exact .inr ⟨equal, List.mem_range'_1.mp new⟩
        next => cases new
    refine ⟨fun j k inside => ?_, fun j m k first second => ?_⟩
    · have := old_or_new inside
      omega
    · rcases old_or_new first with ⟨first, _⟩ | ⟨rfl, _⟩ <;>
        rcases old_or_new second with ⟨second, _⟩ | ⟨rfl, _⟩
      · exact owned.single j m k first second
      · omega
      · omega
      · rfl

theorem run (owned : s.Owned) (linked : s.Linked) (history : List Happening) :
    (s.run history).Owned :=
  (run_induction (motive := fun t => t.Linked ∧ t.Owned) ⟨linked, owned⟩
    (fun _ h ⟨linked, owned⟩ => ⟨linked.happen h, owned.happen linked h⟩) history).2

end Owned

/-! ## How long a pager is mounted -/

/-- What its controller owns it owns until it lets go of everything. -/
theorem nested_kept (linked : s.Linked) (inside : k ∈ s.nestedOf i) (spared : ¬ h.Releases i) :
    k ∈ (s.happen h).nestedOf i := by
  cases nested_step linked h with
  | released j released nested =>
    have other : i ≠ j := by
      rintro rfl
      exact spared released
    rwa [nested, if_neg other]
  | kept _ nested => rwa [nested]
  | attached j count _ _ nested =>
    rw [nested]
    exact List.mem_append_left _ inside

/-- Nothing but a load or an unload of its owner, or an unmount of its own, takes a pager away. -/
theorem releases_of_unmounts (owned : s.Owned) (inside : k ∈ s.nestedOf i)
    (gone : s.Unmounts k h) : h = .action (.unmount k) ∨ h.Releases i := by
  rcases unmounts_iff.mp gone with direct | ⟨j, released, inside'⟩
  · exact .inl direct
  · exact .inr (owned.single i j k inside inside' ▸ released)

/-- A pager that its controller owns is mounted, unless it has been unmounted by itself. -/
theorem mounted_of_nested (screen : Screen) (specs : List ControllerSpec)
    {history : List Happening} (spared : .action (.unmount k) ∉ history)
    (inside : k ∈ ((fresh screen specs).run history).nestedOf i) :
    ∃ p, ((fresh screen specs).run history).pagers[k]? = some p ∧ p.mounted = true := by
  induction history using List.reverseRecOn generalizing i with
  | nil =>
    rw [run, List.foldl_nil, fresh_nested] at inside
    cases inside
  | append_singleton history h ih =>
    have linked := (Linked.fresh screen specs).run history
    have owned := (Owned.fresh screen specs).run (Linked.fresh screen specs) history
    simp only [List.mem_append, List.mem_singleton, not_or] at spared
    rw [run_concat] at inside ⊢
    generalize (fresh screen specs).run history = s at *
    have bound := (owned.happen linked h).bound i k inside
    have at_k := List.getElem?_eq_getElem bound
    cases before : s.pagers[k]? with
    | none => exact ⟨_, at_k, (isNew_of_happen linked before at_k).mounted⟩
    | some p =>
      -- A pager that was there before has the same owner as before, who has not let go of it.
      have there := (List.getElem?_eq_some_iff.mp before).1
      have inside' : k ∈ s.nestedOf i ∧ ¬ h.Releases i := by
        cases nested_step linked h with
        | released j released nested =>
          rw [nested] at inside
          split at inside
          · cases inside
          next other =>
            refine ⟨inside, fun again => other ?_⟩
            cases released <;> cases again <;> rfl
        | kept quiet nested => exact ⟨nested i ▸ inside, quiet i⟩
        | attached j count quiet _ nested =>
          refine ⟨?_, quiet i⟩
          rw [nested, List.mem_append] at inside
          refine inside.resolve_right fun new => ?_
          split at new
          · have := List.mem_range'_1.mp new
            omega
          · cases new
      obtain ⟨p', at_k', mounted⟩ := ih spared.1 inside'.1
      cases before.symm.trans at_k'
      obtain ⟨q, at_q, step⟩ := pager_step linked before h
      refine ⟨q, at_q, ?_⟩
      rcases step.mounted_eq with same | ⟨gone, -⟩
      · rw [same, mounted]
      · rcases releases_of_unmounts owned inside'.1 gone with direct | released
        · exact absurd direct.symm spared.2
        · exact absurd released inside'.2

/-- A pager that is not mounted never is again, and stays as it is. -/
theorem unmounted_for_good (linked : s.Linked) (at_k : s.pagers[k]? = some p)
    (off : p.mounted = false) (later : List Happening) :
    ∃ q, (s.run later).pagers[k]? = some q ∧ q.mounted = false ∧ q.position = p.position ∧
      q.container = p.container := by
  refine (run_induction (motive := fun t => t.Linked ∧ ∃ q, t.pagers[k]? = some q ∧
    q.mounted = false ∧ q.position = p.position ∧ q.container = p.container)
    ⟨linked, p, at_k, off, rfl, rfl⟩ ?_ later).2
  rintro t h ⟨linked, q, at_q, off, position, container⟩
  refine ⟨linked.happen h, ?_⟩
  obtain ⟨r, at_r, step⟩ := pager_step linked at_q h
  have not_ready : ∀ {n ticket request a}, ¬ t.HasAnswer n (.page k ticket request) a := by
    intro n ticket request a ready
    have live : t.LivePage k n := ⟨ticket, request, ready.entry⟩
    cases off.symm.trans (live.mounted linked at_q)
  refine ⟨r, at_r, ?_⟩
  cases step with
  | kept => exact ⟨off, position, container⟩
  | issued _ wanted => cases off.symm.trans (Pager.mounted_of_request wanted)
  | shown _ ready => exact absurd ready not_ready
  | failed _ ready => exact absurd ready not_ready
  | unmounted sequence _ => exact ⟨rfl, position, container⟩

/-- With a load or an unload of its owner a pager is unmounted. -/
theorem released_pager (linked : s.Linked) (at_k : s.pagers[k]? = some p)
    (inside : k ∈ s.nestedOf i) (released : h.Releases i) :
    ∃ q, (s.happen h).pagers[k]? = some q ∧ q.mounted = false ∧ q.position = p.position ∧
      q.container = p.container := by
  have gone : s.Unmounts k h := unmounts_iff.mpr (.inr ⟨i, released, inside⟩)
  obtain ⟨q, at_q, step⟩ := pager_step linked at_k h
  refine ⟨q, at_q, ?_⟩
  cases step with
  | kept _ _ spared => exact absurd gone spared
  | issued moved => cases moved ▸ released
  | shown given => exact absurd gone (unmounts_of_turnOf given)
  | failed given => exact absurd gone (unmounts_of_turnOf given)
  | unmounted sequence _ => exact ⟨rfl, rfl, rfl⟩

/-- A pager that is owned and mounted stays so as long as its owner neither loads nor unloads. -/
theorem lifetime (linked : s.Linked) (owned : s.Owned) (inside : k ∈ s.nestedOf i)
    (at_k : s.pagers[k]? = some p) (on : p.mounted = true) {later : List Happening}
    (spared : .action (.unmount k) ∉ later) :
    ∃ q, (s.run later).pagers[k]? = some q ∧ q.container = p.container ∧
      (q.mounted = true ↔ ∀ h ∈ later, ¬ h.Releases i) := by
  induction later generalizing s p with
  | nil => exact ⟨p, at_k, rfl, by simp [on]⟩
  | cons h later ih =>
    rw [List.mem_cons, not_or] at spared
    by_cases released : h.Releases i
    · obtain ⟨q, at_q, off, -, container⟩ := released_pager linked at_k inside released
      obtain ⟨r, at_r, off', -, container'⟩ :=
        unmounted_for_good (linked.happen h) at_q off later
      refine ⟨r, at_r, container'.trans container, ?_⟩
      simp [off', released]
    · obtain ⟨q, at_q, step⟩ := pager_step linked at_k h
      have on' : q.mounted = true := by
        rcases step.mounted_eq with same | ⟨gone, -⟩
        · rw [same, on]
        · rcases releases_of_unmounts owned inside gone with direct | released'
          · exact absurd direct.symm spared.1
          · exact absurd released' released
      obtain ⟨r, at_r, container, mounted⟩ := ih (linked.happen h) (owned.happen linked h)
        (nested_kept linked inside released) at_q on' spared.2
      refine ⟨r, at_r, container.trans step.container_eq, mounted.trans ?_⟩
      simp [released]

/-! ## What is left of it -/

theorem unmount_empty (k : Nat) {m : Nat} (empty : s.screen.container m = {}) :
    (s.unmount k).screen.container m = {} := by
  cases at_k : s.pagers[k]? with
  | none => rwa [unmount_of_none at_k]
  | some p =>
    by_cases own : p.container = m
    · rw [unmount_eq at_k]
      exact own ▸ s.screen.container_update p.container
    · rwa [unmount_other at_k own]

/-- Of the pagers that are taken away one after the other, each leaves its container empty. -/
theorem unmounts_empty (ks : List Nat) (inside : k ∈ ks) (at_k : s.pagers[k]? = some p) :
    (ks.foldl unmount s).screen.container p.container = {} := by
  induction ks generalizing s with
  | nil => cases inside
  | cons j ks ih =>
    by_cases own : j = k
    · subst own
      refine List.foldlRecOn ks unmount
        (motive := fun t : Stage => t.screen.container p.container = {}) ?_
        fun t empty m _ => unmount_empty m empty
      rw [unmount_eq at_k]
      exact s.screen.container_update p.container
    · have later := (List.mem_cons.mp inside).resolve_left (Ne.symm own)
      exact ih later ((s.unmount_pager_other own).trans at_k)

theorem release_empty (c : Controller) (inside : k ∈ c.nested) (at_k : s.pagers[k]? = some p) :
    (s.release c).screen.container p.container = {} := by
  rw [release]
  refine unmounts_empty c.nested inside ?_
  rwa [abort_eq]

/-- A load or an unload leaves nothing in the container of a pager that the controller owned. -/
theorem releases_empty (inside : k ∈ s.nestedOf i) (at_k : s.pagers[k]? = some p)
    (released : h.Releases i) : (s.happen h).screen.container p.container = {} := by
  cases at_i : s.controllers[i]? with
  | none => simp [nestedOf, at_i] at inside
  | some c =>
    have empty := release_empty c (nestedOf_eq at_i ▸ inside) at_k
    cases released with
    | load visit =>
      rw [happen, perform, load_eq at_i]
      exact empty
    | unload =>
      rw [happen, perform, unload_eq at_i, Controller.unloadWrites]
      split <;> exact empty

/-- A pager that is not mounted takes no notice of anything. -/
structure Retired (s : Stage) (k : Nat) : Prop where
  /-- No move is accepted, and none changes anything. -/
  moves : ∀ m, s.perform (.move k m) = s ∧ ∀ t, s.move k m ≠ .ok (t, true)
  /-- None of its requests is live any more. -/
  stale : ∀ (n : Nat) (ticket : Ticket) (request : Request) (st : JobStatus),
    s.schedule.ledger[n]? = some (.page k ticket request, st) → st ≠ .live
  /-- An answer changes nothing when it comes. -/
  answer : ∀ r a, ∃ schedule, s.happen (.action (.answer r a)) = { s with schedule } ∧
    schedule.ledger = s.schedule.ledger
  /-- Neither does it when the job that has asked for it has its turn. -/
  turn : ∀ n ticket request st, s.schedule.ledger[n]? = some (.page k ticket request, st) →
    ∃ schedule, s.turn n = { s with schedule } ∧ schedule.ledger = s.schedule.ledger

theorem retired (linked : s.Linked) (at_k : s.pagers[k]? = some p) (off : p.mounted = false) :
    s.Retired k := by
  have dead : ∀ (n : Nat) (ticket : Ticket) (request : Request) (st : JobStatus),
      s.schedule.ledger[n]? = some (.page k ticket request, st) → st ≠ .live := by
    rintro n ticket request st at_n rfl
    have live : s.LivePage k n := ⟨ticket, request, at_n⟩
    cases off.symm.trans (live.mounted linked at_k)
  refine ⟨fun m => ⟨?_, fun t accepted => ?_⟩, dead, s.answer_frame,
    fun n ticket request st at_n => turn_of_ne_live at_n (dead n ticket request st at_n)⟩
  · rcases s.perform_move_cases k m with same | ⟨p', target, at_k', wanted, -⟩
    · exact same
    · cases at_k.symm.trans at_k'
      cases off.symm.trans (Pager.mounted_of_request wanted)
  · obtain ⟨target, wanted, -⟩ := move_accepted at_k accepted
    cases off.symm.trans (Pager.mounted_of_request wanted)

/-! ## All of it -/

/-- What holds of the lists of controller `i` once a run has led to `s`. -/
structure NestedListsInOrder (history : List Happening) (s : Stage) (i : Nat) (c : Controller) :
    Prop where
  /-- With a content the controller mounts the lists that it is made to mount for it, on whichever
  containers, and owns them and nothing else. -/
  attached : ∀ n ticket visit request a content,
    s.HasAnswer n (.content i ticket visit request) a → Controller.contentOf a = .ok content →
    (∃ c', (s.turn n).controllers[i]? = some c' ∧
      c'.nested = List.range' s.pagers.length (mounts (c.spec.onReady visit content)).length) ∧
    ∀ m container options, (mounts (c.spec.onReady visit content))[m]? = some (container, options) →
      ∃ q, (s.turn n).pagers[s.pagers.length + m]? = some q ∧
        q.mounted = true ∧ q.container = container ∧ q.options = options
  /-- What it owns is mounted, unless it has been unmounted by itself. -/
  mounted : ∀ k ∈ c.nested, .action (.unmount k) ∉ history →
    ∃ p, s.pagers[k]? = some p ∧ p.mounted = true
  /-- It stays mounted exactly as long as the controller neither loads nor unloads. -/
  lifetime : ∀ k ∈ c.nested, ∀ p, s.pagers[k]? = some p → p.mounted = true →
    ∀ later, .action (.unmount k) ∉ later → ∃ q, (s.run later).pagers[k]? = some q ∧
      q.container = p.container ∧ (q.mounted = true ↔ ∀ h ∈ later, ¬ h.Releases i)
  /-- With a load or an unload its items and its controls are gone at once. -/
  emptied : ∀ k ∈ c.nested, ∀ p, s.pagers[k]? = some p → ∀ h, h.Releases i →
    (s.happen h).screen.container p.container = {}
  /-- From then on it stays where it was, and neither a move nor an answer to any of its requests
  changes anything. -/
  retired : ∀ k ∈ c.nested, ∀ p, s.pagers[k]? = some p → ∀ h, h.Releases i → ∀ later,
    ∃ q, ((s.happen h).run later).pagers[k]? = some q ∧ q.mounted = false ∧
      q.position = p.position ∧ q.container = p.container ∧
      ((s.happen h).run later).Retired k

/-- However controllers are loaded and unloaded, whatever is answered to them and to the lists that
they mount, and in which order ever the jobs run, each list lives from the content that it belongs
to until the next load or unload. -/
theorem nested_lists_in_order (screen : Screen) (specs : List ControllerSpec)
    (history : List Happening) {i : Nat} {c : Controller}
    (at_i : ((fresh screen specs).run history).controllers[i]? = some c) :
    NestedListsInOrder history ((fresh screen specs).run history) i c := by
  have linked := (Linked.fresh screen specs).run history
  have owned := (Owned.fresh screen specs).run (Linked.fresh screen specs) history
  have nested := nestedOf_eq at_i
  refine ⟨?_, ?_, ?_, ?_, ?_⟩
  · intro n ticket visit request a content ready decoded
    have bound := (List.getElem?_eq_some_iff.mp at_i).1
    obtain ⟨c', at_i', waits, -⟩ := linked.content_waits ready
    cases at_i.symm.trans at_i'
    have loading := (linked.controller i c at_i).loading.mpr (by simp [waits])
    have none_owned := (linked.controller i c at_i).bare (by simp [loading])
    have settled : (((((fresh screen specs).run history).finish n).showContent i c
        (.ok content)).note (.ready i visit content.payload?.isSome)).controllers[i]? =
          some c.settled := by
      rw [note_controllers, showContent_controllers]
      exact List.getElem?_set_self bound
    obtain ⟨owns, -, -, placed⟩ := acts_attached (c.spec.onReady visit content) settled
    rw [note_pagers, showContent_pagers, finish_pagers, Controller.settled, none_owned,
      List.nil_append] at owns
    rw [note_pagers, showContent_pagers, finish_pagers] at placed
    rw [linked.turn_content ready at_i, decoded]
    exact ⟨owns, placed⟩
  · exact fun k inside spared => mounted_of_nested screen specs spared (nested ▸ inside)
  · exact fun k inside p at_k on later spared =>
      lifetime linked owned (nested ▸ inside) at_k on spared
  · exact fun k inside p at_k h released => releases_empty (nested ▸ inside) at_k released
  · intro k inside p at_k h released later
    obtain ⟨q, at_q, off, position, container⟩ :=
      released_pager linked at_k (nested ▸ inside) released
    obtain ⟨r, at_r, off', position', container'⟩ :=
      unmounted_for_good (linked.happen h) at_q off later
    exact ⟨r, at_r, off', position'.trans position, container'.trans container,
      retired ((linked.happen h).run later) at_r off'⟩

/-- A list is mounted in a content and moved before its first page has come. -/
def listLeft : List Happening :=
  [.action (.load 0 {}), .action .step, .action (.answer 0 (.ok ⟨200, none, []⟩)), .action .step,
    .action .step, .action (.move 0 (.goto 2))]

theorem nested_lists_in_order_listLeft :
    ∃ c : Controller,
      ((fresh { containers := [{}] } [⟨"history", fun _ => "/", fun _ _ =>
        [.mount 0 { build := fun _ => { url := "/" } }]⟩]).run listLeft).controllers[0]? = some c ∧
      c.nested = [0] ∧
      NestedListsInOrder listLeft ((fresh { containers := [{}] } [⟨"history", fun _ => "/",
        fun _ _ => [.mount 0 { build := fun _ => { url := "/" } }]⟩]).run listLeft) 0 c :=
  ⟨_, rfl, rfl, nested_lists_in_order _ _ _ rfl⟩

end Stage

end MapSidebar
