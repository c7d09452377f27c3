import MapSidebar.Proofs.NestedLists

/-!
# What an unload leaves

With an unload a controller lets go of all that it has: its fetch, the lists in its content and the
surfaces. A controller that is idle has nothing; so its unload leaves everything as it is, and above all
what others have written to the screen in the meantime.
-/
namespace MapSidebar.Stage

/-- What occurs on a stage to whose screen others write as well. -/
inductive Occurrence where
  | happening (h : Happening)
  /-- Somebody who is not on the stage writes to the screen. -/
  | foreign (w : ScreenWrite)

def occur (s : Stage) : Occurrence → Stage
  | .happening h => s.happen h
  | .foreign w => s.write w

def runAmong (s : Stage) (events : List Occurrence) : Stage := events.foldl occur s

/-- Controller `i` has never been loaded, or not since its last unload. -/
def Untouched (i : Nat) (events : List Occurrence) : Prop :=
  ∀ before visit after, events = before ++ .happening (.action (.load i visit)) :: after →
    .happening (.action (.unload i)) ∈ after

variable {s : Stage} {i j k n : Nat} {c : Controller} {h : Happening} {e : Occurrence}
  {events : List Occurrence}

theorem runAmong_concat (s : Stage) (events : List Occurrence) (e : Occurrence) :
    s.runAmong (events ++ [e]) = (s.runAmong events).occur e := by simp [runAmong]

theorem runAmong_append (s : Stage) (before after : List Occurrence) :
    s.runAmong (before ++ after) = (s.runAmong before).runAmong after := List.foldl_append

/-- What every occurrence keeps holds after every run among others. -/
theorem runAmong_induction {motive : Stage → Prop} (start : motive s)
    (kept : ∀ (t : Stage) (e : Occurrence), motive t → motive (t.occur e))
    (events : List Occurrence) : motive (s.runAmong events) :=
  List.foldlRecOn events occur start fun t ht e _ => kept t e ht

theorem Linked.occur (linked : s.Linked) (e : Occurrence) : (s.occur e).Linked := by
  cases e with
  | happening h => exact linked.happen h
  | foreign w => exact linked

theorem Linked.runAmong (linked : s.Linked) (events : List Occurrence) :
    (s.runAmong events).Linked :=
  runAmong_induction linked (fun _ e linked => linked.occur e) events

theorem Owned.occur (owned : s.Owned) (linked : s.Linked) (e : Occurrence) :
    (s.occur e).Owned := by
  cases e with
  | happening h => exact owned.happen linked h
  | foreign w => exact ⟨owned.bound, owned.single⟩

theorem Owned.runAmong (owned : s.Owned) (linked : s.Linked) (events : List Occurrence) :
    (s.runAmong events).Owned :=
  (runAmong_induction (motive := fun t => t.Linked ∧ t.Owned) ⟨linked, owned⟩
    (fun _ e ⟨linked, owned⟩ => ⟨linked.occur e, owned.occur linked e⟩) events).2

/-! ## The lists -/

/-- A pager is owned by controller `i`, or is not mounted any more. -/
def OwnedOrOff (s : Stage) (i k : Nat) : Prop :=
  k ∈ s.nestedOf i ∨ ∃ p, s.pagers[k]? = some p ∧ p.mounted = false

theorem OwnedOrOff.off (held : s.OwnedOrOff i k) (linked : s.Linked) (owned : s.Owned)
    (released : h.Releases i) : ∃ p, (s.happen h).pagers[k]? = some p ∧ p.mounted = false := by
  rcases held with inside | ⟨p, at_k, off⟩
  · have at_k := List.getElem?_eq_getElem (owned.bound i k inside)
    obtain ⟨q, at_q, off, -⟩ := released_pager linked at_k inside released
    exact ⟨q, at_q, off⟩
  · obtain ⟨q, at_q, off, -⟩ := unmounted_for_good linked at_k off [h]
    exact ⟨q, at_q, off⟩

theorem OwnedOrOff.occur (held : s.OwnedOrOff i k) (linked : s.Linked) (owned : s.Owned)
    (e : Occurrence) : (s.occur e).OwnedOrOff i k := by
  cases e with
  | foreign w => exact held
  | happening h =>
    by_cases released : h.Releases i
    · exact .inr (held.off linked owned released)
    · rcases held with inside | ⟨p, at_k, off⟩
      · exact .inl (nested_kept linked inside released)
      · obtain ⟨q, at_q, off, -⟩ := unmounted_for_good linked at_k off [h]
        exact .inr ⟨q, at_q, off⟩

/-- What a controller has ever mounted it owns still, or it is not mounted any more. -/
theorem OwnedOrOff.of_attached (linked : s.Linked) (owned : s.Owned) (inside : k ∈ s.nestedOf i)
    (events : List Occurrence) : (s.runAmong events).OwnedOrOff i k :=
  (runAmong_induction (motive := fun t => t.Linked ∧ t.Owned ∧ t.OwnedOrOff i k)
    ⟨linked, owned, .inl inside⟩ (fun _ e ⟨linked, owned, held⟩ =>
      ⟨linked.occur e, owned.occur linked e, held.occur linked owned e⟩) events).2.2

/-! ## The state -/

theorem untouched_concat : Untouched i (events ++ [e]) ↔ e = .happening (.action (.unload i)) ∨
    Untouched i events ∧ ∀ visit, e ≠ .happening (.action (.load i visit)) := by
  constructor
  · intro untouched
    by_cases unloads : e = .happening (.action (.unload i))
    · exact .inl unloads
    · refine .inr ⟨?_, ?_⟩
      · rintro before visit after rfl
        have inside := untouched before visit (after ++ [e]) (by simp)
        simpa [Ne.symm unloads] using inside
      · rintro visit rfl
        have inside := untouched events visit [] rfl
        cases inside
  · intro last before visit after cut
    rcases List.eq_nil_or_concat after with rfl | ⟨after, final, rfl⟩
    · obtain ⟨-, one⟩ := List.append_inj' cut rfl
      cases one
      rcases last with unloads | ⟨-, not_load⟩
      · cases unloads
      · exact absurd rfl (not_load visit)
    · rw [List.concat_eq_append] at cut ⊢
      rw [← List.cons_append, ← List.append_assoc] at cut
      obtain ⟨rfl, one⟩ := List.append_inj' cut rfl
      cases one
      rcases last with rfl | ⟨untouched, -⟩
      · simp
      · exact List.mem_append_left _ (untouched before visit after rfl)

/-- The state of controller `i`, if it is there. -/
def stateOf (s : Stage) (i : Nat) : Option ControllerState :=
  s.controllers[i]?.map Controller.state

theorem stateOf_eq (at_i : s.controllers[i]? = some c) : s.stateOf i = some c.state := by
  simp [stateOf, at_i]

theorem stateOf_congr {t : Stage} (same : t.controllers[i]? = s.controllers[i]?) :
    t.stateOf i = s.stateOf i := by
  rw [stateOf, same, stateOf]

/-- The state of a controller is left, or it was loading and is loaded now. -/
def StateStep (s t : Stage) (i : Nat) : Prop :=
  t.stateOf i = s.stateOf i ∨ s.stateOf i = some .loading ∧ t.stateOf i = some .loaded

theorem StateStep.idle_iff {t : Stage} (step : StateStep s t i) :
    t.stateOf i = some .idle ↔ s.stateOf i = some .idle := by
  rcases step with same | ⟨before, after⟩
  · rw [same]
  · simp [before, after]

theorem turn_stateOf (linked : s.Linked) (n : Nat) : StateStep s (s.turn n) i := by
  rcases s.turn_cases n with ⟨schedule, same, -⟩ | ⟨task, a, ready⟩
  · rw [same]
    exact .inl rfl
  · cases task with
    | page k ticket request =>
      exact .inl (stateOf_congr (by rw [linked.turn_page_controllers ready]))
    | content j ticket visit request =>
      obtain ⟨c, at_j, waits, -⟩ := linked.content_waits ready
      by_cases own : j = i
      · subst own
        have loading := (linked.controller j c at_j).loading.mpr (by simp [waits])
        obtain ⟨c', at_j', loaded⟩ := turn_fetch_loaded linked ready at_j
        exact .inr ⟨by rw [stateOf_eq at_j, loading], by rw [stateOf_eq at_j', loaded]⟩
      · exact .inl (stateOf_congr (turn_content_other linked ready (Ne.symm own)))

/-- Only a load and an unload of its own make a controller idle or end that. -/
theorem happen_stateOf (linked : s.Linked) (spared : ¬ h.Releases i) :
    StateStep s (s.happen h) i := by
  cases h with
  | turn n => exact turn_stateOf linked n
  | action action =>
    cases action with
    | step =>
      rcases s.step_cases with ⟨-, same⟩ | ⟨n, rest, -, turned⟩
      · exact .inl (by rw [happen, perform, same])
      · rw [happen, perform, turned]
        exact turn_stateOf linked n
    | load j visit =>
      refine .inl (stateOf_congr ?_)
      have other : j ≠ i := by
        rintro rfl
        exact spared (.load visit)
      cases at_j : s.controllers[j]? with
      | none => rw [happen, perform, load_of_none at_j]
      | some c =>
        rw [happen, perform, load_controllers at_j]
        exact List.getElem?_set_ne other
    | unload j =>
      refine .inl (stateOf_congr ?_)
      have other : j ≠ i := by
        rintro rfl
        exact spared .unload
      cases at_j : s.controllers[j]? with
      | none => rw [happen, perform, unload_of_none at_j]
      | some c =>
        rw [happen, perform, unload_controllers at_j]
        exact List.getElem?_set_ne other
    | mount container options =>
      exact .inl (stateOf_congr (by rw [happen, perform, mount_controllers]))
    | unmount k => exact .inl (stateOf_congr (by rw [happen, perform, unmount_controllers]))
    | answer request a => exact .inl rfl
    | move k m =>
      refine .inl (stateOf_congr ?_)
      rcases s.perform_move_cases k m with same | ⟨p, target, -, -, issued⟩
      · rw [happen, same]
      · rw [happen, issued, issuePage_controllers]

theorem load_stateOf (s : Stage) (i : Nat) (visit : Visit) :
    (s.load i visit).stateOf i ≠ some .idle := by
  cases at_i : s.controllers[i]? with
  | none => simp [load_of_none at_i, stateOf, at_i]
  | some c =>
    have bound := (List.getElem?_eq_some_iff.mp at_i).1
    have loading : (s.load i visit).controllers[i]? = some (c.issue s.schedule.nextJob) := by
      rw [load_controllers at_i]
      exact List.getElem?_set_self bound
    rw [stateOf_eq loading]
    simp [Controller.issue]

theorem fresh_stateOf (screen : Screen) (specs : List ControllerSpec) (there : i < specs.length) :
    (fresh screen specs).stateOf i = some .idle := by
  simp [stateOf, fresh, there]

theorem runAmong_length (linked : s.Linked) (events : List Occurrence) :
    (s.runAmong events).controllers.length = s.controllers.length := by
  refine (runAmong_induction (motive := fun t => t.Linked ∧
    t.controllers.length = s.controllers.length) ⟨linked, rfl⟩ ?_ events).2
  rintro t e ⟨linked, same⟩
  refine ⟨linked.occur e, ?_⟩
  cases e with
  | foreign w => exact same
  | happening h =>
    have kept := congrArg List.length (happen_specs linked h)
    rw [List.length_map, List.length_map] at kept
    exact kept.trans same

/-- A controller is idle exactly if no load has come since its last unload. -/
theorem idle_iff_untouched (linked : s.Linked) (idle : s.stateOf i = some .idle)
    (events : List Occurrence) : (s.runAmong events).stateOf i = some .idle ↔ Untouched i events := by
  induction events using List.reverseRecOn with
  | nil =>
    refine ⟨fun _ before visit after cut => ?_, fun _ => idle⟩
    simp at cut
  | append_singleton events e ih =>
    have old := linked.runAmong events
    have there : ∃ c, (s.runAmong events).controllers[i]? = some c := by
      have bound : i < (s.runAmong events).controllers.length := by
        rw [runAmong_length linked]
        obtain ⟨c, at_i, -⟩ := Option.map_eq_some_iff.mp idle
        exact (List.getElem?_eq_some_iff.mp at_i).1
      exact ⟨_, List.getElem?_eq_getElem bound⟩
    rw [runAmong_concat, untouched_concat]
    generalize s.runAmong events = t at *
    by_cases released : ∃ h, e = .happening h ∧ h.Releases i
    · obtain ⟨h, rfl, released⟩ := released
      cases released with
      | load visit =>
        refine ⟨fun now => absurd now (t.load_stateOf i visit), fun last => ?_⟩
        rcases last with unloads | ⟨-, not_load⟩
        · cases unloads
        · exact absurd rfl (not_load visit)
      | unload =>
        obtain ⟨c, at_i⟩ := there
        exact ⟨fun _ => .inl rfl, fun _ => stateOf_eq (unload_controller at_i)⟩
    · have same : (t.occur e).stateOf i = some .idle ↔ t.stateOf i = some .idle := by
        cases e with
        | foreign w => exact Iff.rfl
        | happening h =>
          exact (happen_stateOf old fun again => released ⟨h, rfl, again⟩).idle_iff
      rw [same, ih]
      constructor
      · intro untouched
        refine .inr ⟨untouched, ?_⟩
        rintro visit rfl
        exact released ⟨_, rfl, .load visit⟩
      · rintro (rfl | ⟨untouched, -⟩)
        · exact absurd ⟨_, rfl, .unload⟩ released
        · exact untouched

/-! ## The surfaces -/

/-- An unload of an idle controller only voids its tickets. -/
theorem unload_of_idle (linked : s.Linked) (at_i : s.controllers[i]? = some c)
    (idle : c.state = .idle) :
    s.unload i = s.setController i { c with sequence := c.sequence.invalidate } := by
  have old := linked.controller i c at_i
  have task : c.task = none := by
    have waits := old.loading
    simpa [idle] using waits
  have nested : c.nested = [] := old.bare (by simp [idle])
  have released : s.release c = s := by
    rw [release, task, nested]
    rfl
  have unloaded : c.unloaded = { c with sequence := c.sequence.invalidate } := by
    rw [Controller.unloaded, ← task, ← nested, ← idle]
  rw [unload_eq at_i, released, unloaded, Controller.unloadWrites, if_pos idle]
  rfl

/-- An unload of a controller that is not idle leaves nothing of its content. -/
theorem unload_clears (at_i : s.controllers[i]? = some c) (busy : c.state ≠ .idle) :
    (s.unload i).screen.sidebar = "" ∧ (s.unload i).screen.focus = none := by
  rw [unload_eq at_i, Controller.unloadWrites, if_neg busy, writeAll_eq]
  exact ⟨rfl, rfl⟩

/-! ## All of it -/

/-- What an unload of controller `i` comes to once the events have led from `start` to `s`. -/
structure LetsGo (start : Stage) (events : List Occurrence) (s : Stage) (i : Nat) (c : Controller) :
    Prop where
  /-- The controller is idle, and has neither a fetch nor a list. -/
  idle : ∃ c', (s.unload i).controllers[i]? = some c' ∧ c'.spec = c.spec ∧ c'.state = .idle ∧
    c'.task = none ∧ c'.nested = []
  /-- None of its fetches is live, -/
  fetches : ∀ n visit, ¬ (s.unload i).LiveFetch i n visit
  /-- and no list that it has ever mounted is mounted or waits for a page. -/
  lists : ∀ before after k, events = before ++ after → k ∈ (start.runAmong before).nestedOf i →
    ∃ p, (s.unload i).pagers[k]? = some p ∧ p.mounted = false ∧ ∀ n, ¬ (s.unload i).LivePage k n
  /-- It was idle before exactly if it had never been loaded, or not since its last unload. -/
  untouched : c.state = .idle ↔ Untouched i events
  /-- If it was not, nothing is left in the sidebar and nothing is highlighted. -/
  cleared : c.state ≠ .idle →
    (s.unload i).screen.sidebar = "" ∧ (s.unload i).screen.focus = none
  /-- If it was, the unload only voids the tickets of the controller: what others have written is left,
  and so are all containers, lists and requests. -/
  spared : c.state = .idle →
    s.unload i = s.setController i { c with sequence := c.sequence.invalidate }
  /-- The same holds of a second unload, whatever has been there before the first. -/
  again : ∃ c', (s.unload i).controllers[i]? = some c' ∧ (s.unload i).unload i =
    (s.unload i).setController i { c' with sequence := c'.sequence.invalidate }

/-- Whatever a controller is made with, whatever happens on its stage and is written by others, an
unload lets go of what the controller has, and of nothing else. -/
theorem unload_lets_go (screen : Screen) (specs : List ControllerSpec) (events : List Occurrence)
    {i : Nat} {c : Controller}
    (at_i : ((fresh screen specs).runAmong events).controllers[i]? = some c) :
    LetsGo (fresh screen specs) events ((fresh screen specs).runAmong events) i c := by
  have start := Linked.fresh screen specs
  have linked := start.runAmong events
  have owned := (Owned.fresh screen specs).runAmong start
  have unloaded := unload_controller at_i
  have bound := (List.getElem?_eq_some_iff.mp at_i).1
  have idle_first : (fresh screen specs).stateOf i = some .idle := by
    rw [runAmong_length start] at bound
    exact fresh_stateOf screen specs (by simpa [fresh] using bound)
  refine ⟨⟨_, unloaded, rfl, rfl, rfl, rfl⟩, ?_, ?_, ?_, ?_, ?_, ?_⟩
  · exact not_liveFetch_unload linked i
  · rintro before after k rfl inside
    have held := OwnedOrOff.of_attached (start.runAmong before) (owned before) inside after
    rw [← runAmong_append] at held
    obtain ⟨p, at_k, off⟩ := held.off linked (owned _) .unload
    refine ⟨p, at_k, off, fun n live => ?_⟩
    rw [live.mounted (linked.unload i) at_k] at off
    cases off
  · rw [← idle_iff_untouched start idle_first events, stateOf_eq at_i, Option.some.injEq]
  · exact unload_clears at_i
  · exact unload_of_idle linked at_i
  · exact ⟨_, unloaded, unload_of_idle (linked.unload i) unloaded rfl⟩

/-- A list is mounted in a content, and somebody else writes to the sidebar before its first page has
come. -/
def listAmongOthers : List Occurrence :=
  [.happening (.action (.load 0 {})), .happening (.action .step),
    .happening (.action (.answer 0 (.ok ⟨200, none, []⟩))), .happening (.action .step),
    .happening (.action .step), .foreign (.sidebar (.replace "<p>elsewhere</p>"))]

theorem unload_lets_go_listAmongOthers :
    ∃ c : Controller,
      ((fresh { containers := [{}] } [⟨"history", fun _ => "/", fun _ _ =>
        [.mount 0 { build := fun _ => { url := "/" } }]⟩]).runAmong
          listAmongOthers).controllers[0]? = some c ∧
      c.state = .loaded ∧ c.nested = [0] ∧
      LetsGo (fresh { containers := [{}] } [⟨"history", fun _ => "/", fun _ _ =>
        [.mount 0 { build := fun _ => { url := "/" } }]⟩]) listAmongOthers
        ((fresh { containers := [{}] } [⟨"history", fun _ => "/", fun _ _ =>
          [.mount 0 { build := fun _ => { url := "/" } }]⟩]).runAmong listAmongOthers) 0 c :=
  ⟨_, rfl, rfl, rfl, unload_lets_go _ _ _ rfl⟩

end MapSidebar.Stage
