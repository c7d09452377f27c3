import MapSidebar.Proofs.Controls
import MapSidebar.Proofs.Endings

/-!
# What the items of a list show

In a container that a pager has to itself, the items are those of the page that it has put on display
last, as its hook leaves them, or tell of the failure that it has put there. A cancellation leaves them.
-/
namespace MapSidebar

/-- The items as the hook of a pager leaves them. -/
def PagerOptions.dress (options : PagerOptions) (items : String) : String :=
  match options.hook with
  | none => items
  | some hook => (hook items).foldl (fun markup w => w.apply markup) items

def PagerOptions.itemsOf (options : PagerOptions) : PageResult → String
  | .ok page => options.dress (String.join page.items)
  | .error e => Pager.failureMarkup e

namespace Stage

variable {s : Stage} {k m n : Nat} {p q : Pager} {l : Endings} {h : Happening}

/-- In a run, pager `k` has container `m` to itself from when it is mounted. -/
inductive HasContainer (k m : Nat) : Stage → List Happening → Prop where
  | nil {s : Stage} : HasContainer k m s []
  | cons {s : Stage} {h : Happening} {later : List Happening} :
    (s.pagers[k]?.isSome → s.OthersRest k m h) → HasContainer k m (s.happen h) later →
    HasContainer k m s (h :: later)

/-- There is a container `m`, and no controller writes items to it by itself. -/
structure LeftAlone (s : Stage) (m : Nat) : Prop where
  there : m < s.screen.containers.length
  specs : ∀ spec ∈ s.controllers.map Controller.spec, spec.Leaves Container.items m

theorem LeftAlone.happen (linked : s.Linked) (left : s.LeftAlone m) (h : Happening) :
    (s.happen h).LeftAlone m :=
  ⟨(s.happen_width h).symm ▸ left.there, (happen_specs linked h).symm ▸ left.specs⟩

/-- The hook of a pager dresses the items of its container. -/
theorem runHook_items (s : Stage) (k : Nat) (p : Pager)
    (there : p.container < s.screen.containers.length) :
    ((s.runHook k p).screen.container p.container).items =
      p.options.dress (s.screen.container p.container).items := by
  have written : ∀ (ws : List Write) (c : Container),
      ((ws.map ContainerWrite.items).foldl (fun c w => w.apply c) c).items =
        ws.foldl (fun markup w => w.apply markup) c.items := by
    intro ws
    induction ws with
    | nil => exact fun c => rfl
    | cons w ws ih => exact fun c => ih _
  cases given : p.options.hook with
  | none => simp only [runHook, PagerOptions.dress, given]
  | some hook =>
    simp only [runHook, PagerOptions.dress, given, writeContainer_eq]
    exact (congrArg Container.items (Screen.container_update_self there _)).trans (written _ _)

/-- If pager `k` is mounted on container `m`, the items are those of what it has put on display. -/
def ShowsItems (s : Stage) (k m : Nat) (l : Endings) : Prop :=
  ∀ p, s.pagers[k]? = some p → p.container = m → p.mounted = true → ∀ n result,
    onDisplay l = some (n, result) → (s.screen.container m).items = p.options.itemsOf result

namespace ShowsItems

/-- What is not for a pager, while the others on its container rest, leaves the items. -/
theorem items_kept (linked : s.Linked) (left : s.LeftAlone m) (rest : s.OthersRest k m h)
    (stays : ¬ s.Unmounts k h)
    (quiet : ∀ n ticket request a, s.turnOf h = some n →
      ¬ s.HasAnswer n (.page k ticket request) a) :
    ((s.happen h).screen.container m).items = (s.screen.container m).items := by
  refine happen_view linked left.specs h ?_ ?_
  · intro j r at_j own
    by_cases this : j = k
    · exact this ▸ stays
    · exact (rest j r at_j own this).2
  · intro j r n ticket request a at_j own given ready
    by_cases this : j = k
    · exact absurd (this ▸ ready) (quiet n ticket request a given)
    · obtain ⟨r', at_j', waits, -⟩ := linked.page_waits ready
      cases at_j.symm.trans at_j'
      cases waits.symm.trans ((linked.pager j r at_j).mounted (rest j r at_j own this).1)

/-- Whatever becomes of the pager, the items are those of what it has put on display. -/
theorem of_step (linked : s.Linked) (shows : s.ShowsItems k m l) (left : s.LeftAlone m)
    (rest : s.OthersRest k m h) (at_k : s.pagers[k]? = some p) (step : s.PagerStep k p h q)
    (own : p.container = m) (on : q.mounted = true) {result : PageResult}
    (shown : onDisplay ((s.ended? k h).toList ++ l) = some (n, result)) :
    ((s.happen h).screen.container m).items = q.options.itemsOf result := by
  subst own
  have turned : ∀ {n}, s.turnOf h = some n → s.happen h = s.turn n := by
    intro n given
    rcases s.happen_cases h with ⟨n', given', turned⟩ | ⟨none_given, -⟩
    · cases given.symm.trans given'
      exact turned
    · cases given.symm.trans none_given
  cases step with
  | kept refused quiet stays =>
    rw [ended?_quiet quiet] at shown
    rw [items_kept linked left rest stays quiet]
    exact shows p at_k rfl on n result shown
  | @issued move target moved wanted =>
    subst moved
    rw [ended?_quiet (by simp [turnOf])] at shown
    rw [Stage.happen, perform_move at_k, wanted]
    dsimp only
    rw [issuePage_screen]
    exact shows p at_k rfl (Pager.mounted_of_request wanted) n result shown
  | @shown n' ticket request a page given ready decoded =>
    rw [ended?_answered given ready, decoded] at shown
    cases shown
    rw [turned given, turn_page_ok linked ready at_k decoded, runHook_items _ k p]
    · dsimp only
      rw [Screen.container_update_self left.there]
      rfl
    · simpa [Screen.update] using left.there
  | @failed n' ticket request a e given ready failed =>
    rw [ended?_answered given ready, failed] at shown
    cases cancelled : e.isCancellation with
    | true =>
      rw [turned given, turn_page_cancelled linked ready at_k failed cancelled]
      exact shows p at_k rfl on n result ((onDisplay_cancelled cancelled).symm.trans shown)
    | false =>
      cases (onDisplay_failed cancelled).symm.trans shown
      rw [turned given, turn_page_failed linked ready at_k failed cancelled]
      dsimp only
      rw [Screen.container_update_self left.there]
      rfl
  | unmounted sequence gone => cases on

theorem run (linked : s.Linked) (shows : s.ShowsItems k m l) (blank : s.pagers[k]? = none → l = [])
    (left : s.LeftAlone m) {history : List Happening} (own : HasContainer k m s history) :
    (s.run history).ShowsItems k m (s.endings k l history) := by
  induction own generalizing l with
  | nil => exact shows
  | @cons s h later rest _ ih =>
    refine ih (linked.happen h) ?_ ?_ (left.happen linked h)
    · intro q at_q container on n result shown
      cases at_k : s.pagers[k]? with
      | none =>
        rw [ended?_absent linked at_k, blank at_k] at shown
        cases shown
      | some p =>
        obtain ⟨q', at_q', step⟩ := pager_step linked at_k h
        cases at_q.symm.trans at_q'
        exact shows.of_step linked left (rest (by rw [at_k]; rfl)) at_k step
          (step.container_eq ▸ container) on shown
    · intro absent
      cases at_k : s.pagers[k]? with
      | none => rw [ended?_absent linked at_k, blank at_k]; rfl
      | some p =>
        obtain ⟨q, at_q, -⟩ := pager_step linked at_k h
        cases absent.symm.trans at_q

theorem fresh (screen : Screen) (specs : List ControllerSpec) (k m : Nat) :
    (fresh screen specs).ShowsItems k m [] := by simp [ShowsItems, Stage.fresh]

end ShowsItems

end Stage

end MapSidebar
