import MapSidebar.Proofs.Navigation

/-!
# The last navigation wins

Once the active controller shows the answer to the request of the last URL, the sidebar and the focus
are what that answer makes of them. Nothing that was visited or answered before can still be seen.
-/
namespace MapSidebar

namespace Controller

def markupOf (a : Answer) : String :=
  match contentOf a with
  | .ok content => content.markup
  | .error e => failureMarkup e

/-- The geometry that is highlighted of a content. -/
def highlightOf (content : PartialContent) : Option RenderData :=
  match content.payload? with
  | some payload => if payload.render.isEmpty then none else some payload.render
  | none => none

/-- The geometry that an answer makes. -/
def focusOf (a : Answer) : Option RenderData :=
  match contentOf a with
  | .ok content => highlightOf content
  | .error _ => none

/-- Geometry is highlighted exactly when structured content has a point or a line. -/
theorem focusOf_eq_some_iff {a : Answer} {data : RenderData} :
    focusOf a = some data ↔ ∃ payload, contentOf a = .ok (.data payload) ∧
      (payload.render.points ≠ [] ∨ payload.render.lines ≠ []) ∧ data = payload.render := by
  unfold focusOf
  cases contentOf a with
  | error e => simp
  | ok content =>
    cases content with
    | html markup => simp [highlightOf, PartialContent.payload?]
    | data payload =>
      have nonempty : payload.render.isEmpty = false ↔
          payload.render.points ≠ [] ∨ payload.render.lines ≠ [] := by
        simp only [RenderData.isEmpty, Bool.and_eq_false_iff, List.isEmpty_eq_false_iff]
      cases empty : payload.render.isEmpty with
      | true =>
        have none_there : ¬ (payload.render.points ≠ [] ∨ payload.render.lines ≠ []) :=
          fun some_there => by simp [nonempty.mpr some_there] at empty
        simp [highlightOf, PartialContent.payload?, empty, none_there]
      | false =>
        have some_there := nonempty.mp empty
        simp [highlightOf, PartialContent.payload?, empty, some_there, eq_comm]

theorem error_of_mapError {α β ε : Type} {x : Except ε α} {f : ε → FetchError} {g : α → β}
    {e : FetchError} (failed : (x.mapError f).map g = .error e) : ∃ fault, e = f fault := by
  cases x with
  | error fault =>
    cases failed
    exact ⟨fault, rfl⟩
  | ok value => cases failed

/-- Content is never read as a cancellation. -/
theorem not_cancellation_of_failed {a : Answer} (wanted : a ≠ .error .cancelled) {e : FetchError}
    (failed : contentOf a = .error e) : e.isCancellation = false := by
  have other : e ≠ .cancelled := by
    rintro rfl
    cases a with
    | error d =>
      cases failed
      exact wanted rfl
    | ok response =>
      change PartialContent.ofResponse response = .error .cancelled at failed
      unfold PartialContent.ofResponse Response.errorForStatus at failed
      split at failed
      · change (if response.isJson then _ else _) = _ at failed
        split at failed
        · obtain ⟨fault, same⟩ := error_of_mapError failed
          cases same
        · obtain ⟨fault, same⟩ := error_of_mapError failed
          cases same
      · cases failed
  exact decide_eq_false other

end Controller

namespace Stage

variable {s : Stage} {specs : List ControllerSpec} {i n : Nat} {c : Controller} {a : Answer}
  {ticket : Ticket} {visit : Visit} {request : Request}

/-- Controller `i` shows what an answer makes. -/
structure Shows (i : Nat) (a : Answer) (s : Stage) : Prop where
  loaded : ∃ c, s.controllers[i]? = some c ∧ c.state = .loaded
  sidebar : s.screen.sidebar = Controller.markupOf a
  focus : s.screen.focus = Controller.focusOf a

/-- What a plain controller does once its content is shown leaves the sidebar alone. -/
theorem acts_screen (s : Stage) (i : Nat) (content : PartialContent) (list : Option PagerOptions)
    (blank : s.screen.focus = none) :
    ((StandardRoute.highlight content ++ list.toList.map (ReadyAction.mount 0)).foldl (act i)
        s).screen = { s.screen with focus := Controller.highlightOf content } := by
  have mounted : ∀ t : Stage,
      ((list.toList.map (ReadyAction.mount 0)).foldl (act i) t).screen = t.screen := by
    intro t
    cases list with
    | none => rfl
    | some options => exact t.mount_screen 0 options
  have same : s.screen = { s.screen with focus := none } := by rw [← blank]
  rw [List.foldl_append, mounted]
  cases content with
  | html markup => exact same
  | data payload =>
    cases empty : payload.render.isEmpty with
    | true =>
      simpa [StandardRoute.highlight, Controller.highlightOf, PartialContent.payload?, empty]
        using same
    | false =>
      simp [StandardRoute.highlight, Controller.highlightOf, PartialContent.payload?, empty, act,
        write, ScreenWrite.apply]

namespace Exclusive

/-- A controller that uses an answer shows what the answer makes, whatever was shown before. -/
theorem turn_shows {active : Option Nat} (ex : s.Exclusive specs active)
    (plain : ∀ spec ∈ specs, spec.Plain)
    (ready : s.HasAnswer n (.content i ticket visit request) a) (wanted : a ≠ .error .cancelled) :
    (s.turn n).Shows i a := by
  obtain ⟨c, at_i, -, -⟩ := ex.linked.content_waits ready
  have known : c.spec ∈ specs := by
    rw [← ex.made]
    exact List.mem_map_of_mem (List.mem_of_getElem? at_i)
  have screen : (s.turn n).screen.sidebar = Controller.markupOf a ∧
      (s.turn n).screen.focus = Controller.focusOf a := by
    unfold Controller.markupOf Controller.focusOf
    cases decoded : Controller.contentOf a with
    | error e =>
      have shown := turn_fetch_failed ex.linked ready at_i decoded
        (Controller.not_cancellation_of_failed wanted decoded)
      rw [shown]
      exact ⟨rfl, rfl⟩
    | ok content =>
      obtain ⟨list, actions⟩ := plain c.spec known visit content
      rw [turn_fetch_ok ex.linked ready at_i decoded, actions, acts_screen _ i content list rfl]
      exact ⟨rfl, rfl⟩
  exact ⟨turn_fetch_loaded ex.linked ready at_i, screen.1, screen.2⟩

end Exclusive

end Stage

namespace Explorer

variable {e : Explorer} {specs : List ControllerSpec} {i n : Nat} {a : Answer} {ticket : Ticket}
  {visit : Visit} {request : Request}

/-- The sidebar once a URL has been visited and its request has its answer. -/
def answered (e : Explorer) (url : String) (a : Answer) : Explorer :=
  ((e.dispatch url).1.settle.answer 0 a).1.settle

end Explorer

end MapSidebar
