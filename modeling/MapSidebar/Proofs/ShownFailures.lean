import MapSidebar.Proofs.Escaping
import MapSidebar.Proofs.Fetches
import MapSidebar.Proofs.Containers

/-!
# Failures are shown as text

Whatever the server puts into the message of a failure, what is shown for it is one box with the
message as its text: it can bring no tag of its own into the sidebar or into a list.
-/
namespace MapSidebar

/-- What is shown for a failed load. -/
theorem Controller.isBox_failureMarkup (e : FetchError) :
    Markup.IsBox (failureMarkup e) ("Failed to load content: " ++ e.message) :=
  Markup.isBox_errorFragment _

/-- What is shown for a failed page. -/
theorem Pager.isBox_failureMarkup (e : FetchError) :
    Markup.IsBox (failureMarkup e) ("Failed to load page: " ++ e.message) :=
  Markup.isBox_errorFragment _

namespace Stage

/-- What it is for escaping to be faithful and safe, and for a stage to rely on it. -/
structure FailuresAreText (s : Stage) : Prop where
  /-- One pass that puts the characters back for the entities gives the text back. -/
  faithful : ∀ text, Markup.unescape (Markup.escape text) = text
  /-- No tag and no quoted value begins or ends in an escaped text, and every `&` begins an
  entity. -/
  safe : ∀ text, Markup.IsText (Markup.escape text).toList
  /-- Texts may be escaped one by one. -/
  appended : ∀ first last,
    Markup.escape (first ++ last) = Markup.escape first ++ Markup.escape last
  /-- Different messages are shown differently, -/
  injective : Function.Injective Markup.errorFragment
  /-- each as one box around itself. -/
  boxed : ∀ message, Markup.IsBox (Markup.errorFragment message) message
  /-- A failed load is shown in the sidebar, as a box around its message. -/
  load : ∀ n i ticket visit request a e, s.HasAnswer n (.content i ticket visit request) a →
    Controller.contentOf a = .error e → e.isCancellation = false →
    Markup.IsBox (s.turn n).screen.sidebar ("Failed to load content: " ++ e.message)
  /-- A failed page is shown in the container of its pager, as a box around its message. -/
  page : ∀ n k ticket request a e, s.HasAnswer n (.page k ticket request) a →
    Pager.pageOf a = .error e → e.isCancellation = false →
    ∃ p markup, s.pagers[k]? = some p ∧
      Markup.IsBox markup ("Failed to load page: " ++ e.message) ∧
      (s.turn n).log = s.log ++ [.write (.container p.container (.items (.replace markup)))] ∧
      (p.container < s.screen.containers.length →
        ((s.turn n).screen.container p.container).items = markup)

variable {s : Stage} {i k n : Nat} {ticket : Ticket} {visit : Visit} {request : Request} {a : Answer}
  {e : FetchError}

theorem failed_load_shown (linked : s.Linked)
    (ready : s.HasAnswer n (.content i ticket visit request) a)
    (failed : Controller.contentOf a = .error e) (wanted : e.isCancellation = false) :
    (s.turn n).screen.sidebar = Controller.failureMarkup e := by
  obtain ⟨c, at_i, -, -⟩ := linked.content_waits ready
  rw [turn_fetch_failed linked ready at_i failed wanted]

theorem failed_page_shown (linked : s.Linked) (ready : s.HasAnswer n (.page k ticket request) a)
    (failed : Pager.pageOf a = .error e) (wanted : e.isCancellation = false) :
    ∃ p, s.pagers[k]? = some p ∧
      (s.turn n).log = s.log ++
        [.write (.container p.container (.items (.replace (Pager.failureMarkup e))))] ∧
      (p.container < s.screen.containers.length →
        ((s.turn n).screen.container p.container).items = Pager.failureMarkup e) := by
  obtain ⟨p, at_k, -, -⟩ := linked.page_waits ready
  rw [turn_page_failed linked ready at_k failed wanted]
  refine ⟨p, at_k, rfl, fun there => ?_⟩
  rw [Screen.container_update_self there]

/-- Whatever is loaded and answered, and in which order ever the jobs run, a failure is shown as the
text of its message. -/
theorem failures_are_text (screen : Screen) (specs : List ControllerSpec)
    (history : List Happening) : FailuresAreText ((fresh screen specs).run history) := by
  have linked := (Linked.fresh screen specs).run history
  refine ⟨Markup.unescape_escape, Markup.isText_escape, Markup.escape_append,
    Markup.errorFragment_injective, Markup.isBox_errorFragment, ?_, ?_⟩
  · intro n i ticket visit request a e ready failed wanted
    rw [failed_load_shown linked ready failed wanted]
    exact Controller.isBox_failureMarkup e
  · intro n k ticket request a e ready failed wanted
    obtain ⟨p, at_k, log, shown⟩ := failed_page_shown linked ready failed wanted
    exact ⟨p, _, at_k, Pager.isBox_failureMarkup e, log, shown⟩

end Stage

end MapSidebar
