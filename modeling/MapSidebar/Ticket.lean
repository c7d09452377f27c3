/-!
# Tickets

An owner of requests keeps a counter. Issuing a ticket and invalidating both move the counter, so
only the ticket of the very last operation can be current; an answer that carries any other ticket
is stale.
-/
namespace MapSidebar

/-- The mark of one issued request. -/
structure Ticket where
  value : Nat
  deriving DecidableEq, Repr

/-- The counter that tickets are drawn from. -/
structure Sequence where
  current : Nat := 0
  deriving DecidableEq, Repr

namespace Sequence

/-- Issues a ticket; every earlier one becomes stale. -/
def issue (s : Sequence) : Sequence × Ticket := (⟨s.current + 1⟩, ⟨s.current + 1⟩)

/-- Makes every issued ticket stale without issuing one. -/
def invalidate (s : Sequence) : Sequence := ⟨s.current + 1⟩

/-- Whether an answer with this ticket may still be used. -/
def isCurrent (s : Sequence) (t : Ticket) : Bool := t.value = s.current

inductive Operation where
  | issue | invalidate
  deriving DecidableEq, Repr

/-- A sequence together with the tickets it has issued, oldest first. -/
structure History where
  sequence : Sequence := {}
  issued : List Ticket := []
  deriving DecidableEq, Repr

/-- One operation, remembering the ticket it issues. -/
def History.step (h : History) : Operation → History
  | .issue => ⟨h.sequence.issue.1, h.issued ++ [h.sequence.issue.2]⟩
  | .invalidate => ⟨h.sequence.invalidate, h.issued⟩

def History.live (h : History) : List Ticket := h.issued.filter h.sequence.isCurrent

end Sequence

end MapSidebar
