import MapSidebar.CommandLine.Start
import MapSidebar.Proofs.Tours

/-!
# What a run of the command line writes

A run writes its log and its blocks to the same place. The blocks do not depend on each other: apart
from the log, a run of several URLs prints what runs of each of them print. The log is shared, since
every run logs its start and a switch is logged where two URLs meet.
-/
namespace MapSidebar

namespace Server

end Server

namespace Explorer.Tells

variable {settings : Settings} {serve : Request → Answer} {previous : Option String}
  {urls : List String} {pieces : List Output}

/-- Apart from the log there is a block for each URL. -/
theorem printed (tells : Tells settings serve previous urls pieces) :
    List.Forall₂ (IsBlock settings serve) urls (pieces.filterMap Output.printed?) := by
  induction tells with
  | nil => exact .nil
  | cons logged shown rest ih =>
    rw [List.filterMap_append, Output.printed_logged]
    exact .cons shown ih

end Explorer.Tells

namespace CommandLine

open Explorer (IsBlock Tells keep)

variable {reply : ServerMessage → ServerReply} {log : List LogLine} {settings : Settings}

/-! ## Pieces -/

/-- What a run writes when `reply` tells what comes back for a message. -/
def written (reply : ServerMessage → ServerReply) (start : Start) : List Output :=
  ((run (m := StateM (List Output)) (fun message => pure (reply message))
    (fun text => keep (.shown text)) start (fun line => keep (.logged line))).run []).2

/-- What a run prints: all that it writes apart from the lines of the log. -/
def printed (reply : ServerMessage → ServerReply) (start : Start) : String :=
  String.join ((written reply start).filterMap Output.printed?)

/-- What is written before the first URL is visited. -/
def opening (log : List LogLine) (settings : Settings) : List Output :=
  (log ++ [LogLine.starting settings.serverUrl]).map .logged

end CommandLine

end MapSidebar
