import Triage.Labels
import Triage.Tracker.Request

/-!
# Peer labels

When a label is attached to an issue, the other labels of its namespace are taken off.
-/

namespace Triage.PeerLabels

/-- The labels to write after a label was attached; none when there is nothing to change. -/
def change? (issue : Issue) (attached : String) : Option (List String) :=
  (Labels.exclusive? issue.labelNames attached).filter fun labels =>
    !Labels.sameSet labels (issue.labelNames ++ [attached])

/-- Takes the peers of a label off the issue of a snapshot, if that is wanted. -/
def remove (enabled : Bool) (issue : Issue) (attached : String) :
    Op Failure (Option (List String)) :=
  match if enabled then change? issue attached else none with
  | none => return none
  | some labels => do
    Tracker.replaceLabels issue.number labels
    return some labels

end Triage.PeerLabels
