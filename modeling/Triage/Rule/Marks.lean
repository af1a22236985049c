import Triage.Configuration
import Triage.Rule.Effect

/-!
# Marks

Named action sets that are applied to one issue on request, each on its own: what is wrong with one
of them is noted, and the others are still applied.
-/

namespace Triage

/-- The outcome of applying marks: the names that were applied, those that are not configured, and
the messages of the malformed and of the failed ones. -/
structure MarkReport where
  applied : List String := []
  unknown : List String := []
  invalid : List (String × String) := []
  failed : List (String × String) := []
  deriving DecidableEq, Repr

namespace MarkReport

def isClean (r : MarkReport) : Bool := r.unknown.isEmpty && r.invalid.isEmpty && r.failed.isEmpty

def step (marks : Blocks) (issue : Issue) (report : MarkReport) (name : String) :
    Op Failure MarkReport :=
  match marks.mark? name with
  | .error (.configuration fault) =>
    return { report with invalid := Entries.put name fault.message report.invalid }
  | .error failure => Op.fail failure
  | .ok none => return { report with unknown := report.unknown ++ [name] }
  | .ok (some actions) => do
    let outcome ← Op.ofStep (actions.execute issue).attempt
    match outcome with
    | .ok _ => return { report with applied := report.applied ++ [name] }
    | .error failure =>
      return { report with failed := Entries.put name failure.message report.failed }

def stepAll (marks : Blocks) (issue : Issue) : MarkReport → List String → Op Failure MarkReport
  | report, [] => pure report
  | report, name :: names => do
    let report ← step marks issue report name
    stepAll marks issue report names

/-- Applies the named marks to the issue of a snapshot, in order. -/
def ofNames (c : Configuration) (issue : Issue) (names : List String) : Op Failure MarkReport := do
  let marks ← Op.ofExcept c.markBlocks
  stepAll marks issue {} names

end MarkReport

end Triage
