import Triage.Configuration
import Triage.Query.Clause
import Triage.Rule.Effect

/-!
# Sweeps over the scheduled tasks

A task is prepared, which finds its issues, and then finished, which applies its actions to each of
them. A sweep prepares all tasks before it finishes the first. Whatever goes wrong with one issue or
one task is kept in that task's report; only a date beyond the calendar stops the sweep, after the
other tasks have been run.
-/

namespace Triage

/-- The outcome of one task in one sweep: the issues its query found, the message of each failed
issue, and why the task was skipped, if it was. -/
structure RunReport where
  name : String
  query : Option String := none
  matched : List Int := []
  failed : List (Int × String) := []
  error : Option String := none
  deriving DecidableEq, Repr

def RunReport.skipped (r : RunReport) : Bool := r.error.isSome

/-- Why a task or mark is passed over when there is none of its name. -/
def notConfigured : String := "Not found in configuration"

namespace Sweep

/-- A task whose issues are found, or the report of one that is skipped. -/
inductive Prepared where
  | skipped (report : RunReport)
  | ready (name query : String) (actions : ActionSet) (issues : List Issue)

def compile (tasks : Blocks) (name : String) (repository : Repository) (now : Moment) :
    Except Failure (Option (String × ActionSet)) :=
  (tasks.rule? name).bind fun
    | none => .ok none
    | some rule =>
      (Query.compile rule.predicates repository now).map fun query => some (query, rule.actions)

/-- Compiles a task and searches for its issues. Faults of the configuration and failed searches
skip the task. -/
def prepare (tasks : Blocks) (now : Moment) (name : String) : Op Failure Prepared := do
  let repository ← Op.scope
  match compile tasks name repository now with
  | .error (.configuration fault) =>
    return .skipped { name, error := some fault.message }
  | .error failure => Op.fail failure
  | .ok none => return .skipped { name, error := some notConfigured }
  | .ok (some (query, actions)) => do
    let found ← Op.ofStep (Tracker.searchIssues query).attempt
    match found with
    | .ok issues => return .ready name query actions issues
    | .error failure =>
      return .skipped { name, query := some query, error := some failure.message }

/-- The messages of the issues whose execution failed; a repeated issue keeps its first place. -/
def failures (issues : List Issue) (outcomes : List (Except Failure Execution)) :
    List (Int × String) :=
  (issues.zip outcomes).foldl (fun failed p =>
    match p.2 with
    | .ok _ => failed
    | .error failure => Entries.put p.1.number failure.message failed) []

/-- Applies the task's actions to its issues one after another. -/
def finish : Prepared → Step RunReport
  | .skipped report => pure report
  | .ready name query actions issues => do
    let outcomes ← Step.each (fun i => (actions.execute i).attempt) issues
    return {
      name
      query := some query
      matched := issues.map (·.number)
      failed := failures issues outcomes }

def runRule (tasks : Blocks) (now : Moment) (name : String) : Op Failure RunReport := do
  let prepared ← prepare tasks now name
  Op.ofStep (finish prepared)

def runAll (c : Configuration) (now : Moment) : Op Failure (List RunReport) := do
  let tasks ← Op.ofExcept c.taskBlocks
  let prepared ← Op.ofStep (Step.each (fun n => (prepare tasks now n).attempt) tasks.names)
  Op.gather (fun outcome => do Op.ofStep (finish (← Op.ofExcept outcome))) prepared

end Sweep

end Triage
