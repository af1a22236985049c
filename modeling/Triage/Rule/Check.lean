import Triage.Rule.Sweep

/-!
# Checking and trying tasks on one issue

A check tells whether an issue is among those a task's query finds, and changes nothing. A trial
applies a task's actions whatever its query says.
-/

namespace Triage

/-- Whether an issue matches a task's query. -/
structure RuleCheck where
  name : String
  query : Option String := none
  found : Bool := false
  error : Option String := none
  deriving DecidableEq, Repr

/-- There is no task of the name. -/
def RuleCheck.missing (c : RuleCheck) : Bool := c.query.isNone && c.error.isNone

namespace RuleCheck

open Value Value.Mapping in
/-- The check that a mapping's fields describe; other fields are passed over. -/
def ofFields (m : Mapping) : Checked RuleCheck :=
  pure RuleCheck.mk
    <*> required "name" asString m
    <*> fieldOr none "query" (optional asString) m
    <*> fieldOr false "found" asBool m
    <*> fieldOr none "error" (optional asString) m

def ofValue : Value → Except Failure RuleCheck
  | .map entries => (ofFields entries).orFail .payload
  | _ => .error .wrongType

/-- Checks one task. A fault of the configuration is part of the answer. -/
def ofTask (tasks : Blocks) (now : Moment) (number : Int) (name : String) :
    Op Failure RuleCheck := do
  let repository ← Op.scope
  match Query.ofTask tasks name repository now with
  | .error (.configuration fault) => return { name, error := some fault.message }
  | .error failure => Op.fail failure
  | .ok none => return { name }
  | .ok (some query) => do
    let issues ← Tracker.searchIssues query
    return { name, query := some query, found := issues.any (·.number = number) }

/-- Checks the named tasks in order, or all tasks when none are named. -/
def all (c : Configuration) (now : Moment) (number : Int) (names : List String) :
    Op Failure (List RuleCheck) := do
  let tasks ← Op.ofExcept c.taskBlocks
  Op.each (ofTask tasks now number) (if names = [] then tasks.names else names)

end RuleCheck

/-- Applies a task's actions to an issue; none when there is no such task. -/
def Rule.tryOn (c : Configuration) (issue : Issue) (name : String) :
    Op Failure (Option Execution) := do
  let tasks ← Op.ofExcept c.taskBlocks
  let rule ← Op.ofExcept (tasks.rule? name)
  match rule with
  | none => return none
  | some rule => do
    let execution ← rule.actions.execute issue
    return some execution

end Triage
