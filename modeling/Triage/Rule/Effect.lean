import Triage.Labels
import Triage.Rule.ActionSet
import Triage.Template
import Triage.Tracker.Request

/-!
# Effects of action sets

The effects of an action set on an issue are planned from a snapshot and then performed one after
another. Every effect but the comment sets an absolute end state. The first that fails keeps the
others from being performed.
-/

namespace Triage

inductive Effect where
  | replaceLabels (labels : List String)
  | addLabels (labels : List String)
  | comment (body : String)
  | setState (state : IssueState)
  | unlock
  | lock (reason : LockReason)
  | unassign (logins : List String)
  | assign (logins : List String)
  deriving DecidableEq, Repr

/-- What was done to an issue, in order. -/
structure Execution where
  issue : Int
  effects : List Effect
  deriving DecidableEq, Repr

namespace Effect

def method : Effect → String
  | .replaceLabels _ => "replace_labels"
  | .addLabels _ => "add_labels"
  | .comment _ => "create_comment"
  | .setState _ => "update_state"
  | .unlock => "unlock"
  | .lock _ => "lock"
  | .unassign _ => "remove_assignees"
  | .assign _ => "add_assignees"

def perform (n : Int) : Effect → Op Failure Unit
  | .replaceLabels labels => Tracker.replaceLabels n labels
  | .addLabels labels => Tracker.addLabels n labels
  | .comment body => Tracker.comment n body
  | .setState state => Tracker.setState n state.text
  | .unlock => Tracker.unlock n
  | .lock reason => Tracker.lock n reason.text
  | .unassign logins => Tracker.unassign n logins
  | .assign logins => Tracker.assign n logins

/-- Performs the effects on an issue up to the first that fails. -/
def performAll (n : Int) : List Effect → Op Failure Unit
  | [] => pure ()
  | e :: es => do
    perform n e
    performAll n es

end Effect

namespace ActionSet

/-- A list that is there and has items. -/
def given (items : Option (List String)) : Option (List String) :=
  items.filter (!·.isEmpty)

/-- The assignees to remove from an issue: those named, or all it has. -/
def assigneesToRemove (a : ActionSet) (issue : Issue) : Option (List String) :=
  given ((given a.removeAssignees).map fun logins =>
    if a.removesAllAssignees then issue.assigneeLogins else logins)

def lockEffect : LockChange → Effect
  | .unlock => .unlock
  | .lock reason => .lock reason

/-- The effects on an issue in their fixed order. -/
def plan (a : ActionSet) (issue : Issue) : List Effect :=
  ((given a.removeLabels).map fun targets =>
      Effect.replaceLabels (Labels.without issue.labelNames targets)).toList
    ++ ((given a.addLabels).map .addLabels).toList
    ++ ((given a.replaceLabels).map .replaceLabels).toList
    ++ ((a.comment.filter (· ≠ "")).map fun template =>
      Effect.comment (Template.render template issue)).toList
    ++ (a.setState.map .setState).toList
    ++ (a.setLocked.map lockEffect).toList
    ++ ((a.assigneesToRemove issue).map .unassign).toList
    ++ ((given a.addAssignees).map .assign).toList

def execute (a : ActionSet) (issue : Issue) : Op Failure Execution := do
  let effects := a.plan issue
  Effect.performAll issue.number effects
  return ⟨issue.number, effects⟩

end ActionSet

end Triage
