import Triage.Duplicate.Relation

/-!
# Cascades

When an issue is closed or reopened, its direct duplicates follow. A duplicate that cannot follow is
left as it is and does not keep the others back. Longer chains advance by one issue for each event.
-/

namespace Triage.Duplicate

/-- The two ways to follow an issue. -/
inductive Cascade where
  | close
  | reopen
  deriving DecidableEq, Repr

namespace Cascade

/-- The state that duplicates have before they follow, and the one they are set to. -/
def source : Cascade → IssueState
  | .close => .opened
  | .reopen => .closed

def goal : Cascade → IssueState
  | .close => .closed
  | .reopen => .opened

def isEnabled (s : DuplicateSettings) : Cascade → Bool
  | .close => s.chainClose
  | .reopen => s.chainReopen

/-- The query for issues that may be duplicates of the changed one. -/
def query (c : Cascade) (label : String) (repository : Repository) : String :=
  "is:issue is:" ++ c.source.text ++ " label:\"" ++ label ++ "\" repo:" ++ repository.fullName

def verb : Cascade → String
  | .close => "Closed"
  | .reopen => "Reopened"

/-- The comment on the changed issue that names those that followed. -/
def summary (c : Cascade) (numbers : List Int) : String :=
  c.verb ++ " other issues that were marked as duplicates of this one: " ++
    Text.join ", " (numbers.map issueTag)

/-- Lets one candidate follow if it refers to the changed issue. -/
def follow (c : Cascade) (changed : Int) (candidate : Issue) : Op Failure (Option Int) := do
  let stored ← Tracker.getMetadata candidate.number metadataKey
  let target ← Op.ofExcept (target? (← Op.digitLimit) stored)
  if target = some changed then do
    Tracker.setState candidate.number c.goal.text
    return some candidate.number
  else return none

/-- The numbers of the candidates that followed; failures count as not following. -/
def followers (outcomes : List (Except Failure (Option Int))) : List Int :=
  outcomes.filterMap fun
    | .ok n => n
    | .error _ => none

/-- Lets the duplicates of a changed issue follow it and reports them on it. -/
def run (c : Cascade) (settings : Option DuplicateSettings) (issue : Issue) :
    Op Failure (List Int) :=
  match settings with
  | none => return []
  | some s =>
    if c.isEnabled s then do
      let repository ← Op.scope
      let candidates ← Tracker.searchIssues (c.query s.label repository)
      let outcomes ← Op.ofStep (Step.each (fun i => (c.follow issue.number i).attempt) candidates)
      let changed := followers outcomes
      if changed = [] then return []
      else do
        Tracker.comment issue.number (c.summary changed)
        return changed
    else return []

end Cascade

end Triage.Duplicate
