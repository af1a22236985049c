import Triage.Configuration
import Triage.Duplicate.Cycle
import Triage.Duplicate.Reference
import Triage.Json.Integer
import Triage.Tracker.Request

/-!
# The duplicate relation

Comments on open issues mark them as duplicates of others and clear the mark again. The issue a
duplicate refers to is kept in its metadata, and the duplicate label shows it.
-/

namespace Triage.Duplicate

/-- What happened to a comment. -/
inductive CommentAction where
  | created
  | edited
  | deleted
  deriving DecidableEq, Repr

def CommentAction.ofText? : String → Option CommentAction
  | "created" => some .created
  | "edited" => some .edited
  | "deleted" => some .deleted
  | _ => none

/-- What a comment means for the issue it stands on. -/
inductive Consequence where
  | mark (target : Nat)
  | unmark
  deriving DecidableEq, Repr

def Consequence.text : Consequence → String
  | .mark _ => "marked"
  | .unmark => "unmarked"

/-- The field of the metadata that holds the issue a duplicate refers to. -/
def metadataKey : String := "duplicateOf"

/-- What a comment's present and previous references call for. The body of a deleted comment is the
one it had. -/
def consequenceOf (action : CommentAction) (present former : Option Nat) : Option Consequence :=
  match action, present with
  | .created, target => target.map .mark
  | .edited, some target => some (.mark target)
  | .edited, none => former.map fun _ => .unmark
  | .deleted, target => target.map fun _ => .unmark

/-- What a comment's present and previous body call for. The previous body is read when the comment
was edited. -/
def consequence (limit : DigitLimit) (action : CommentAction) (body previous : Option String) :
    Except NumeralFault (Option Consequence) := do
  let present ← reference limit body
  let former ← if action = .edited then reference limit previous else .ok none
  return consequenceOf action present former

/-- Whether comments on an issue are looked at: duplicates are tracked and the issue is open. -/
def isTracked (settings : Option DuplicateSettings) (issue : Issue) : Bool :=
  settings.isSome && issue.isOpen

def perform (settings : DuplicateSettings) (n : Int) : Consequence → Op Failure Unit
  | .mark target => do
    Tracker.setMetadata n metadataKey (.int target)
    Tracker.replaceLabels n [settings.label]
  | .unmark => do
    Tracker.setMetadata n metadataKey .null
    Tracker.removeLabel n settings.label

def handleComment (settings : Option DuplicateSettings) (action : CommentAction) (issue : Issue)
    (body previous : Option String) : Op Failure (Option Consequence) :=
  match settings with
  | none => return none
  | some s =>
    if issue.isOpen then do
      let limit ← Op.digitLimit
      match consequence limit action body previous with
      | .error fault => Op.fail (.rejected (.badNumeral fault))
      | .ok none => return none
      | .ok (some c) => do
        perform s issue.number c
        return some c
    else return none

/-- The issue that stored metadata refers to. An infinite number cannot be read at all. -/
def target? (limit : DigitLimit) (stored : Option Json) : Except Failure (Option Int) :=
  match stored.map (Json.toInteger limit) with
  | some (.integer n) => .ok (some n)
  | some .infinite => .error (.outOfRange .infinity)
  | _ => .ok none

def settings (c : Configuration) : Except Failure DuplicateSettings :=
  c.duplicates.elim (.error .noFields) .ok

/-- The relation of all issues with the duplicate label. The metadata of every issue is read, and
only then looked at. -/
def collectEdges (settings : DuplicateSettings) : Op Failure Edges := do
  let repository ← Op.scope
  let issues ← Tracker.searchIssues
    ("is:issue label:\"" ++ settings.label ++ "\" repo:" ++ repository.fullName)
  let stored ← Op.gather (fun i => Tracker.getMetadata i.number metadataKey) issues
  let limit ← Op.digitLimit
  let targets ← Op.ofExcept (Op.allOrFirst (stored.map (target? limit)))
  return Entries.ofPairs ((issues.zip targets).filterMap fun p => p.2.map fun n => (p.1.number, n))

end Triage.Duplicate
