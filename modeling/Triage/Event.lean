import Triage.Command.Reply
import Triage.Duplicate.Cascade
import Triage.Issue.Payload
import Triage.PeerLabels

/-!
# Events

An event has a name and a payload. Its key is the name with the payload's action, and decides what
is done: peer labels are removed, duplicates follow, comments are read. Fields of the payload are
looked at when they are needed, so that events which need none may have any payload.
-/

namespace Triage

namespace Payload

/-- A field of an object that need not have it. Values that are no objects cannot be asked. -/
def get? (key : String) : Json → Except Failure (Option Json)
  | .obj fields => .ok (Entries.get? (key : CodeText) fields)
  | _ => .error .noFields

/-- A field of an object that must have it. -/
def get (key : String) : Json → Except Failure Json
  | .obj fields => (Entries.get? (key : CodeText) fields).elim (.error (.missingKey key)) .ok
  | _ => .error .wrongType

/-- Whether a payload holds a key. Lists and texts are asked for an item or a part instead. -/
def holds (key : String) : Json → Except Failure Bool
  | .obj fields => .ok (Entries.get? (key : CodeText) fields).isSome
  | .arr items => .ok (items.any fun
      | .str s => s == key
      | _ => false)
  | .str s => .ok (Text.cut? key.toList s.chars).isSome
  | _ => .error .wrongType

/-- The text of a comment; everything empty counts as no text. -/
def bodyText (j : Json) : Except Failure (Option String) :=
  if j.truthy then
    match j with
    | .str s => .ok (some s.string)
    | _ => .error .wrongType
  else .ok none

/-- The previous body of an edited comment, null when there is none. -/
def previousBody (payload : Json) : Except Failure Json := do
  let changes := (← get? "changes" payload).getD (.obj [])
  let body := (← get? "body" changes).getD (.obj [])
  return (← get? "from" body).getD .null

open Payload in
def asName (place : String) (j : Json) : Checked String :=
  (leaf Value.asString j).under place

end Payload

namespace Event

open Payload

/-- The key of an event: its name, with the payload's action unless the name has a dot already. -/
def key (event : String) (payload : Json) : Except Failure String :=
  if '.' ∈ event.toList then .ok event
  else do
    match ← get? "action" payload with
    | none => return event
    | some action =>
      if action.truthy then return event ++ "." ++ (← (Value.ofJson action).writtenText)
      else return event

/-- The repository that an event belongs to, when its payload names one. -/
def repository? (payload : Json) : Except Failure (Option Repository) := do
  match ← get? "repository" payload with
  | none => return none
  | some r =>
    if r.truthy then do
      let login ← get "login" (← get "owner" r)
      let name ← get "name" r
      match pure Repository.mk <*> asName "owner" login <*> asName "name" name with
      | .ok repository => return some repository
      | .faulty faults => .error (.payload faults)
    else return none

/-- Removes the peers of the label that a payload says was attached. -/
def handleLabel (c : Configuration) (issue : Issue) (payload : Json) : Op Failure Unit := do
  let name ← Op.ofExcept (do get "name" (← get "label" payload))
  match name with
  | .str attached => do
    let _ ← PeerLabels.remove c.peerLabels issue attached.string
    return ()
  | _ => if c.peerLabels then Op.fail .wrongType else return ()

/-- Brings the duplicate relation up to date with a comment. Bodies are looked at where duplicates
are tracked, and the previous one when the comment was edited. -/
def handleComment (settings : Option DuplicateSettings) (action : Duplicate.CommentAction)
    (issue : Issue) (body previous : Json) : Op Failure (Option Duplicate.Consequence) :=
  if Duplicate.isTracked settings issue then do
    let present ← Op.ofExcept (bodyText body)
    let former ← Op.ofExcept (if action = .edited then bodyText previous else .ok none)
    Duplicate.handleComment settings action issue present former
  else return none

def handleCommand (c : Configuration) (issue : Issue) (body : Json) (now : Moment) :
    Op Failure (Option String) := do
  let text ← Op.ofExcept (bodyText body)
  Command.handle c issue text now

def commentAction? (key : String) : Option Duplicate.CommentAction :=
  match Text.dropLiteral? "issue_comment.".toList key.toList with
  | some rest => Duplicate.CommentAction.ofText? (String.ofList rest)
  | none => none

/-- Whether anything is done for an event, and what that is. -/
def react (key : String) (c : Configuration) (issue : Issue) (payload : Json) (now : Moment) :
    Op Failure Bool :=
  if key = "issues.labeled" then do
    handleLabel c issue payload
    return true
  else if key = "issues.closed" then do
    let _ ← Duplicate.Cascade.close.run c.duplicates issue
    return true
  else if key = "issues.reopened" then do
    let _ ← Duplicate.Cascade.reopen.run c.duplicates issue
    return true
  else
    match commentAction? key with
    | none => return false
    | some action => do
      let body ← Op.ofExcept (do
        let comment ← get "comment" payload
        return (← get? "body" comment).getD .null)
      let previous ← Op.ofExcept (previousBody payload)
      let _ ← handleComment c.duplicates action issue body previous
      if action = .created then do
        let _ ← handleCommand c issue body now
        return true
      else return true

/-- Handles one delivery of an event. The result is the event's key, none when it is ignored. -/
def handle (event : String) (payload : Json) (c : Configuration) (now : Moment) :
    Op Failure (Option String) := do
  let key ← Op.ofExcept (key event payload)
  let concernsIssue ← Op.ofExcept (holds "issue" payload)
  if concernsIssue then do
    let issue ← Op.ofExcept (do Issue.ofJson (← get "issue" payload))
    let handled ← react key c issue payload now
    return if handled then some key else none
  else return none

end Event

end Triage
