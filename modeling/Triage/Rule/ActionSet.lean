import Triage.Rule.Predicates

/-!
# Action sets

The changes that a task or a mark makes to one issue.
-/

namespace Triage

inductive LockReason where
  | offTopic
  | tooHeated
  | resolved
  | spam
  deriving DecidableEq, Repr

def LockReason.text : LockReason → String
  | .offTopic => "off-topic"
  | .tooHeated => "too heated"
  | .resolved => "resolved"
  | .spam => "spam"

def LockReason.options : List (String × LockReason) :=
  [("off-topic", .offTopic), ("too heated", .tooHeated), ("resolved", .resolved), ("spam", .spam)]

/-- A conversation is unlocked, or locked for a reason. -/
inductive LockChange where
  | unlock
  | lock (reason : LockReason)
  deriving DecidableEq, Repr

def LockChange.toValue : LockChange → Value
  | .unlock => .bool false
  | .lock reason => .str reason.text

structure ActionSet where
  removeLabels : Option (List String) := none
  addLabels : Option (List String) := none
  replaceLabels : Option (List String) := none
  comment : Option String := none
  setState : Option IssueState := none
  setLocked : Option LockChange := none
  removeAssignees : Option (List String) := none
  addAssignees : Option (List String) := none
  deriving DecidableEq, Repr

namespace ActionSet

/-- The word that stands for all current assignees. -/
def allAssignees : String := "all"

def removesAllAssignees (a : ActionSet) : Bool := a.removeAssignees == some [allAssignees]

def fields : List String :=
  ["remove_labels", "add_labels", "replace_labels", "comment", "set_state", "set_locked",
    "remove_assignees", "add_assignees"]

/-- False, and zero with it, unlocks; a reason locks. -/
def asLockChange (v : Value) : Checked LockChange :=
  if v.asInteger? = some 0 then .ok .unlock
  else
    match v.asOneOf LockReason.options with
    | .ok r => .ok (.lock r)
    | .faulty fs =>
      let options := Text.join "," (LockReason.options.map fun o => "'" ++ o.1 ++ "'")
      let place := "literal[" ++ options ++ "]"
      .faulty (⟨["literal[False]"], .notFalse⟩ :: fs.map fun f => { f with path := place :: f.path })

open Value Value.Mapping in
def ofFields (m : Mapping) : Checked ActionSet :=
  let opt {α : Type} (key : String) (check : Value → Checked α) : Checked (Option α) :=
    fieldOr none key (optional check) m
  pure ActionSet.mk
    <*> opt "remove_labels" asStrings
    <*> opt "add_labels" asStrings
    <*> opt "replace_labels" asStrings
    <*> opt "comment" asString
    <*> opt "set_state" (asOneOf IssueState.options)
    <*> opt "set_locked" asLockChange
    <*> opt "remove_assignees" asStrings
    <*> opt "add_assignees" asStrings

def check (m : Value.Mapping) : Checked ActionSet := Value.Mapping.closed fields ofFields m

/-- The actions that are there, as the mapping that describes them. -/
def toMapping (a : ActionSet) : Value.Mapping :=
  Value.Mapping.ofFields
    [("remove_labels", a.removeLabels.map Value.ofStrings),
      ("add_labels", a.addLabels.map Value.ofStrings),
      ("replace_labels", a.replaceLabels.map Value.ofStrings),
      ("comment", a.comment.map Value.str),
      ("set_state", a.setState.map (Value.str ·.text)),
      ("set_locked", a.setLocked.map LockChange.toValue),
      ("remove_assignees", a.removeAssignees.map Value.ofStrings),
      ("add_assignees", a.addAssignees.map Value.ofStrings)]

end ActionSet

end Triage
