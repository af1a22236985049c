import Triage.Rule.Block

/-!
# Configuration

The whole configuration file over its defaults. Top-level keys that are not known are ignored; a key
that is there replaces its default.
-/

namespace Triage

/-- How duplicates are labelled, and whether they follow their target when it closes or reopens. -/
structure DuplicateSettings where
  label : String := "Status: Duplicated"
  chainClose : Bool := true
  chainReopen : Bool := true
  deriving DecidableEq, Repr

structure Configuration where
  peerLabels : Bool := true
  /-- Absent when duplicates are not tracked. -/
  duplicates : Option DuplicateSettings := some {}
  /-- The blocks as they are written; they get their names when they are used. -/
  tasks : Value.Mapping := []
  marks : Value.Mapping := []

namespace DuplicateSettings

def fields : List String := ["label", "chain_close", "chain_reopen"]

open Value Value.Mapping in
def ofFields (m : Mapping) : Checked DuplicateSettings :=
  pure DuplicateSettings.mk
    <*> fieldOr "Status: Duplicated" "label" asString m
    <*> fieldOr true "chain_close" asBool m
    <*> fieldOr true "chain_reopen" asBool m

/-- False and null switch tracking off; true asks for the defaults. -/
def check : Value → Checked (Option DuplicateSettings)
  | .bool false => .ok none
  | .null => .ok none
  | .bool true => .ok (some {})
  | .map entries => (Value.Mapping.closed fields ofFields entries).map some
  | _ => .fail (.notModel "DuplicatedIssuesConfig")

end DuplicateSettings

namespace Configuration

def defaultPath : String := ".github/ladybug.yml"

def taskBlocks (c : Configuration) : Except Failure Blocks := Blocks.ofMapping c.tasks

def markBlocks (c : Configuration) : Except Failure Blocks := Blocks.ofMapping c.marks

/-- A mapping of blocks; null is an empty one. -/
def asBlocks : Value → Checked Value.Mapping
  | .null => .ok []
  | .map entries => .ok entries
  | _ => .fail .notMapping

open Value Value.Mapping in
def ofFields (m : Mapping) : Checked Configuration :=
  pure Configuration.mk
    <*> fieldOr true "peer_labels" asBool m
    <*> fieldOr (some {}) "duplicated_issues" DuplicateSettings.check m
    <*> fieldOr [] "scheduled_tasks" asBlocks m
    <*> fieldOr [] "mark_actions" asBlocks m

/-- The configuration that a document holds; an empty document holds the defaults. -/
def ofValue : Value → Except Failure Configuration
  | .null => .ok {}
  | .map entries =>
    match ofFields entries with
    | .ok c => .ok c
    | .faulty fs => .error (.configuration (.badFields fs))
  | _ => .error (.configuration .notMapping)

/-- The configuration that the text of a file holds; no file and a blank one hold the defaults. -/
def load (text : Option String) : Except Failure Configuration :=
  match text with
  | none => .ok {}
  | some t =>
    if t.toList.all Text.isBlank then .ok {}
    else
      match Yaml.Document.read t with
      | .ok v => ofValue v
      | .error (.malformed fault) => .error (.configuration (.malformed fault))
      | .error (.badValue fault) => .error (.badValue fault)

end Configuration

end Triage
