import Triage.Failure
import Triage.Rule.ActionSet

/-!
# Named blocks

Tasks and marks are blocks with a name in the configuration. A block is checked when it is looked up,
so that a malformed one does not get in the way of the others.
-/

namespace Triage

/-- A scheduled task: predicates select issues, actions change them. -/
structure Rule where
  name : String
  predicates : Predicates := {}
  actions : ActionSet := {}
  deriving DecidableEq, Repr

/-- What was checked, or the failure its complaints make. A duration beyond all bounds is no
complaint about the value that holds it. -/
def Checked.orFail {α : Type} (failure : List FieldFault → Failure) : Checked α → Except Failure α
  | .ok a => .ok a
  | .faulty fs =>
    match fs.findSome? fun f => f.complaint.excess? with
    | some days => .error (.outOfRange (.duration days))
    | none => .error (failure fs)

def Checked.forBlock {α : Type} (kind : BlockKind) (name : String) (c : Checked α) :
    Except Failure α :=
  c.orFail fun fs => .configuration (.badBlock kind name fs)

/-- The fields of a block; an empty block has none. -/
def BlockKind.fields (kind : BlockKind) (name : String) : Value → Except Failure Value.Mapping
  | .null => .ok []
  | .map entries => .ok entries
  | _ => .error (.configuration (.blockNotMapping kind name))

/-- A mapping whose keys can all be written out. -/
def writable (m : Value.Mapping) : Except Failure Value.Mapping :=
  match m.findSome? fun e => e.1.numberFault? .standard with
  | some fault => .error (.rejected (.badNumeral fault))
  | none => .ok m

namespace Rule

/-- The keys of predicates all begin alike. -/
def isPredicateKey (key : Value) : Bool := "if_".toList.isPrefixOf key.text.toList

/-- Reads a task. Its actions are looked at when its predicates are in order. -/
def parse (name : String) (raw : Value) : Except Failure Rule :=
  ((BlockKind.task.fields name raw).bind writable).bind fun fields =>
    let conditions := fields.filter fun e => isPredicateKey e.1
    let actions := fields.filter fun e => !isPredicateKey e.1
    ((Predicates.check conditions).bind fun p =>
      (ActionSet.check actions).map fun a => Rule.mk name p a).forBlock .task name

end Rule

/-- Reads a mark, which has actions only. -/
def ActionSet.parse (name : String) (raw : Value) : Except Failure ActionSet :=
  (BlockKind.mark.fields name raw).bind fun fields =>
    (ActionSet.check fields).forBlock .mark name

/-- Blocks by name, unchecked, in the order of the file. -/
abbrev Blocks := List (String × Value)

namespace Blocks

/-- Names are the texts of the mapping's keys; of keys with one text the last block counts. -/
def ofMapping (m : Value.Mapping) : Except Failure Blocks :=
  (writable m).map fun m => Entries.ofPairs (m.map fun e => (e.1.text, e.2))

def names (b : Blocks) : List String := Entries.keys b

/-- The task of a name, checked now. -/
def rule? (b : Blocks) (name : String) : Except Failure (Option Rule) :=
  match Entries.get? name b with
  | none => .ok none
  | some raw => (Rule.parse name raw).map some

/-- The mark of a name, checked now. -/
def mark? (b : Blocks) (name : String) : Except Failure (Option ActionSet) :=
  match Entries.get? name b with
  | none => .ok none
  | some raw => (ActionSet.parse name raw).map some

end Blocks

end Triage
