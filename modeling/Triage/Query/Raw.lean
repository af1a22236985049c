import Triage.Query.Clause

/-!
# Queries of unchecked predicates

A caller can hand over predicates that no check has seen, as an object. Each value that counts as
present then makes the clauses of its field, whatever its kind: it is written out by its text, and
anything with items is a list of labels. Durations alone have to be texts.
-/

namespace Triage.Query

/-- How the clauses of a field are made from its value. -/
inductive RawField where
  /-- The value's text after a key. -/
  | keyed (lead : String)
  | olderThan (field : TimeField)
  | labels (negated : Bool)
  | assignee
  | comments
  deriving DecidableEq, Repr

def rawFields : List (String × RawField) :=
  [("if_type", .keyed "type:"),
    ("if_state", .keyed "state:"),
    ("if_created", .olderThan .created),
    ("if_updated", .olderThan .updated),
    ("if_label", .labels false),
    ("if_no_label", .labels true),
    ("if_author", .keyed "author:"),
    ("if_not_author", .keyed "-author:"),
    ("if_assignee", .assignee),
    ("if_not_assigned", .keyed "-assignee:"),
    ("if_comments", .comments),
    ("if_review", .keyed "review:"),
    ("if_reviewed_by", .keyed "reviewed-by:"),
    ("if_linked", .keyed "linked:"),
    ("if_no_linked", .keyed "-linked:")]

/-- Whether a value is the word that stands for having none. -/
def isNoValue : Json → Bool
  | .str s => s == noValue
  | _ => false

/-- The items of a value that has some: a text consists of its characters, an object of its keys. -/
def rawItems : Json → Except Failure (List Json)
  | .arr items => .ok items
  | .str s => .ok (s.points.map fun p => .str ⟨[p]⟩)
  | .obj fields => .ok (fields.map fun f => .str f.1)
  | _ => .error .wrongType

def rawText (value : Json) : Except Failure String := (Value.ofJson value).writtenText

def rawLabel (negated : Bool) (item : Json) : Except Failure Clause :=
  if isNoValue item then .ok (.noLabel negated) else (rawText item).map (.label negated)

def rawDuration (field : TimeField) (now : Moment) : Json → Except Failure Clause
  | .str s => olderThan field s.string now
  | _ => .error .wrongType

/-- Whether a value makes clauses: a limit of comments does unless it is null. -/
def RawField.isPresent : RawField → Json → Bool
  | .comments, .null => false
  | .comments, _ => true
  | _, value => value.truthy

/-- The clauses that a field's value makes, as they are written. -/
def rawClauses (now : Moment) (field : RawField) (value : Json) : Except Failure (List String) :=
  if !field.isPresent value then .ok []
  else
    match field with
    | .keyed lead => (rawText value).map fun text => [lead ++ text]
    | .olderThan time => (rawDuration time now value).map fun c => [c.text]
    | .labels negated => do
      let clauses ← (← rawItems value).mapM (rawLabel negated)
      return clauses.map Clause.text
    | .assignee => (rawText value).map fun text => [(assigneeClause text).text]
    | .comments => (rawText value).map fun text => ["comments:<=" ++ text]

/-- The query of unchecked predicates, which must be an object. -/
def compileRaw (predicates : Json) (repository : Repository) (now : Moment) :
    Except Failure String :=
  match predicates with
  | .obj fields => do
    let clauses ← rawFields.mapM fun (key, field) =>
      rawClauses now field ((Entries.get? (key : CodeText) fields).getD .null)
    return Text.join " " ((Clause.repository repository).text :: clauses.flatten)
  | _ => .error .wrongType

end Triage.Query
