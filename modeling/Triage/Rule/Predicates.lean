import Triage.Validation

/-!
# Predicates of a task

The conditions that select a task's issues. Absent fields select nothing; each field that is there
will be one clause of the task's query, a list one clause for each of its items.
-/

namespace Triage

/-- Issues proper and pull requests. -/
inductive IssueType where
  | issue
  | pr
  deriving DecidableEq, Repr

def IssueType.text : IssueType → String
  | .issue => "issue"
  | .pr => "pr"

def IssueType.options : List (String × IssueType) := [("issue", .issue), ("pr", .pr)]

inductive IssueState where
  | opened
  | closed
  deriving DecidableEq, Repr

def IssueState.text : IssueState → String
  | .opened => "open"
  | .closed => "closed"

def IssueState.options : List (String × IssueState) := [("open", .opened), ("closed", .closed)]

inductive ReviewState where
  | none
  | required
  | approved
  | changesRequested
  deriving DecidableEq, Repr

def ReviewState.text : ReviewState → String
  | .none => "none"
  | .required => "required"
  | .approved => "approved"
  | .changesRequested => "changes_requested"

def ReviewState.options : List (String × ReviewState) :=
  [("none", .none), ("required", .required), ("approved", .approved),
    ("changes_requested", .changesRequested)]

/-- `created` and `updated` hold durations: the issue is older, or has been left alone for longer. -/
structure Predicates where
  type : Option IssueType := none
  state : Option IssueState := none
  created : Option String := none
  updated : Option String := none
  label : Option (List String) := none
  noLabel : Option (List String) := none
  author : Option String := none
  notAuthor : Option String := none
  assignee : Option String := none
  notAssigned : Option String := none
  comments : Option Int := none
  review : Option ReviewState := none
  reviewedBy : Option String := none
  linked : Option IssueType := none
  noLinked : Option IssueType := none
  deriving DecidableEq, Repr

namespace Predicates

def fields : List String :=
  ["if_type", "if_state", "if_created", "if_updated", "if_label", "if_no_label", "if_author",
    "if_not_author", "if_assignee", "if_not_assigned", "if_comments", "if_review", "if_reviewed_by",
    "if_linked", "if_no_linked"]

/-- A duration is kept as it is written, once it is known to be one. -/
def asDuration (v : Value) : Checked String :=
  v.asString.bind fun s =>
    match Duration.parse s with
    | .ok _ => .ok s
    | .error e => .fail (.badDuration e)

/-- A bare `no` is read as false in a document and means the word here. -/
def orBareNo {α : Type} (no : α) (check : Value → Checked α) : Value → Checked α
  | .bool false => .ok no
  | v => check v

def asCommentLimit (v : Value) : Checked Int :=
  v.asInteger.bind fun n => if n < 0 then .fail .negative else .ok n

open Value Value.Mapping in
def ofFields (m : Mapping) : Checked Predicates :=
  let opt {α : Type} (key : String) (check : Value → Checked α) : Checked (Option α) :=
    fieldOr none key (optional check) m
  pure Predicates.mk
    <*> opt "if_type" (asOneOf IssueType.options)
    <*> opt "if_state" (asOneOf IssueState.options)
    <*> opt "if_created" asDuration
    <*> opt "if_updated" asDuration
    <*> opt "if_label" (orBareNo ["no"] asStrings)
    <*> opt "if_no_label" (orBareNo ["no"] asStrings)
    <*> opt "if_author" asString
    <*> opt "if_not_author" asString
    <*> opt "if_assignee" (orBareNo "no" asString)
    <*> opt "if_not_assigned" asString
    <*> opt "if_comments" asCommentLimit
    <*> opt "if_review" (asOneOf ReviewState.options)
    <*> opt "if_reviewed_by" asString
    <*> opt "if_linked" (asOneOf IssueType.options)
    <*> opt "if_no_linked" (asOneOf IssueType.options)

def check (m : Value.Mapping) : Checked Predicates := Value.Mapping.closed fields ofFields m

/-- The predicates that are there, as the mapping that describes them. -/
def toMapping (p : Predicates) : Value.Mapping :=
  Value.Mapping.ofFields
    [("if_type", p.type.map (Value.str ·.text)),
      ("if_state", p.state.map (Value.str ·.text)),
      ("if_created", p.created.map Value.str),
      ("if_updated", p.updated.map Value.str),
      ("if_label", p.label.map Value.ofStrings),
      ("if_no_label", p.noLabel.map Value.ofStrings),
      ("if_author", p.author.map Value.str),
      ("if_not_author", p.notAuthor.map Value.str),
      ("if_assignee", p.assignee.map Value.str),
      ("if_not_assigned", p.notAssigned.map Value.str),
      ("if_comments", p.comments.map Value.int),
      ("if_review", p.review.map (Value.str ·.text)),
      ("if_reviewed_by", p.reviewedBy.map Value.str),
      ("if_linked", p.linked.map (Value.str ·.text)),
      ("if_no_linked", p.noLinked.map (Value.str ·.text))]

end Predicates

end Triage
