import Triage.Rule.Block

/-!
# Queries of tasks

A task's predicates become the clauses of a search query. Relative durations are resolved against the
current moment, so the same predicates select a sliding window.
-/

namespace Triage

/-- Which time of an issue a clause looks at. -/
inductive TimeField where
  | created
  | updated
  deriving DecidableEq, Repr

def TimeField.text : TimeField → String
  | .created => "created"
  | .updated => "updated"

inductive Clause where
  | repository (r : Repository)
  | type (t : IssueType)
  | state (s : IssueState)
  | olderThan (field : TimeField) (timestamp : String)
  | label (negated : Bool) (name : String)
  | noLabel (negated : Bool)
  | author (negated : Bool) (login : String)
  | noAssignee
  | assignee (negated : Bool) (login : String)
  | commentsAtMost (n : Int)
  | review (s : ReviewState)
  | reviewedBy (login : String)
  | linked (negated : Bool) (t : IssueType)
  deriving DecidableEq, Repr

namespace Clause

def sign (negated : Bool) : String := if negated then "-" else ""

def text : Clause → String
  | repository r => "repo:" ++ r.fullName
  | type t => "type:" ++ t.text
  | state s => "state:" ++ s.text
  | olderThan field timestamp => field.text ++ ":<" ++ timestamp
  | label negated name => sign negated ++ "label:\"" ++ name ++ "\""
  | noLabel negated => sign negated ++ "no:label"
  | author negated login => sign negated ++ "author:" ++ login
  | noAssignee => "no:assignee"
  | assignee negated login => sign negated ++ "assignee:" ++ login
  | commentsAtMost n => "comments:<=" ++ toString n
  | review s => "review:" ++ s.text
  | reviewedBy login => "reviewed-by:" ++ login
  | linked negated t => sign negated ++ "linked:" ++ t.text

end Clause

namespace Query

/-- The word that stands for having none. -/
def noValue : String := "no"

def render (clauses : List Clause) : String := Text.join " " (clauses.map Clause.text)

def labelClauses (negated : Bool) (labels : List String) : List Clause :=
  labels.map fun l => if l = noValue then .noLabel negated else .label negated l

/-- The clause for issues whose time lies further back than the duration. -/
def olderThan (field : TimeField) (duration : String) (now : Moment) : Except Failure Clause :=
  match Duration.parse duration with
  | .error (.tooLong days) => .error (.outOfRange (.duration days))
  | .error e => .error (.configuration (.badDuration e))
  | .ok d =>
    match (now.minus? d).bind Moment.timestamp? with
    | some t => .ok (.olderThan field t)
    | none => .error (.outOfRange .date)

/-- The clause of a text that is there and not empty. -/
def textClause (make : String → Clause) : Option String → List Clause
  | none => []
  | some s => if s = "" then [] else [make s]

def timeClause (field : TimeField) (now : Moment) : Option String → Except Failure (List Clause)
  | none => .ok []
  | some s => if s = "" then .ok [] else (olderThan field s now).map fun c => [c]

/-- The clause of a limit, which must be writable. -/
def commentsClause (limit : Option Int) : Except Failure (List Clause) :=
  match limit with
  | none => .ok []
  | some n =>
    match DigitLimit.standard.numberFault? n with
    | some fault => .error (.rejected (.badNumeral fault))
    | none => .ok [.commentsAtMost n]

def assigneeClause (login : String) : Clause :=
  if login = noValue then .noAssignee else .assignee false login

/-- The clauses of a task's predicates in the order of their fields, after the repository's. -/
def clauses (p : Predicates) (repository : Repository) (now : Moment) :
    Except Failure (List Clause) := do
  let created ← timeClause .created now p.created
  let updated ← timeClause .updated now p.updated
  let comments ← commentsClause p.comments
  return [.repository repository]
    ++ (p.type.map Clause.type).toList
    ++ (p.state.map Clause.state).toList
    ++ created
    ++ updated
    ++ labelClauses false (p.label.getD [])
    ++ labelClauses true (p.noLabel.getD [])
    ++ textClause (.author false) p.author
    ++ textClause (.author true) p.notAuthor
    ++ textClause assigneeClause p.assignee
    ++ textClause (.assignee true) p.notAssigned
    ++ comments
    ++ (p.review.map Clause.review).toList
    ++ textClause .reviewedBy p.reviewedBy
    ++ (p.linked.map (Clause.linked false)).toList
    ++ (p.noLinked.map (Clause.linked true)).toList

def compile (p : Predicates) (repository : Repository) (now : Moment) : Except Failure String :=
  (clauses p repository now).map render

/-- The query of a named task; none when there is no such task. -/
def ofTask (tasks : Blocks) (name : String) (repository : Repository) (now : Moment) :
    Except Failure (Option String) :=
  (tasks.rule? name).bind fun
    | none => .ok none
    | some rule => (compile rule.predicates repository now).map some

end Query

end Triage
