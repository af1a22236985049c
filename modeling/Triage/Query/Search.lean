import Triage.Issue.Basic
import Triage.Text.Digit
import Triage.Text.Find

/-!
# Evaluating queries

A query is a list of terms that must all hold of an issue. Terms stand between blanks; double quotes
keep blanks together and are dropped. A term that is not understood holds of every issue.
-/

namespace Triage.Query

structure Term where
  negated : Bool
  key : String
  value : String
  deriving DecidableEq, Repr

/-- The terms of a text cut at blanks outside quotes; `current` is the term that is being read. -/
def cutTerms (quoted : Bool) (current : List Char) : List Char → List (List Char)
  | [] => if current = [] then [] else [current]
  | c :: cs =>
    if c = '"' then cutTerms (!quoted) current cs
    else if c = ' ' ∧ !quoted then
      if current = [] then cutTerms quoted [] cs else current :: cutTerms quoted [] cs
    else cutTerms quoted (current ++ [c]) cs

/-- A term is negated by a minus sign in front; its key ends at the first colon. -/
def Term.ofChars (cs : List Char) : Term :=
  let negated := cs.head? = some '-'
  let body := if negated then cs.drop 1 else cs
  let (key, value) := (Text.cut? [':'] body).getD (body, [])
  ⟨negated, String.ofList key, String.ofList value⟩

def terms (query : String) : List Term := (cutTerms false [] query.toList).map Term.ofChars

/-- A condition on the state or the type, when the value names one. -/
def namedCondition? (key value : String) : Option (Issue → Bool) :=
  if key = "is" ∨ key = "state" then
    if value = "open" ∨ value = "closed" then some fun i => i.state == value
    else if key = "is" then typeCondition? value
    else none
  else if key = "type" then typeCondition? value
  else none
where
  typeCondition? (value : String) : Option (Issue → Bool) :=
    if value = "issue" then some fun i => !i.isPullRequest
    else if value = "pr" then some fun i => i.isPullRequest
    else none

/-- The integer of a text of ASCII digits with an optional sign. -/
def limit? (cs : List Char) : Option Int :=
  let (negative, digits) := if cs.head? = some '-' then (true, cs.drop 1) else (false, cs)
  if digits ≠ [] ∧ digits.all Char.isDigit then
    let n : Int := Text.numeralIn 10 digits
    some (if negative then -n else n)
  else none

/-- Whether a known time is earlier than the timestamp: the reading of its own clock, compared as
text. -/
def isBefore (timestamp : String) (time : Option Moment) : Bool :=
  time.any fun m => String.ofList m.wallText < timestamp

def Term.condition (t : Term) : Issue → Bool :=
  match namedCondition? t.key t.value with
  | some condition => condition
  | none =>
    if t.key = "label" then fun i => t.value ∈ i.labelNames
    else if t.key = "no" ∧ t.value = "label" then fun i => i.labels.isEmpty
    else if t.key = "no" ∧ t.value = "assignee" then fun i => i.assignees.isEmpty
    else if t.key = "author" then fun i => i.user.map (·.login) = some t.value
    else if t.key = "assignee" then fun i => t.value ∈ i.assigneeLogins
    else
      match t.key, t.value.toList with
      | "comments", '<' :: '=' :: rest =>
        match limit? rest with
        | some n => fun i => i.comments ≤ n
        | none => fun _ => true
      | "created", '<' :: rest => fun i => isBefore (String.ofList rest) i.createdAt
      | "updated", '<' :: rest => fun i => isBefore (String.ofList rest) i.updatedAt
      | _, _ => fun _ => true

def Term.holds (t : Term) (i : Issue) : Bool := t.condition i != t.negated

def selects (query : String) (i : Issue) : Bool := (terms query).all (·.holds i)

/-- The issues a query selects, in their order. A fixed answer names its issues by number. -/
def search (fixed : List (String × List Int)) (query : String) (issues : List Issue) : List Issue :=
  match Entries.get? query fixed with
  | some numbers => numbers.filterMap fun n => issues.find? (·.number = n)
  | none => issues.filter (selects query)

end Triage.Query
