import Triage.Issue.Basic
import Triage.Text.Find

/-!
# Comment templates

A template may name the author and the assignees of the issue, as plain logins or as mentions.
-/

namespace Triage.Template

inductive Placeholder where
  | atAuthor
  | atAssignee
  | author
  | assignee
  deriving DecidableEq, Repr

def Placeholder.text : Placeholder → String
  | .atAuthor => "$\x7bAT_AUTHOR\x7d"
  | .atAssignee => "$\x7bAT_ASSIGNEE\x7d"
  | .author => "$\x7bAUTHOR\x7d"
  | .assignee => "$\x7bASSIGNEE\x7d"

/-- The order in which the placeholders are filled in. -/
def Placeholder.all : List Placeholder := [.atAuthor, .atAssignee, .author, .assignee]

/-- What a placeholder stands for: logins between blanks, nothing when there are none. -/
def Placeholder.value (issue : Issue) (p : Placeholder) : String :=
  let authors := (issue.user.map (·.login)).toList
  let mention (login : String) : String := "@" ++ login
  match p with
  | .atAuthor => Text.join " " (authors.map mention)
  | .atAssignee => Text.join " " (issue.assigneeLogins.map mention)
  | .author => Text.join " " authors
  | .assignee => Text.join " " issue.assigneeLogins

/-- The comment a template gives for an issue: one kind of placeholder is filled in after another. -/
def render (template : String) (issue : Issue) : String :=
  String.ofList <| Placeholder.all.foldl
    (fun body p => Text.replaceAll p.text.toList (p.value issue).toList body) template.toList

end Triage.Template
