import Triage.Command
import Triage.Rule.Check
import Triage.Rule.Marks

/-!
# Answering slash commands

`/checktask` reports which tasks match the issue, `/trytask` applies one task to it, and `/mark`
applies marks. What there is to say is posted as a comment.
-/

namespace Triage.Command

def code (text : String) : String := "\x60" ++ text ++ "\x60"

def checkRow (c : RuleCheck) : String :=
  let cells :=
    match c.error.filter (· ≠ "") with
    | some error => error ++ " | |"
    | none =>
      if c.missing then notConfigured ++ " | |"
      else
        let verdict := if c.found then ":heavy_check_mark:" else ":x:"
        code (c.query.getD "None") ++ " | " ++ verdict ++ " |"
  "| " ++ code c.name ++ " | " ++ cells

def checkTable (checks : List RuleCheck) : String :=
  if checks.isEmpty then code "/checktask" ++ " couldn't find any scheduled task."
  else
    "| Task | Query | Found |\n| - | - | - |\n" ++ Text.join "\n" (checks.map checkRow)

def markProblems (r : MarkReport) : List String :=
  let unknown :=
    if r.unknown.isEmpty then []
    else
      [code "/mark" ++ " couldn't find these keys in configuration: " ++
        Text.join ", " (r.unknown.map code)]
  unknown
    ++ r.invalid.map (fun e => code "/mark" ++ " couldn't use " ++ code e.1 ++ ": " ++ e.2)
    ++ r.failed.map (fun e => code "/mark" ++ " couldn't apply " ++ code e.1 ++ ": " ++ e.2)

/-- The answer to a trial of a task, where there is anything to say. -/
def trialReply : Except Failure (Option Execution) → Op Failure (Option String)
  | .ok (some _) => return none
  | .ok none => return some (code "/trytask" ++ " couldn't find the target scheduled task.")
  | .error (.configuration fault) =>
    return some (code "/trytask" ++ " couldn't use the target scheduled task: " ++ fault.message)
  | .error failure => Op.fail failure

/-- Carries a command out and gives the answer to it. Unknown commands have none. -/
def answer (command : Command) (c : Configuration) (issue : Issue) (now : Moment) :
    Op Failure (Option String) :=
  if command.name = "checktask" then do
    let checks ← RuleCheck.all c now issue.number command.words
    return some (checkTable checks)
  else if command.name = "trytask" then do
    let outcome ← Op.ofStep (Rule.tryOn c issue command.arguments).attempt
    trialReply outcome
  else if command.name = "mark" then do
    let report ← MarkReport.ofNames c issue command.words
    let problems := markProblems report
    return if problems.isEmpty then none else some (Text.join "\n" problems)
  else return none

/-- Carries out the first command of a comment and posts the answer. -/
def handle (c : Configuration) (issue : Issue) (body : Option String) (now : Moment) :
    Op Failure (Option String) :=
  match parse? body with
  | none => return none
  | some command => do
    let reply ← answer command c issue now
    match reply with
    | none => return none
    | some text => do
      Tracker.comment issue.number text
      return some text

end Triage.Command
