import Triage.Failure

/-!
# Notices

What a command shows: lines with their markup, tables, and reports of failures.
-/

namespace Triage.Console

structure Table where
  title : String
  columns : List String
  rows : List (List String)
  deriving DecidableEq, Repr

/-- Why the payload of an event is not used. -/
inductive PayloadFault where
  | unread (fault : LocalFault) (path : String)
  | notJson
  deriving DecidableEq, Repr

def PayloadFault.text : PayloadFault → String
  | .unread fault path => fault.text ++ ": " ++ Text.quoted path
  | .notJson => "not a JSON document"

inductive Notice where
  | line (text : String)
  | table (t : Table)
  | failed (failure : Failure)
  /-- A failure of a kind that a command does not expect. -/
  | surprised (failure : Failure)
  | badPayload (fault : PayloadFault)

namespace Notice

def red (text : String) : String := "[red]" ++ text ++ "[/red]"

def yellow (text : String) : String := "[yellow]" ++ text ++ "[/yellow]"

def trouble (text : String) : String := "❌ " ++ red text

def success (text : String) : String := "✅ " ++ text

def failureLine (message : String) : String := trouble ("Error: " ++ message)

def surpriseLine (message : String) : String := trouble ("Unexpected error: " ++ message)

def payloadLine (detail : String) : String := failureLine ("cannot read payload: " ++ detail)

/-- The lines of a notice; the cells of a table stand between bars. -/
def lines : Notice → List String
  | .line text => [text]
  | .table t => t.title :: (t.columns :: t.rows).map (Text.join " | ")
  | .failed failure => [failureLine failure.message]
  | .surprised failure => [surpriseLine failure.message]
  | .badPayload fault => [payloadLine fault.text]

end Notice

/-- How a command ends: with an exit code, by a failure nothing is done about, or with a sleep of
some seconds before it starts over. -/
inductive Ending where
  | exit (code : Nat)
  | crash (failure : Failure)
  | sleep (seconds : Int)

/-- What a command showed, how it ended, how long it slept in between, and the tokens it used. -/
structure Transcript where
  notices : List Notice := []
  ending : Ending := .exit 0
  sleeps : List Int := []
  tokens : List String := []

end Triage.Console
