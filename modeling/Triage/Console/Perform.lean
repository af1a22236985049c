import Triage.Configuration.Fetch
import Triage.Console.Invocation
import Triage.Console.Notice
import Triage.Event
import Triage.Json.Reader

/-!
# Performing invocations

Each command loads the configuration, does its work and reports on it. Failures that come from the
configuration, the tracker or given values are reported and end the command with code 1.
-/

namespace Triage.Console

def version : String := "0.3.0"

abbrev Outcome := List Notice × Ending

namespace Invocation

/-- A command that has nothing more to say than its notices, with code 1 where something is wrong. -/
def finished (notices : List Notice) (clean : Bool) : Outcome :=
  (notices, .exit (if clean then 0 else 1))

def inScope {α : Type} (r : Repository) (x : Step α) : Step α := fun t h => x { t with scope := r } h

/-- Runs the rest of a command with a token, which must be given or in the environment. -/
def withToken (env : Environment) (r : Repository) (a : Access) (body : Step Outcome) :
    Step Transcript :=
  match (a.token.filter (· ≠ "")).or (env.lookup? "GITHUB_TOKEN") with
  | none => return { notices := [.failed (.rejected .tokenRequired)], ending := .exit 1 }
  | some token => do
    let (notices, ending) ← inScope r body
    return { notices, ending, tokens := [token] }

/-- Reports on the operation's result; failures are reported if they are of an expected kind. -/
def reporting {α : Type} (x : Op Failure α) (report : α → Outcome) : Step Outcome := do
  match ← x.attempt with
  | .ok a => return report a
  | .error f => return if f.isExpected then ([.failed f], .exit 1) else ([], .crash f)

def configuration (env : Environment) (a : Access) : Op Failure Configuration :=
  match a.configFile with
  | some path => Op.ofExcept (do Configuration.load (some (← env.text path)))
  | none => Configuration.fetch a.configPath

def numberList (numbers : List Int) : String :=
  if numbers = [] then "-" else Text.join ", " (numbers.map issueTag)

def reportRow (r : RunReport) : List String :=
  let status := r.error.elim "ok" fun e => Notice.red ("skipped: " ++ e)
  [r.name, numberList r.matched, numberList (Entries.keys r.failed), status]

def sweepTable (reports : List RunReport) : Table :=
  ⟨"Scheduled tasks", ["Task", "Matched", "Failed", "Status"], reports.map reportRow⟩

/-- One sweep. Whatever failure stops it is reported. -/
def sweep (env : Environment) (a : Access) (now : Moment) : Step (List Notice × Bool) := do
  let swept : Op Failure (List RunReport) := do
    let c ← configuration env a
    Sweep.runAll c now
  match ← swept.attempt with
  | .ok reports =>
    return ([.table (sweepTable reports)], reports.all fun r => !r.skipped && r.failed.isEmpty)
  | .error f => return ([if f.isExpected then .failed f else .surprised f], false)

def sweepOutcome (env : Environment) (a : Access) (interval : Option Int) (now : Moment) : Step Outcome := do
  let (notices, clean) ← sweep env a now
  match interval with
  | none => return finished notices clean
  | some seconds => return (notices, .sleep seconds)

def checkRow (c : RuleCheck) : List String :=
  match c.error.filter (· ≠ "") with
  | some error => [c.name, Notice.red error, ""]
  | none =>
    if c.missing then [c.name, Notice.red notConfigured, ""]
    else [c.name, c.query.getD "", if c.found then "✅" else "❌"]

def checkReport (issue : Int) (checks : List RuleCheck) : Outcome :=
  if checks.isEmpty then finished [.line (Notice.yellow "No scheduled tasks configured")] true
  else
    finished
      [.table ⟨"Tasks for " ++ issueTag issue, ["Task", "Query", "Found"], checks.map checkRow⟩] true

def checkOutcome (env : Environment) (a : Access) (issue : Int) (names : List String) (now : Moment) :
    Step Outcome :=
  reporting (do RuleCheck.all (← configuration env a) now issue names) (checkReport issue)

def applied (name : String) (issue : Int) : String :=
  Notice.success ("Applied '" ++ name ++ "' to " ++ issueTag issue)

def trialReport (issue : Int) (name : String) : Option Execution → Outcome
  | none =>
    finished [.line (Notice.failureLine ("task '" ++ name ++ "' not found in configuration"))] false
  | some e =>
    let done := if e.effects = [] then "nothing to do" else Text.join ", " (e.effects.map (·.method))
    finished [.line (applied name issue ++ ": " ++ done)] true

def trialOutcome (env : Environment) (a : Access) (issue : Int) (name : String) : Step Outcome :=
  let work : Op Failure (Option Execution) := do
    let c ← configuration env a
    let snapshot ← Tracker.getIssue issue
    Rule.tryOn c snapshot name
  reporting work (trialReport issue name)

def markNotices (issue : Int) (r : MarkReport) : List Notice :=
  let unknown :=
    if r.unknown.isEmpty then []
    else [Notice.trouble (notConfigured ++ ": " ++ Text.join ", " r.unknown)]
  let failed := r.failed.map fun e =>
    Notice.trouble ("Failed to apply '" ++ e.1 ++ "': " ++ e.2)
  (r.applied.map (applied · issue) ++ r.invalid.map (fun e => Notice.trouble e.2) ++ failed
    ++ unknown).map .line

def marksOutcome (env : Environment) (a : Access) (issue : Int) (names : List String) : Step Outcome :=
  let work : Op Failure MarkReport := do
    let c ← configuration env a
    let snapshot ← Tracker.getIssue issue
    MarkReport.ofNames c snapshot names
  reporting work fun r => finished (markNotices issue r) r.isClean

def handledReport (event : String) : Option String → Outcome
  | some key => finished [.line (Notice.success ("Handled " ++ key))] true
  | none => finished [.line (Notice.yellow ("Ignored " ++ event))] true

/-- A part of the repository's name: what is given, else what the payload says. Empty parts are no
parts. -/
def namePart (given : Option String) (fromPayload : Option String) : Option String :=
  (given.filter (· ≠ "")).or (fromPayload.filter (· ≠ ""))

def repositoryRequired : String :=
  "--org and --repo are required when the payload has no repository"

def handlePayload (env : Environment) (event : String) (payload : Json)
    (owner name : Option String) (a : Access) (now : Moment) : Step Transcript :=
  match Event.repository? payload with
  | .error f => return { ending := .crash f }
  | .ok scope =>
    match namePart owner (scope.map (·.owner)), namePart name (scope.map (·.name)) with
    | some owner, some name =>
      withToken env ⟨owner, name⟩ a
        (reporting (do Event.handle event payload (← configuration env a) now)
          (handledReport event))
    | _, _ =>
      return { notices := [.line (Notice.failureLine repositoryRequired)], ending := .exit 1 }

def eventTranscript (env : Environment) (event path : String) (owner name : Option String) (a : Access)
    (now : Moment) : Step Transcript :=
  match env.text path with
  | .error (.localFile fault path) =>
    return { notices := [.badPayload (.unread fault path)], ending := .exit 1 }
  | .error f => return { ending := .crash f }
  | .ok text =>
    match Json.read .standard text with
    | .error .malformed => return { notices := [.badPayload .notJson], ending := .exit 1 }
    | .error (.numeral fault) => return { ending := .crash (.rejected (.badNumeral fault)) }
    | .ok payload => handlePayload env event payload owner name a now

def cycleLine (cycle : List Int) : String :=
  let chain := Text.join " → " ((cycle ++ cycle.take 1).map issueTag)
  "⚠️  " ++ Notice.yellow ("Duplicate cycle: " ++ chain)

def cycleReport : Option Duplicate.Edges → Outcome
  | none => finished [.line (Notice.yellow "Duplicate tracking is disabled")] true
  | some edges =>
    let cycles := Duplicate.Cycle.findAll edges
    if cycles = [] then
      let count := toString edges.length
      finished [.line (Notice.success ("No cycles among " ++ count ++ " duplicate relations"))] true
    else finished (cycles.map fun c => .line (cycleLine c)) false

def cyclesOutcome (env : Environment) (a : Access) : Step Outcome :=
  let work : Op Failure (Option Duplicate.Edges) := do
    let c ← configuration env a
    match c.duplicates with
    | none => return none
    | some settings => return some (← Duplicate.collectEdges settings)
  reporting work cycleReport

/-- Performs an invocation once, up to its end or to its first sleep. -/
def perform (env : Environment) (now : Moment) : Invocation → Step Transcript
  | .help => return {}
  | .version => return { notices := [.line ("Ladybug v" ++ Console.version)] }
  | .run r a interval => withToken env r a (sweepOutcome env a interval now)
  | .checkRule r a issue names => withToken env r a (checkOutcome env a issue names now)
  | .tryRule r a issue name => withToken env r a (trialOutcome env a issue name)
  | .mark r a issue names => withToken env r a (marksOutcome env a issue names)
  | .handleEvent event path owner name a => eventTranscript env event path owner name a now
  | .checkCycles r a => withToken env r a (cyclesOutcome env a)

/-- Performs an invocation again after each sleep. The surroundings change during a sleep as the
list says; the sleep after the last change is the end. -/
def performRepeatedly (env : Environment) (now : Moment) (i : Invocation) :
    List (Tracker × Host → Tracker × Host) → Tracker × Host → Transcript × Host
  | changes, (t, h) =>
    let (first, h') := i.perform env now t h
    match first.ending, changes with
    | .sleep seconds, change :: later =>
      let (others, last) := performRepeatedly env now i later (change (t, h'))
      ({ others with
          notices := first.notices ++ others.notices
          sleeps := seconds :: others.sleeps
          tokens := first.tokens }, last)
    | .sleep seconds, [] => ({ first with sleeps := [seconds] }, h')
    | _, _ => (first, h')

end Invocation

end Triage.Console
