import Std.Time.DateTime.Timestamp
import Triage.Console.Perform
import Triage.Query.Search
import Triage.Tracker.Host.Json

/-!
# The command line program

The tracker's host is a JSON document with the repository's full name, its issues and its files. The
variable `TRIAGE_HOST` holds the document's path; it is read before a command and written back after
it.
-/

namespace Triage.Program

open Console

def variableNames : List String := ["GITHUB_TOKEN", "LADYBUG_CONFIG_PATH", "LADYBUG_INTERVAL"]

def readVars : IO (List (String × String)) := do
  let values ← variableNames.mapM fun name => do
    return (name, ← IO.getEnv name)
  return values.filterMap fun v => v.2.map fun value => (v.1, value)

def readBytes (path : String) : IO (Option (List Nat)) := do
  try
    let bytes ← IO.FS.readBinFile path
    return some (bytes.toList.map (·.toNat))
  catch _ => return none

def localFiles (paths : List String) : IO (List (String × Stored)) := do
  let contents ← (paths.map fun path => (LocalPath.ofText path).text).mapM fun path => do
    return (path, ← readBytes path)
  return contents.filterMap fun c => c.2.map fun bytes => (c.1, .file bytes)

/-- The document of the host; an absent or unreadable one is empty. -/
def readDocument (path : String) : IO Json := do
  let bytes := (← readBytes path).getD []
  return ((Text.decodeUtf8 bytes).toOption.bind fun text => (Json.read none text).toOption).getD (.obj [])

def fullName (document : Json) : String :=
  match document.field? "repo" with
  | some (.str name) => name.string
  | _ => ""

def trackerOf (document : Json) : Tracker where
  scope := ⟨"", ""⟩
  home := fullName document
  files := Stored.editFiles ((document.field? "files").getD .null) []
  find := Query.search []

def hostOf (document : Json) : Host := Host.ofIssues ((document.field? "issues").getD .null)

def withHost (document : Json) (h : Host) : Json :=
  match document with
  | .obj fields => .obj (Entries.put "issues" h.toJson fields)
  | _ => .obj [("issues", h.toJson)]

def now : IO (Option Moment) := do
  let time ← Std.Time.Timestamp.now
  return Moment.ofUnixMicros? (time.toMillisecondsSinceUnixEpoch.val * 1000)

/-- Performs an invocation, and again after each sleep. The result is the exit code. -/
partial def perform (documentPath : String) (i : Invocation) : IO UInt32 := do
  let env : Environment := ⟨← readVars, ← localFiles i.localPaths⟩
  let document ← readDocument documentPath
  let some time ← now | return 1
  let (transcript, host) := i.perform env time (trackerOf document) (hostOf document)
  for line in transcript.notices.flatMap Notice.lines do
    IO.println line
  if !host.log.isEmpty then
    IO.FS.writeFile documentPath (withHost document host).render
  match transcript.ending with
  | .exit code => return code.toUInt32
  | .crash failure => do
    IO.eprintln failure.message
    return 1
  | .sleep seconds => do
    IO.sleep (seconds.toNat * 1000).toUInt32
    perform documentPath i

end Triage.Program

def main (args : List String) : IO UInt32 := do
  let documentPath := (← IO.getEnv "TRIAGE_HOST").getD "host.json"
  match Triage.Console.Invocation.ofArgs ⟨← Triage.Program.readVars, []⟩ args with
  | none => return 2
  | some i => Triage.Program.perform documentPath i
