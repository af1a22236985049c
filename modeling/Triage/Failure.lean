import Triage.Json.Printer
import Triage.Repository
import Triage.Text.Utf8
import Triage.Validation
import Triage.Yaml.Document

/-!
# Failures

Everything that can stop an operation, by cause, and the message of each.
-/

namespace Triage

/-- What kind of named block a configuration complaint is about. -/
inductive BlockKind where
  | task
  | mark
  deriving DecidableEq, Repr

def BlockKind.text : BlockKind → String
  | .task => "scheduled task"
  | .mark => "mark action"

inductive ConfigurationFault where
  | malformed (fault : Yaml.SyntaxFault)
  | notMapping
  | badFields (faults : List FieldFault)
  | blockNotMapping (kind : BlockKind) (name : String)
  | badBlock (kind : BlockKind) (name : String) (faults : List FieldFault)
  | badDuration (fault : Duration.Fault)
  deriving DecidableEq, Repr

/-- What precedes the detail of a text that is no YAML. -/
def ConfigurationFault.malformedLead : String := "Invalid YAML in configuration: "

def ConfigurationFault.message : ConfigurationFault → String
  | .malformed fault => malformedLead ++ fault.message
  | .notMapping => "Configuration must be a mapping at the top level"
  | .badFields faults => "Invalid configuration: " ++ FieldFault.texts "" faults
  | .blockNotMapping kind name => "Invalid " ++ kind.text ++ " '" ++ name ++ "': expected a mapping"
  | .badBlock kind name faults =>
    let subject := if name = "" then kind.text else kind.text ++ " '" ++ name ++ "'"
    "Invalid " ++ subject ++ ": " ++ FieldFault.texts name faults
  | .badDuration fault => fault.message

/-- How the tracker's host refuses a call: the status, the data of its answer and a message. -/
structure Refusal where
  status : Int
  data : Option Json
  message : Option String

/-- The refusal in one line: message, status, and the data as JSON. -/
def Refusal.text (r : Refusal) : String :=
  let lead := r.message.elim "" fun m => if m = "" then "" else m ++ ": "
  let data := r.data.elim "" fun d => " " ++ d.render
  lead ++ toString r.status ++ data

/-- The message in the data of the answer when there is one, else the refusal itself. -/
def Refusal.detail (r : Refusal) : String :=
  match r.data.bind (Json.field? "message") with
  | some m => if m.truthy then (Value.ofJson m).text else r.text
  | none => r.text

/-- What a call on the tracker was made for. -/
inductive Activity where
  | fetchIssue (number : Int)
  | search (query : String)
  | addLabels (number : Int)
  | replaceLabels (number : Int)
  | removeLabel (number : Int)
  | comment (number : Int)
  | setState (number : Int) (state : String)
  | lock (number : Int)
  | unlock (number : Int)
  | assign (number : Int)
  | unassign (number : Int)
  | readMetadata (number : Int)
  | writeMetadata (number : Int)
  | fetchFile (path : String)
  deriving DecidableEq, Repr

def issueTag (number : Int) : String := "#" ++ toString number

def Activity.text : Activity → String
  | .fetchIssue n => "Fetching issue " ++ issueTag n
  | .search q => "Searching '" ++ q ++ "'"
  | .addLabels n => "Adding labels to " ++ issueTag n
  | .replaceLabels n => "Replacing labels on " ++ issueTag n
  | .removeLabel n => "Removing label from " ++ issueTag n
  | .comment n => "Commenting on " ++ issueTag n
  | .setState n state => "Setting " ++ issueTag n ++ " " ++ state
  | .lock n => "Locking " ++ issueTag n
  | .unlock n => "Unlocking " ++ issueTag n
  | .assign n => "Assigning " ++ issueTag n
  | .unassign n => "Unassigning " ++ issueTag n
  | .readMetadata n => "Reading metadata of " ++ issueTag n
  | .writeMetadata n => "Writing metadata of " ++ issueTag n
  | .fetchFile path => "Fetching " ++ path

/-- Why a value that was given cannot be used. -/
inductive Rejection where
  | badDuration (fault : Duration.Fault)
  | badNumeral (fault : NumeralFault)
  | badRepository (text : String)
  | issueNotFound (number : Int) (repository : String)
  | repositoryNotFound (repository : String)
  | tokenRequired
  deriving DecidableEq, Repr

def Rejection.message : Rejection → String
  | .badDuration fault => fault.message
  | .badNumeral fault => fault.message
  | .badRepository text => "Invalid repository '" ++ text ++ "'. Expected owner/name"
  | .issueNotFound n repository => "Issue " ++ issueTag n ++ " not found in " ++ repository
  | .repositoryNotFound repository => "Repository " ++ repository ++ " not found"
  | .tokenRequired => "GitHub token is required. Set GITHUB_TOKEN environment variable."

/-- What lies beyond its bounds. -/
inductive RangeCause where
  | date
  /-- A duration of this many whole days. -/
  | duration (days : Nat)
  /-- An infinite number was to become an integer. -/
  | infinity
  deriving DecidableEq, Repr

def RangeCause.message : RangeCause → String
  | .date => "date value out of range"
  | .duration days => Duration.tooLongMessage days
  | .infinity => "cannot convert float infinity to integer"

/-- Why a local file cannot be read. -/
inductive LocalFault where
  | missing
  | directory
  /-- A part of the path is a file and not the last one. -/
  | notDirectory
  | nameTooLong
  deriving DecidableEq, Repr

def LocalFault.text : LocalFault → String
  | .missing => "[Errno 2] No such file or directory"
  | .directory => "[Errno 21] Is a directory"
  | .notDirectory => "[Errno 20] Not a directory"
  | .nameTooLong => "[Errno 36] File name too long"

inductive Failure where
  | configuration (fault : ConfigurationFault)
  /-- The host refused a call. -/
  | refused (activity : Activity) (refusal : Refusal)
  /-- A file was wanted where the repository has a directory. -/
  | directory (path : String)
  | rejected (cause : Rejection)
  | connection (text : String)
  /-- An issue payload does not have the expected shape. -/
  | payload (faults : List FieldFault)
  | missingKey (key : String)
  /-- A date or duration leaves the calendar, or an infinite number was to become an integer. -/
  | outOfRange (cause : RangeCause)
  /-- A configuration file names a value that does not exist. -/
  | badValue (fault : Yaml.ValueFault)
  /-- A value without fields was asked for one that may be absent. -/
  | noFields
  /-- A value was used as an object or text that it is not. -/
  | wrongType
  | undecodable (fault : Text.Utf8Fault)
  | localFile (fault : LocalFault) (path : String)

namespace Failure

def message : Failure → String
  | .configuration fault => fault.message
  | .refused activity refusal => activity.text ++ ": " ++ refusal.detail
  | .directory path => path ++ " is a directory, expected a file"
  | .rejected cause => cause.message
  | .connection text => text
  | .payload faults => FieldFault.texts "" faults
  | .missingKey key => Text.quoted key
  | .outOfRange cause => cause.message
  | .badValue fault => fault.message
  | .noFields => "a value has no such field"
  | .wrongType => "a value is of the wrong type"
  | .undecodable fault => fault.message
  | .localFile fault path => fault.text ++ ": " ++ Text.quoted path

/-- Whether the failure is one that commands report by its message: faults of the configuration, of
the tracker, and of given values. -/
def isExpected : Failure → Bool
  | .configuration _ | .refused _ _ | .directory _ | .rejected _ | .payload _ | .undecodable _ => true
  | .badValue fault => fault.isValueFault
  | _ => false

end Failure

/-- The text of a value, each of whose integers must have one. -/
def Value.writtenText (v : Value) : Except Failure String :=
  match v.numberFault? .standard with
  | some fault => .error (.rejected (.badNumeral fault))
  | none => .ok v.text

end Triage
