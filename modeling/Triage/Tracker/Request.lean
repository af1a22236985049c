import Triage.Metadata
import Triage.Tracker.Operation

/-!
# Requests of a tracker

The operations a tracker offers. Each change to an issue first fetches the issue and then makes one
call for the change.
-/

namespace Triage.Tracker

/-- Makes a call: it is logged, and may fail before the host acts on it. -/
def call (c : Call) : Op HostFault Unit := fun t h =>
  let log := h.log ++ [c]
  ((t.fails log).elim (.ok ()) .error, { h with log })

/-- The record of an issue. Issues of other repositories than the host's are not known. -/
def fetchRecord (n : Int) : Op HostFault Record := do
  call (.fetch n)
  fun t h =>
    let found := if t.scope.fullName = t.home then h.record? n else none
    (found.elim (.error .notFound) .ok, h)

def change (n : Int) (c : Change) : Op HostFault Unit := do
  call (.change n c)
  fun _ h =>
    match (h.record? n).bind (Record.apply c) with
    | some r => (.ok (), h.put r)
    | none => (.error .notFound, h)

def recordFor (activity : Activity) (n : Int) : Op Failure Record := fun t h =>
  let (found, h') := fetchRecord n t h
  (found.mapError fun
    | .refused true _ => .rejected (.issueNotFound n t.scope.fullName)
    | fault => fault.during activity, h')

def alter (activity : Activity) (n : Int) (c : Change) : Op Failure Unit := do
  let _ ← recordFor activity n
  (change n c).mapError (·.during activity)

def getIssue (n : Int) : Op Failure Issue := do
  let r ← recordFor (.fetchIssue n) n
  return r.issue

def searchIssues (query : String) : Op Failure (List Issue) := do
  (call (.search query)).mapError (·.during (.search query))
  fun t h => (.ok (t.find query h.issues), h)

def addLabels (n : Int) (labels : List String) : Op Failure Unit :=
  alter (.addLabels n) n (.addLabels labels)

def replaceLabels (n : Int) (labels : List String) : Op Failure Unit :=
  alter (.replaceLabels n) n (.setLabels labels)

/-- Removes a label; one that is not attached is passed over. -/
def removeLabel (n : Int) (label : String) : Op Failure Unit := do
  let _ ← recordFor (.removeLabel n) n
  fun t h =>
    match change n (.removeLabel label) t h with
    | (.error (.refused true _), h') => (.ok (), h')
    | (.error fault, h') => (.error (fault.during (.removeLabel n)), h')
    | (.ok (), h') => (.ok (), h')

def comment (n : Int) (body : String) : Op Failure Unit := alter (.comment n) n (.comment body)

def setState (n : Int) (state : String) : Op Failure Unit :=
  alter (.setState n state) n (.setState state)

def lock (n : Int) (reason : String) : Op Failure Unit := alter (.lock n) n (.lock reason)

def unlock (n : Int) : Op Failure Unit := alter (.unlock n) n .unlock

def assign (n : Int) (logins : List String) : Op Failure Unit := alter (.assign n) n (.assign logins)

def unassign (n : Int) (logins : List String) : Op Failure Unit :=
  alter (.unassign n) n (.unassign logins)

/-- What was read or written, or the fault of a numeral as the failure of an operation. -/
def ofNumerals {α : Type} (x : Except NumeralFault α) : Op Failure α :=
  Op.ofExcept (x.mapError fun fault => .rejected (.badNumeral fault))

def getMetadata (n : Int) (key : String) : Op Failure (Option Json) := do
  let r ← recordFor (.readMetadata n) n
  ofNumerals (Metadata.get (← Op.digitLimit) r.issue.body key)

/-- Stores one value in an issue's metadata; null removes it. -/
def setMetadata (n : Int) (key : String) (value : Json) : Op Failure Unit := do
  let r ← recordFor (.writeMetadata n) n
  let body ← ofNumerals (Metadata.set (← Op.digitLimit) r.issue.body key value)
  (change n (.setBody body)).mapError (·.during (.writeMetadata n))

def findRepository (activity : Activity) : Op Failure Unit := fun t h =>
  let name := t.scope.fullName
  match call (.findRepository name) t h with
  | (.ok (), h') =>
    (if name = t.home then .ok () else .error (.rejected (.repositoryNotFound name)), h')
  | (.error (.refused true _), h') => (.error (.rejected (.repositoryNotFound name)), h')
  | (.error fault, h') => (.error (fault.during activity), h')

/-- The text of a file of the repository; none when there is no such file. -/
def contents (path : String) : Op Failure (Option String) := do
  findRepository (.fetchFile path)
  fun t h =>
    match call (.contents path) t h with
    | (.error (.refused true _), h') => (.ok none, h')
    | (.error fault, h') => (.error (fault.during (.fetchFile path)), h')
    | (.ok (), h') =>
      match Entries.get? path t.files with
      | none => (.ok none, h')
      | some .directory => (.error (.directory path), h')
      | some (.file bytes) =>
        match Text.decodeUtf8 bytes with
        | .ok text => (.ok (some text), h')
        | .error fault => (.error (.undecodable fault), h')

end Triage.Tracker
