import Triage.Json.Basic
import Triage.Tracker.Host

/-!
# Hosts as JSON

Records are read field by field over what is there already, so that one reading serves new issues
and edits of old ones. Labels may stand as bare names, and users stand as logins. Files are texts,
bytes in hexadecimal, or directories.
-/

namespace Triage

open Json (field?)

namespace Label

def fromJson? : Json → Option Label
  | .str name => some (.named name.string)
  | .obj o =>
    let get (key : CodeText) : Option Json := Entries.get? key o
    match get "name" with
    | some (.str name) =>
      let color :=
        match get "color" with
        | some (.str c) => c.string
        | some _ => ""
        | none => defaultColor
      let description :=
        match get "description" with
        | some (.str d) => some d.string
        | _ => none
      some ⟨name.string, color, description⟩
    | _ => none
  | _ => none

def textJson (s : Option String) : Json := s.elim .null fun s => .str s

def toJson (l : Label) : Json :=
  .obj [("name", .str l.name), ("color", .str l.color),
    ("description", textJson l.description)]

end Label

namespace Record

def login? : Json → Option User
  | .str login => some (.named login.string)
  | _ => none

def moment? : Json → Option Moment
  | .str text => (Moment.readIso text.string).toOption
  | _ => none

/-- The issue after setting one field; fields of other names change nothing. -/
def setField (i : Issue) (key : String) (value : Json) : Issue :=
  match key, value with
  | "title", .str s => { i with title := s.string }
  | "title", _ => { i with title := "" }
  | "body", .str s => { i with body := some s.string }
  | "body", _ => { i with body := none }
  | "state", .str s => { i with state := s.string }
  | "labels", .arr items => { i with labels := items.filterMap Label.fromJson? }
  | "assignees", .arr items => { i with assignees := items.filterMap login? }
  | "user", v => { i with user := login? v }
  | "comments", .int n => { i with comments := n }
  | "locked", .bool b => { i with locked := b }
  | "created_at", v => { i with createdAt := moment? v }
  | "updated_at", v => { i with updatedAt := moment? v }
  | "pull_request", .str url => { i with pullRequest := some [("html_url", .str url)] }
  | "pull_request", _ => { i with pullRequest := none }
  | _, _ => i

def blank (number : Int) : Record :=
  ⟨{ number, state := "open", user := some (.named "reporter") }, none, []⟩

def edit (fields : Json.Object) (r : Record) : Record :=
  { r with issue := fields.foldl (fun i f => setField i f.1.string f.2) r.issue }

def timeJson (m : Option Moment) : Json := m.elim .null fun m => .str m.isoText

/-- The fields from which the record's issue can be read again. -/
def toJson (r : Record) : Json :=
  let i := r.issue
  .obj [("number", .int i.number), ("title", .str i.title), ("body", Label.textJson i.body),
    ("state", .str i.state), ("labels", .arr (i.labels.map Label.toJson)),
    ("assignees", .arr (i.assigneeLogins.map fun (l : String) => .str l)),
    ("user", i.user.elim .null fun u => .str u.login), ("comments", .int i.comments),
    ("locked", .bool i.locked), ("created_at", timeJson i.createdAt),
    ("updated_at", timeJson i.updatedAt),
    ("pull_request", ((i.pullRequest.bind (Entries.get? ("html_url" : CodeText))).getD .null))]

end Record

namespace Host

/-- Sets fields of the issue that they number, which need not be there yet. -/
def editIssue (j : Json) (h : Host) : Host :=
  match j, field? "number" j with
  | .obj fields, some (.int n) => h.put (((h.record? n).getD (.blank n)).edit fields)
  | _, _ => h

def ofIssues : Json → Host
  | .arr items => items.foldl (fun h j => h.editIssue j) {}
  | _ => {}

def toJson (h : Host) : Json := .arr (h.records.map Record.toJson)

end Host

namespace Stored

def hexBytes : List Char → List Nat
  | a :: b :: rest =>
    ((Text.asciiDigit? a).getD 0 * 16 + (Text.asciiDigit? b).getD 0) :: hexBytes rest
  | _ => []

def ofText (s : String) : Stored := .file (s.toUTF8.toList.map (·.toNat))

def fromJson? : Json → Option Stored
  | .str s => some (ofText s.string)
  | j =>
    match field? "hex" j, field? "dir" j with
    | some (.str digits), _ => some (.file (hexBytes digits.chars))
    | _, some d => if d.truthy then some .directory else none
    | _, _ => none

/-- The files after an edit: null removes a file. -/
def editFiles (j : Json) (files : List (String × Stored)) : List (String × Stored) :=
  match j with
  | .obj fields =>
    fields.foldl (fun fs f =>
      match fromJson? f.2 with
      | some s => Entries.put f.1.string s fs
      | none => Entries.erase f.1.string fs) files
  | _ => files

end Stored

end Triage
