import Triage.Console.LocalPath
import Triage.Failure
import Triage.Tracker.Host

/-!
# The surroundings of a command

Environment variables, and the files below the current directory. A path is walked name by name, so
that what stops it first is what is reported. Of the directories outside only those above the
current one are known, and nothing that is in them.
-/

namespace Triage.Console

structure Environment where
  vars : List (String × String) := []
  files : List (String × Stored) := []

/-- Where a walk along a path has got to. -/
inductive Place where
  | file (bytes : List Nat)
  /-- A directory at or below the current one, by the names that lead to it, innermost first. -/
  | within (names : List String)
  /-- A directory above the current one. -/
  | outside
  deriving DecidableEq, Repr

namespace Environment

/-- A variable that is set and not empty. -/
def lookup? (env : Environment) (name : String) : Option String :=
  (Entries.get? name env.vars).filter (· ≠ "")

def hasBelow (env : Environment) (path : String) : Bool :=
  env.files.any fun f => (path ++ "/").toList.isPrefixOf f.1.toList

/-- What stands at the end of some names, innermost first. -/
def place? (env : Environment) (names : List String) : Option Place :=
  let path := Text.join "/" names.reverse
  match Entries.get? path env.files with
  | some (.file bytes) => some (.file bytes)
  | some .directory => some (.within names)
  | none => if env.hasBelow path then some (.within names) else none

/-- One step of a walk. Nothing is below a file, not even two dots. -/
def walkTo (env : Environment) (name : String) (place : Place) : Except LocalFault Place :=
  match place with
  | .file _ => .error .notDirectory
  | place =>
    if LocalPath.longestName < name.utf8ByteSize then .error .nameTooLong
    else
      match place with
      | .within names =>
        if name ≠ LocalPath.above then (env.place? (name :: names)).elim (.error .missing) .ok
        else .ok (if names = [] then .outside else .within (names.drop 1))
      | _ => if name = LocalPath.above then .ok .outside else .error .missing

def walk (env : Environment) : Place → List String → Except LocalFault Place
  | place, [] => .ok place
  | place, name :: names => (env.walkTo name place).bind fun next => env.walk next names

def find (env : Environment) (path : LocalPath) : Except LocalFault Place :=
  if LocalPath.longestPath < path.text.utf8ByteSize then .error .nameTooLong
  else env.walk (if path.root = "" then .within [] else .outside) path.names

/-- The bytes of a local file: one that is listed under its path, or else at the end of the walk. -/
def bytes (env : Environment) (path : String) : Except Failure (List Nat) :=
  let path := LocalPath.ofText path
  match Entries.get? path.text env.files, env.find path with
  | some (.file bytes), _ => .ok bytes
  | _, .ok (.file bytes) => .ok bytes
  | _, .ok _ => .error (.localFile .directory path.text)
  | _, .error fault => .error (.localFile fault path.text)

def text (env : Environment) (path : String) : Except Failure String :=
  (env.bytes path).bind fun bytes => (Text.decodeUtf8 bytes).mapError .undecodable

end Environment

end Triage.Console
