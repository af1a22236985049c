import Triage.Text.Blank
import Triage.Text.Find
import Triage.Text.Word

/-!
# Slash commands

A command is a line of a comment that begins with a slash and a name; the rest of the line are its
arguments. Only the first command of a comment counts.
-/

namespace Triage

structure Command where
  name : String
  arguments : String
  deriving DecidableEq, Repr

namespace Command

def words (c : Command) : List String :=
  (Text.words c.arguments.toList).map String.ofList

/-- The command on a line, if it is one: a slash and at least one word character. -/
def ofLine? : List Char → Option Command
  | '/' :: rest =>
    let name := rest.takeWhile Text.isWordChar
    if name = [] then none
    else
      some ⟨String.ofList name, String.ofList (Text.trim (rest.dropWhile Text.isWordChar))⟩
  | _ => none

def find? (text : String) : Option Command := (Text.pieces '\n' text.toList).findSome? ofLine?

def parse? (body : Option String) : Option Command := body.bind find?

end Command

end Triage
