import Triage.Text.Find

/-!
# Local paths

A path is a root, absent in a relative one, and names. Single dots and repeated slashes say nothing
and are left out; two dots stay, because what they lead to depends on the directory before them.
-/

namespace Triage.Console

structure LocalPath where
  /-- The slashes in front: none, one, or exactly two. -/
  root : String := ""
  names : List String := []
  deriving DecidableEq, Repr

namespace LocalPath

def above : String := ".."

/-- Two slashes in front are kept, three or more are one. -/
def rootOf (text : List Char) : String :=
  match (text.takeWhile (· = '/')).length with
  | 0 => ""
  | 2 => "//"
  | _ => "/"

def ofText (text : String) : LocalPath where
  root := rootOf text.toList
  names := ((Text.pieces '/' text.toList).map String.ofList).filter fun n => n ≠ "" ∧ n ≠ "."

/-- The path in its plain form; a single dot stands for no names at all. -/
def text (p : LocalPath) : String :=
  let plain := p.root ++ Text.join "/" p.names
  if plain = "" then "." else plain

def longestName : Nat := 255

def longestPath : Nat := 4095

end LocalPath

end Triage.Console
