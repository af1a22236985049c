import Triage.Text.Find

/-!
# Label lists

Labels without others, and the namespaces of labels: the text of a label's first line up to its last
colon. At most one label of a namespace is kept when another one is attached.
-/

namespace Triage.Labels

/-- The labels that are not among the targets, each once, in the order of their first occurrence. -/
def without (current targets : List String) : List String :=
  current.foldl (fun kept l => if l ∈ targets ∨ l ∈ kept then kept else kept ++ [l]) []

/-- The text up to and including the last colon that has something before it. -/
def upToLastColon : List Char → Option (List Char)
  | [] => none
  | c :: cs =>
    match upToLastColon cs with
    | some found => some (c :: found)
    | none => if cs.head? = some ':' then some [c, ':'] else none

/-- The namespace of a label, with its colon. -/
def namespace? (label : String) : Option String :=
  (upToLastColon (label.toList.takeWhile (· ≠ '\n'))).map String.ofList

def isIn (ns label : String) : Bool := ns.toList.isPrefixOf label.toList

/-- The labels after attaching one: the others of its namespace give way. A label without a namespace
displaces nothing. -/
def exclusive? (current : List String) (attached : String) : Option (List String) :=
  (namespace? attached).map fun ns => current.filter (!isIn ns ·) ++ [attached]

def sameSet (a b : List String) : Bool := a.all (· ∈ b) && b.all (· ∈ a)

end Triage.Labels
