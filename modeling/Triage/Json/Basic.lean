import Triage.Entries
import Triage.Number.Binary64
import Triage.Text.CodePoint

/-!
# JSON values

Integers are unbounded and differ from numbers with a fraction or exponent. Strings may hold halves
of surrogate pairs. An object keeps its fields in the order of first insertion, each key once.
-/

namespace Triage

inductive Json where
  | null
  | bool (b : Bool)
  | int (n : Int)
  | float (x : Binary64)
  | str (s : CodeText)
  | arr (items : List Json)
  | obj (fields : List (CodeText × Json))
  deriving Inhabited

namespace Json

abbrev Object := List (CodeText × Json)

/-- The field of an object; other values have no fields. -/
def field? (key : CodeText) : Json → Option Json
  | .obj fields => Entries.get? key fields
  | _ => none

/-- Whether a value counts as present: null, false, zero and everything empty do not. -/
def truthy : Json → Bool
  | .null => false
  | .bool b => b
  | .int n => n != 0
  | .float (.finite _ m _) => m != 0
  | .float _ => true
  | .str s => !s.isEmpty
  | .arr items => !items.isEmpty
  | .obj fields => !fields.isEmpty

mutual

/-- The same value with the fields of every object in ascending order of their keys. -/
def sorted : Json → Json
  | .arr items => .arr (sortedItems items)
  | .obj fields => .obj ((sortedFields fields).mergeSort fun a b => CodeText.le a.1 b.1)
  | j => j

def sortedItems : List Json → List Json
  | [] => []
  | j :: js => sorted j :: sortedItems js

def sortedFields : List (CodeText × Json) → List (CodeText × Json)
  | [] => []
  | (k, j) :: fs => (k, sorted j) :: sortedFields fs

end

end Json

end Triage
