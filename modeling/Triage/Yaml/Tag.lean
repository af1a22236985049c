/-!
# YAML tags

A tag says what kind of value a node stands for.
-/

namespace Triage.Yaml

inductive Tag where
  | null
  | bool
  | int
  | float
  | timestamp
  | str
  | binary
  /-- A key whose value is merged into the mapping. -/
  | merge
  /-- The key of the value that stands for a whole mapping. -/
  | value
  | seq
  | map
  | omap
  | pairs
  | set
  | unknown
  deriving DecidableEq, Repr

namespace Tag

/-- How the names of all standard tags begin. -/
def standardPrefix : String := "tag:yaml.org,2002:"

def names : List (String × Tag) :=
  [("null", null), ("bool", bool), ("int", int), ("float", float), ("timestamp", timestamp),
    ("str", str), ("binary", binary), ("merge", merge), ("value", value), ("seq", seq), ("map", map),
    ("omap", omap), ("pairs", pairs), ("set", set)]

def ofName (name : String) : Tag :=
  ((names.find? fun n => standardPrefix ++ n.1 = name).map (·.2)).getD unknown

/-- Whether values of the tag are put together from those of other nodes. -/
def isCollection : Tag → Bool
  | seq | map | omap | pairs | set => true
  | _ => false

end Tag

end Triage.Yaml
