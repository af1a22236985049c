import Triage.Entries

/-!
# Cycles of duplicates

Every issue is a duplicate of at most one other. `Cycle.findAll` follows the relation from each issue
in turn until it ends or comes to an issue that was visited before.
-/

namespace Triage.Duplicate

/-- The relation: issues with the issues they duplicate. -/
abbrev Edges := List (Int × Int)

namespace Cycle

/-- Follows the relation to unvisited issues. The result is the path and where it stopped: at an issue
without a target, or before a visited one. Every step visits one more issue, so fuel for each edge
and one issue more is enough. -/
def follow (edges : Edges) (visited : List Int) : Nat → Int → List Int × Option Int
  | 0, node => ([], some node)
  | fuel + 1, node =>
    if node ∈ visited then ([], some node)
    else
      match Entries.get? node edges with
      | none => ([node], none)
      | some target =>
        let r := follow edges (node :: visited) fuel target
        (node :: r.1, r.2)

/-- A cycle turned so that its smallest member comes first. -/
def fromSmallest (cycle : List Int) : List Int :=
  match cycle.min? with
  | none => []
  | some least =>
    cycle.dropWhile (· ≠ least) ++ cycle.takeWhile (· ≠ least)

/-- The cycle that a path ended in, when it came back to itself. -/
def close (path : List Int) : Option Int → Option (List Int)
  | none => none
  | some node => if node ∈ path then some (fromSmallest (path.dropWhile (· ≠ node))) else none

def findFrom (edges : Edges) : List Int → List Int → List (List Int)
  | _, [] => []
  | visited, start :: starts =>
    let r := follow edges visited (edges.length + 2) start
    (close r.1 r.2).toList ++ findFrom edges (r.1 ++ visited) starts

/-- All cycles, in the ascending order of the issues they are found from. -/
def findAll (edges : Edges) : List (List Int) :=
  findFrom edges [] ((Entries.keys edges).mergeSort fun a b => decide (a ≤ b))

end Cycle

end Triage.Duplicate
