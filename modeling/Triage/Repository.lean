/-!
# Repositories

The owner and name that every call on the tracker is scoped to.
-/

namespace Triage

structure Repository where
  owner : String
  name : String
  deriving DecidableEq, Repr

namespace Repository

def fullName (r : Repository) : String := r.owner ++ "/" ++ r.name

/-- Reads `owner/name`: one slash with text on both sides. -/
def parse? (text : String) : Option Repository :=
  let cs := text.toList
  let owner := cs.takeWhile (· ≠ '/')
  let name := cs.drop (owner.length + 1)
  if owner.length < cs.length ∧ owner ≠ [] ∧ name ≠ [] ∧ '/' ∉ name then
    some ⟨String.ofList owner, String.ofList name⟩
  else none

end Repository

end Triage
