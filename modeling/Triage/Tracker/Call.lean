/-!
# Calls on the tracker's host

The requests a tracker makes of the host that keeps a repository, as data.
-/

namespace Triage

/-- A change to one issue. -/
inductive Change where
  | addLabels (labels : List String)
  | setLabels (labels : List String)
  | removeLabel (label : String)
  | comment (body : String)
  | setState (state : String)
  | setBody (body : String)
  | lock (reason : String)
  | unlock
  | assign (logins : List String)
  | unassign (logins : List String)
  deriving DecidableEq, Repr

inductive Call where
  | findRepository (fullName : String)
  | search (query : String)
  | contents (path : String)
  | fetch (number : Int)
  | change (number : Int) (change : Change)
  deriving DecidableEq, Repr

/-- The issue a call is about; the first three kinds of call are about none. -/
def Call.issue? : Call → Option Int
  | .fetch n => some n
  | .change n _ => some n
  | _ => none

end Triage
