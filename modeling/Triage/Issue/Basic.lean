import Triage.Json.Basic
import Triage.Time.Moment

/-!
# Issues

A snapshot of an issue or pull request, as the tracker returns it and as events carry it.
-/

namespace Triage

structure User where
  login : String
  id : Option Int := none
  deriving DecidableEq, Repr

structure Label where
  name : String
  color : String := ""
  description : Option String := none
  deriving DecidableEq, Repr

/-- Pull requests are issues with links of their own. The user is absent when the account is gone. -/
structure Issue where
  number : Int
  title : String := ""
  body : Option String := none
  state : String
  labels : List Label := []
  assignees : List User := []
  user : Option User := none
  comments : Int := 0
  locked : Bool := false
  createdAt : Option Moment := none
  updatedAt : Option Moment := none
  pullRequest : Option Json.Object := none

namespace Issue

def labelNames (i : Issue) : List String := i.labels.map (·.name)

def assigneeLogins (i : Issue) : List String := i.assignees.map (·.login)

def isPullRequest (i : Issue) : Bool := i.pullRequest.isSome

def isOpen (i : Issue) : Bool := i.state == "open"

end Issue

end Triage
