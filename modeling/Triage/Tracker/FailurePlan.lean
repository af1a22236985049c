import Triage.Tracker.Host

/-!
# Failure plans

A plan says which calls fail: each rule applies to some calls, lets a number of them pass and then
fails them, for ever or a number of times. For every call the rules are tried in order until one
fails it.
-/

namespace Triage

structure FaultRule where
  applies : Call → Bool
  /-- The calls that still pass. -/
  skip : Nat := 0
  /-- The failures that are left; without it there is no end to them. -/
  times : Option Nat := none
  fault : HostFault

namespace FaultRule

/-- What a rule does with a call: the rule afterwards, and the failure. -/
def onCall (c : Call) (r : FaultRule) : FaultRule × Option HostFault :=
  if !r.applies c then (r, none)
  else if 0 < r.skip then ({ r with skip := r.skip - 1 }, none)
  else
    match r.times with
    | none => (r, some r.fault)
    | some 0 => (r, none)
    | some (n + 1) => ({ r with times := some n }, some r.fault)

/-- Tries the rules in order; those after the first that fails the call stay as they are. -/
def scan (c : Call) : List FaultRule → List FaultRule × Option HostFault
  | [] => ([], none)
  | r :: rs =>
    match onCall c r with
    | (r', some fault) => (r' :: rs, some fault)
    | (r', none) =>
      let (rs', fault) := scan c rs
      (r' :: rs', fault)

/-- Whether the last of the calls fails, when the plan has seen all of them. -/
def verdict (plan : List FaultRule) (calls : List Call) : Option HostFault :=
  (calls.foldl (fun s c => scan c s.1) (plan, none)).2

end FaultRule

end Triage
