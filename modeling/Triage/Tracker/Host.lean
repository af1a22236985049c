import Triage.Failure
import Triage.Issue.Basic
import Triage.Tracker.Call

/-!
# The host of a tracker

What the host keeps of a repository's issues, and how a change acts on a record. The host logs every
call it gets, also those that fail.
-/

namespace Triage

/-- An issue as its host keeps it, with the comments that were posted through the tracker. -/
structure Record where
  issue : Issue
  lockReason : Option String := none
  posted : List String := []

/-- A file of the repository, as bytes, or a directory in its place. -/
inductive Stored where
  | file (bytes : List Nat)
  | directory
  deriving DecidableEq, Repr

/-- How a call fails: the host refuses it, perhaps because it does not know what is asked for, or it
is not reached. -/
inductive HostFault where
  | refused (unknown : Bool) (refusal : Refusal)
  | unreachable (text : String)

def HostFault.notFound : HostFault :=
  .refused true ⟨404, some (.obj [("message", .str "Not Found")]), none⟩

def HostFault.during (activity : Activity) : HostFault → Failure
  | .refused _ refusal => .refused activity refusal
  | .unreachable text => .connection text

/-- The color of a label that is attached by its name. -/
def Label.defaultColor : String := "ededed"

def Label.named (name : String) : Label := ⟨name, defaultColor, none⟩

/-- A user the host knows by login; it numbers users by the length of the login. -/
def User.named (login : String) : User := ⟨login, some login.length⟩

namespace Record

def number (r : Record) : Int := r.issue.number

/-- The labels after attaching the named ones that are not attached yet. -/
def attach (labels : List Label) (names : List String) : List Label :=
  names.foldl (fun ls n => if n ∈ ls.map (·.name) then ls else ls ++ [.named n]) labels

/-- The assignees after adding the named users that are not among them. -/
def enlist (users : List User) (logins : List String) : List User :=
  logins.foldl (fun us l => if l ∈ us.map (·.login) then us else us ++ [.named l]) users

/-- The record after a change. A label that is not attached cannot be removed. -/
def apply (c : Change) (r : Record) : Option Record :=
  let i := r.issue
  match c with
  | .addLabels names => some { r with issue := { i with labels := attach i.labels names } }
  | .setLabels names => some { r with issue := { i with labels := names.map .named } }
  | .removeLabel name =>
    if name ∈ i.labelNames then
      some { r with issue := { i with labels := i.labels.filter (·.name ≠ name) } }
    else none
  | .comment body =>
    some { r with issue := { i with comments := i.comments + 1 }, posted := r.posted ++ [body] }
  | .setState state => some { r with issue := { i with state } }
  | .setBody body => some { r with issue := { i with body := some body } }
  | .lock reason => some { r with issue := { i with locked := true }, lockReason := some reason }
  | .unlock => some { r with issue := { i with locked := false }, lockReason := none }
  | .assign logins => some { r with issue := { i with assignees := enlist i.assignees logins } }
  | .unassign logins =>
    some { r with issue := { i with assignees := i.assignees.filter (·.login ∉ logins) } }

end Record

/-- The records of a repository's issues, told apart by their numbers, and the calls the host got,
oldest first. -/
structure Host where
  records : List Record := []
  log : List Call := []
  distinct : (records.map Record.number).Nodup := by simp

namespace Host

def record? (h : Host) (n : Int) : Option Record := h.records.find? (·.number = n)

/-- Puts a record in the place of the one with its number. -/
def putRecord (r : Record) : List Record → List Record
  | [] => [r]
  | s :: rs => if s.number = r.number then r :: rs else s :: putRecord r rs

theorem mem_numbers_putRecord {r : Record} {rs : List Record} {n : Int} :
    n ∈ (putRecord r rs).map Record.number ↔ n = r.number ∨ n ∈ rs.map Record.number := by
  induction rs with
  | nil => simp [putRecord]
  | cons s rs ih =>
    by_cases hs : s.number = r.number
    · simp [putRecord, hs]
    · simp only [putRecord, hs, if_false, List.map_cons, List.mem_cons, ih]
      exact or_left_comm

theorem nodup_putRecord (r : Record) {rs : List Record} (h : (rs.map Record.number).Nodup) :
    ((putRecord r rs).map Record.number).Nodup := by
  induction rs with
  | nil => simp [putRecord]
  | cons s rs ih =>
    rw [List.map_cons, List.nodup_cons] at h
    by_cases hs : s.number = r.number
    · rw [putRecord, if_pos hs, List.map_cons, List.nodup_cons, ← hs]
      exact h
    · rw [putRecord, if_neg hs, List.map_cons, List.nodup_cons, mem_numbers_putRecord]
      exact ⟨fun hm => hm.elim hs h.1, ih h.2⟩

def put (r : Record) (h : Host) : Host :=
  { h with records := putRecord r h.records, distinct := nodup_putRecord r h.distinct }

def erase (n : Int) (h : Host) : Host :=
  { h with
    records := h.records.filter fun r => r.number ≠ n
    distinct := h.distinct.sublist (List.filter_sublist.map _) }

def issues (h : Host) : List Issue := h.records.map (·.issue)

end Host

end Triage
