import Mathlib
import Triage.Proofs.ActionOutcomes
import Triage.Proofs.IssueLocality

/-!
# The net effect of an action set

What an action set comes to, said of the issue before and after it and not of the effects in between:
which labels and assignees there are, the state, the lock, and the comment that is posted. Nothing else
of the issue is touched.
-/

namespace Triage

open ActionSet (given)

namespace Effect

/-- The comment that an effect posts. -/
def comment? : Effect → Option String
  | .comment body => some body
  | _ => none

lemma posted_after (e : Effect) (r : Record) :
    (r.after e.change).posted = r.posted ++ e.comment?.toList ∧
      (r.after e.change).issue.comments = r.issue.comments + e.comment?.toList.length := by
  cases e with
  | comment body => exact ⟨rfl, rfl⟩
  | _ => exact ⟨(List.append_nil _).symm, (add_zero _).symm⟩

lemma posted_applyAll (effects : List Effect) (r : Record) :
    (applyAll effects r).posted = r.posted ++ effects.filterMap comment? ∧
      (applyAll effects r).issue.comments =
        r.issue.comments + (effects.filterMap comment?).length := by
  induction effects generalizing r with
  | nil => simp [applyAll]
  | cons e effects ih =>
    obtain ⟨hposted, hcount⟩ := posted_after e r
    have hrest := ih (r.after e.change)
    rw [hposted, hcount] at hrest
    have hcons : (e :: effects).filterMap comment? = e.comment?.toList ++ effects.filterMap comment? := by
      cases hc : e.comment? <;> simp [hc]
    rw [hcons, List.length_append, Nat.cast_add, ← add_assoc, ← List.append_assoc]
    exact hrest

end Effect

/-- What the author of an issue wrote, and who that is. -/
def Issue.authored (i : Issue) : String × Option String × Option User := (i.title, i.body, i.user)

lemma Effect.authored_applyAll (effects : List Effect) (r : Record) :
    (applyAll effects r).issue.authored = r.issue.authored := by
  induction effects generalizing r with
  | nil => rfl
  | cons e effects ih =>
    have hfirst : (r.after e.change).issue.authored = r.issue.authored := by cases e <;> rfl
    exact (ih (r.after e.change)).trans hfirst

namespace ActionSet

/-- The comment of an action set for an issue, when it has one. -/
def commentOn (a : ActionSet) (issue : Issue) : Option String :=
  (a.comment.filter (· ≠ "")).map fun template => Template.render template issue

/-- The record of an issue, before an action set and after it. -/
structure Achieves (a : ActionSet) (before after : Record) : Prop where
  labels : after.issue.labelNames.toFinset =
    (given a.replaceLabels).elim
      (before.issue.labelNames.toFinset \ (a.removeLabels.getD []).toFinset ∪
        (a.addLabels.getD []).toFinset)
      List.toFinset
  assignees : after.issue.assigneeLogins.toFinset =
    (if a.removeAssignees = some ["all"] then ∅
      else before.issue.assigneeLogins.toFinset \ (a.removeAssignees.getD []).toFinset) ∪
      (a.addAssignees.getD []).toFinset
  state : after.issue.state = a.setState.elim before.issue.state (·.text)
  locked : after.issue.locked = a.setLocked.elim before.issue.locked (· ≠ .unlock)
  lockReason : after.lockReason = a.setLocked.elim before.lockReason fun
    | .unlock => none
    | .lock reason => some reason.text
  posted : after.posted = before.posted ++ (a.commentOn before.issue).toList
  comments : after.issue.comments = before.issue.comments + (a.commentOn before.issue).toList.length
  authored : after.issue.authored = before.issue.authored

lemma relabel_self (a : ActionSet) (labels : Finset String) :
    a.relabel labels labels =
      (given a.replaceLabels).elim
        (labels \ (a.removeLabels.getD []).toFinset ∪ (a.addLabels.getD []).toFinset) List.toFinset := by
  unfold relabel
  cases given a.replaceLabels with
  | some replacement => rfl
  | none =>
    cases hremove : given a.removeLabels with
    | none => rw [toFinset_of_given_none hremove, Finset.sdiff_empty, Option.elim_none]
    | some targets => rw [eq_some_of_given hremove]; rfl

lemma sdiff_dropped_self (a : ActionSet) (assignees : Finset String) :
    assignees \ a.dropped assignees =
      if a.removeAssignees = some ["all"] then ∅
      else assignees \ (a.removeAssignees.getD []).toFinset := by
  have hall : a.removesAllAssignees = true ↔ a.removeAssignees = some ["all"] := beq_iff_eq
  unfold dropped
  simp only [hall, apply_ite (assignees \ ·), Finset.sdiff_self]

lemma filterMap_comment?_plan (a : ActionSet) (issue : Issue) :
    (a.plan issue).filterMap Effect.comment? = (a.commentOn issue).toList := by
  have hsilent {α : Type} (o : Option α) {f : α → Effect} (hf : ∀ x, (f x).comment? = none) :
      (o.map f).toList.filterMap Effect.comment? = [] := by
    cases o with
    | none => rfl
    | some x => exact List.filterMap_cons_none (hf x)
  have hcomment : ((a.comment.filter (· ≠ "")).map fun template =>
      Effect.comment (Template.render template issue)).toList.filterMap Effect.comment? =
        (a.commentOn issue).toList := by
    unfold commentOn
    cases a.comment.filter (· ≠ "") <;> rfl
  have hlock (change : LockChange) : (lockEffect change).comment? = none := by cases change <;> rfl
  unfold plan
  simp only [List.filterMap_append]
  rw [hsilent _ fun _ => rfl, hsilent _ fun _ => rfl, hsilent _ fun _ => rfl, hcomment,
    hsilent _ fun _ => rfl, hsilent _ hlock, hsilent _ fun _ => rfl, hsilent _ fun _ => rfl]
  simp only [List.nil_append, List.append_nil]

/-- The effects that are planned from the current snapshot achieve what the action set says. -/
lemma achieves_applyAll (a : ActionSet) (r : Record) :
    a.Achieves r (Effect.applyAll (a.plan r.issue) r) := by
  set r' := Effect.applyAll (a.plan r.issue) r
  have hdisposition : r'.disposition = a.settle r.disposition r.disposition :=
    (Effect.disposition_applyAll _ r).trans (a.foldl_plan r r.disposition)
  have hlock : (r'.issue.locked, r'.lockReason) = a.setLocked.elim (r.issue.locked, r.lockReason) locking :=
    congrArg Disposition.lock hdisposition
  obtain ⟨hposted, hcomments⟩ := Effect.posted_applyAll (a.plan r.issue) r
  rw [a.filterMap_comment?_plan] at hposted hcomments
  constructor
  case labels => exact (congrArg Disposition.labels hdisposition).trans (a.relabel_self _)
  case assignees =>
    rw [← sdiff_dropped_self]
    exact congrArg Disposition.assignees hdisposition
  case state => exact congrArg Disposition.state hdisposition
  case locked =>
    refine (congrArg Prod.fst hlock).trans ?_
    rcases a.setLocked with - | - | reason <;> rfl
  case lockReason =>
    refine (congrArg Prod.snd hlock).trans ?_
    rcases a.setLocked with - | - | reason <;> rfl
  case posted => exact hposted
  case comments => exact hcomments
  case authored => exact Effect.authored_applyAll _ r

/-- When no call fails, an action set that is executed with the current snapshot achieves what it says,
and leaves all other issues as they are. -/
theorem execute_achieves (a : ActionSet) (t : Tracker) (h : Host) (n : Int) (r : Record)
    (hs : t.scope.fullName = t.home) (ht : ∀ log, t.fails log = none) (hr : h.record? n = some r) :
    ∃ h' r', a.execute r.issue t h = (.ok ⟨n, a.plan r.issue⟩, h') ∧ h'.record? n = some r' ∧
      a.Achieves r r' ∧ ∀ m, m ≠ n → h'.record? m = h.record? m := by
  have hn : r.number = n := (Host.record?_eq_some_iff.mp hr).2
  obtain ⟨h', calls, hexecute, hadv, -⟩ := execute_ok hs ht hr a hn
  have hr' := hadv.record? hr
  rw [Record.only_of_eq hn] at hr'
  refine ⟨h', _, hexecute, hr', a.achieves_applyAll r, fun m hm => ?_⟩
  have hframe := (a.isLocal_execute r.issue).frame (fun hmn => hm (hmn.trans hn)) t h
  rw [hexecute] at hframe
  exact hframe.record.symm

/-- Replaces labels that it also removes and adds, and comments. -/
def overhaul : ActionSet where
  removeLabels := some ["bug", "stale"]
  addLabels := some ["new"]
  replaceLabels := some ["bug", "done"]
  comment := some "Assigned: $\x7bASSIGNEE\x7d"
  setState := some .closed
  setLocked := some .unlock
  removeAssignees := some ["ann", "eve"]
  addAssignees := some ["eve"]

theorem execute_achieves_overhaul :
    ∃ h' r', overhaul.execute crowdedRecord.issue quietTracker crowdedHost =
        (.ok ⟨4, overhaul.plan crowdedRecord.issue⟩, h') ∧ h'.record? 4 = some r' ∧
      r'.issue.labelNames.toFinset = {"bug", "done"} ∧
      r'.issue.assigneeLogins.toFinset = {"bob", "eve"} ∧ r'.issue.state = "closed" ∧
      r'.posted = ["Assigned: bob ann"] ∧ ∀ m, m ≠ 4 → h'.record? m = crowdedHost.record? m := by
  obtain ⟨h', r', hexecute, hr', hachieves, hothers⟩ :=
    execute_achieves overhaul quietTracker crowdedHost 4 crowdedRecord rfl (fun _ => rfl) rfl
  refine ⟨h', r', hexecute, hr', hachieves.labels, ?_, hachieves.state, ?_, hothers⟩
  · rw [hachieves.assignees]
    decide +kernel
  · rw [hachieves.posted]
    decide +kernel

end ActionSet

end Triage
