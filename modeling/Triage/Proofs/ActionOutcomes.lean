import Mathlib
import Triage.Proofs.LabelDifference
import Triage.Proofs.TrackerCalls
import Triage.Rule.Effect

/-!
# What action sets make of an issue

The effects of an action set come to one change of the issue's labels, assignees, state and lock. Labels
are removed from those of the snapshot, and all assignees are those of the snapshot; everything else acts
on the issue as it is. That is enough for the end state to stay when the effects are performed again.
-/

namespace Triage

/-- What action sets decide about an issue. Labels and assignees have no order. -/
@[ext]
structure Disposition where
  labels : Finset String
  assignees : Finset String
  state : String
  lock : Bool × Option String
  deriving DecidableEq

namespace Record

def disposition (r : Record) : Disposition where
  labels := r.issue.labelNames.toFinset
  assignees := r.issue.assigneeLogins.toFinset
  state := r.issue.state
  lock := (r.issue.locked, r.lockReason)

lemma toFinset_attach (labels : List Label) (names : List String) :
    ((attach labels names).map (·.name)).toFinset =
      (labels.map (·.name)).toFinset ∪ names.toFinset := by
  induction names generalizing labels with
  | nil => simp [attach]
  | cons n names ih =>
    unfold attach at ih ⊢
    rw [List.foldl_cons, ih]
    by_cases hn : n ∈ labels.map (·.name)
    · rw [if_pos hn, List.toFinset_cons, Finset.union_insert, ← Finset.insert_union,
        Finset.insert_eq_of_mem (List.mem_toFinset.mpr hn)]
    · rw [if_neg hn]
      ext l
      simp [Label.named]

lemma toFinset_enlist (users : List User) (logins : List String) :
    ((enlist users logins).map (·.login)).toFinset =
      (users.map (·.login)).toFinset ∪ logins.toFinset := by
  induction logins generalizing users with
  | nil => simp [enlist]
  | cons n logins ih =>
    unfold enlist at ih ⊢
    rw [List.foldl_cons, ih]
    by_cases hn : n ∈ users.map (·.login)
    · rw [if_pos hn, List.toFinset_cons, Finset.union_insert, ← Finset.insert_union,
        Finset.insert_eq_of_mem (List.mem_toFinset.mpr hn)]
    · rw [if_neg hn]
      ext l
      simp [User.named]

lemma toFinset_dismiss (users : List User) (logins : List String) :
    ((users.filter (·.login ∉ logins)).map (·.login)).toFinset =
      (users.map (·.login)).toFinset \ logins.toFinset := by
  ext l
  simp only [List.mem_toFinset, List.mem_map, List.mem_filter, decide_eq_true_eq, Finset.mem_sdiff]
  constructor
  · rintro ⟨u, ⟨hu, hl⟩, rfl⟩
    exact ⟨⟨u, hu, rfl⟩, hl⟩
  · rintro ⟨⟨u, hu, rfl⟩, hl⟩
    exact ⟨u, ⟨hu, hl⟩, rfl⟩

end Record

namespace Host

def disposition? (h : Host) (n : Int) : Option Disposition := (h.record? n).map Record.disposition

end Host

lemma Labels.toFinset_without (current targets : List String) :
    (Labels.without current targets).toFinset = current.toFinset \ targets.toFinset := by
  ext l
  rw [List.mem_toFinset, mem_without, Finset.mem_sdiff, List.mem_toFinset, List.mem_toFinset]

namespace Effect

/-- The change that an effect comes to. -/
def change : Effect → Change
  | .replaceLabels labels => .setLabels labels
  | .addLabels labels => .addLabels labels
  | .comment body => .comment body
  | .setState state => .setState state.text
  | .unlock => .unlock
  | .lock reason => .lock reason.text
  | .unassign logins => .unassign logins
  | .assign logins => .assign logins

/-- What an effect does to a disposition. -/
def act (d : Disposition) : Effect → Disposition
  | .replaceLabels labels => { d with labels := labels.toFinset }
  | .addLabels labels => { d with labels := d.labels ∪ labels.toFinset }
  | .comment _ => d
  | .setState state => { d with state := state.text }
  | .unlock => { d with lock := (false, none) }
  | .lock reason => { d with lock := (true, some reason.text) }
  | .unassign logins => { d with assignees := d.assignees \ logins.toFinset }
  | .assign logins => { d with assignees := d.assignees ∪ logins.toFinset }

/-- The record after effects, one after the other. -/
def applyAll (effects : List Effect) (r : Record) : Record :=
  effects.foldl (fun r e => r.after e.change) r

lemma disposition_after (e : Effect) (r : Record) :
    (r.after e.change).disposition = act r.disposition e := by
  cases e with
  | replaceLabels labels =>
    ext1
    case labels => simp [change, Record.after, Record.apply, Record.disposition, act,
      Issue.labelNames, Label.named, Function.comp_def]
    all_goals rfl
  | addLabels labels =>
    ext1
    case labels => exact Record.toFinset_attach r.issue.labels labels
    all_goals rfl
  | assign logins =>
    ext1
    case assignees => exact Record.toFinset_enlist r.issue.assignees logins
    all_goals rfl
  | unassign logins =>
    ext1
    case assignees => exact Record.toFinset_dismiss r.issue.assignees logins
    all_goals rfl
  | _ => rfl

lemma apply_change (e : Effect) (r : Record) : r.apply e.change = some (r.after e.change) := by
  cases e <;> rfl

lemma exists_perform_eq (n : Int) (e : Effect) :
    ∃ activity, e.perform n = Tracker.alter activity n e.change := by
  cases e <;> exact ⟨_, rfl⟩

lemma only_applyAll_nil (n : Int) : Record.only n (applyAll []) = id :=
  funext fun _ => ite_self _

lemma only_applyAll_cons (n : Int) (e : Effect) (effects : List Effect) :
    Record.only n (applyAll effects) ∘ Record.only n (Record.after e.change) =
      Record.only n (applyAll (e :: effects)) := by
  funext r
  rw [Function.comp_apply]
  by_cases hr : r.number = n
  · rw [Record.only_of_eq hr, Record.only_of_eq hr,
      Record.only_of_eq ((Record.number_after e.change r).trans hr)]
    rfl
  · rw [Record.only_of_ne hr, Record.only_of_ne hr, Record.only_of_ne hr]

lemma disposition_applyAll (effects : List Effect) (r : Record) :
    (applyAll effects r).disposition = effects.foldl act r.disposition := by
  induction effects generalizing r with
  | nil => rfl
  | cons e effects ih =>
    have hrest := ih (r.after e.change)
    rw [disposition_after] at hrest
    exact hrest

end Effect

namespace ActionSet

/-- The assignees that an action set takes off, when these are assigned in its snapshot. -/
def dropped (a : ActionSet) (seen : Finset String) : Finset String :=
  if a.removesAllAssignees then seen else (a.removeAssignees.getD []).toFinset

/-- The labels after an action set with a snapshot: an overwrite, or what is there with the new ones. -/
def relabel (a : ActionSet) (seen labels : Finset String) : Finset String :=
  match given a.replaceLabels, given a.removeLabels with
  | some replacement, _ => replacement.toFinset
  | none, some targets => seen \ targets.toFinset ∪ (a.addLabels.getD []).toFinset
  | none, none => labels ∪ (a.addLabels.getD []).toFinset

/-- The lock after a change of it. -/
def locking : LockChange → Bool × Option String
  | .unlock => (false, none)
  | .lock reason => (true, some reason.text)

/-- What an action set makes of an issue when it sees it with a certain disposition. -/
def settle (a : ActionSet) (seen d : Disposition) : Disposition where
  labels := a.relabel seen.labels d.labels
  assignees := d.assignees \ a.dropped seen.assignees ∪ (a.addAssignees.getD []).toFinset
  state := a.setState.elim d.state (·.text)
  lock := a.setLocked.elim d.lock locking

lemma toFinset_of_given_none {items : Option (List String)} (h : given items = none) :
    (items.getD []).toFinset = ∅ := by
  cases items with
  | none => rfl
  | some l =>
    cases l with
    | nil => rfl
    | cons x l => simp [given] at h

lemma eq_some_of_given {items : Option (List String)} {l : List String} (h : given items = some l) :
    items = some l := (Option.filter_eq_some_iff.mp h).1

lemma foldl_option {α : Type} (o : Option α) (f : α → Effect) (d : Disposition) :
    (o.map f).toList.foldl Effect.act d = o.elim d fun x => Effect.act d (f x) := by
  cases o <;> rfl

/-- The effects on the labels, which come first. -/
lemma act_labels (a : ActionSet) (issue : Issue) (d : Disposition) :
    (((given a.removeLabels).map fun targets =>
        Effect.replaceLabels (Labels.without issue.labelNames targets)).toList
      ++ ((given a.addLabels).map Effect.addLabels).toList
      ++ ((given a.replaceLabels).map Effect.replaceLabels).toList).foldl Effect.act d =
    { d with labels := a.relabel issue.labelNames.toFinset d.labels } := by
  rw [List.foldl_append, List.foldl_append, foldl_option, foldl_option, foldl_option]
  unfold relabel
  cases hreplace : given a.replaceLabels with
  | some replacement =>
    cases given a.removeLabels <;> cases given a.addLabels <;> rfl
  | none =>
    cases hadd : given a.addLabels with
    | none =>
      rw [toFinset_of_given_none hadd]
      cases given a.removeLabels <;> simp [Effect.act, Labels.toFinset_without]
    | some names =>
      rw [eq_some_of_given hadd]
      cases given a.removeLabels <;> simp [Effect.act, Labels.toFinset_without]

lemma act_unassign (a : ActionSet) (issue : Issue) (d : Disposition) :
    ((a.assigneesToRemove issue).map Effect.unassign).toList.foldl Effect.act d =
      { d with assignees := d.assignees \ a.dropped issue.assigneeLogins.toFinset } := by
  have hgiven (logins : List String) : ((given (some logins)).map Effect.unassign).toList.foldl
      Effect.act d = { d with assignees := d.assignees \ logins.toFinset } := by
    cases logins with
    | nil =>
      rw [List.toFinset_nil, Finset.sdiff_empty]
      rfl
    | cons l logins => rfl
  unfold assigneesToRemove dropped
  cases hremove : given a.removeAssignees with
  | none =>
    have hall : a.removesAllAssignees = false := by
      rw [Bool.eq_false_iff]
      intro h
      rw [removesAllAssignees, beq_iff_eq] at h
      simp [h, given] at hremove
    rw [hall, if_neg Bool.false_ne_true, toFinset_of_given_none hremove, Finset.sdiff_empty]
    rfl
  | some logins =>
    rw [Option.map_some, hgiven, eq_some_of_given hremove]
    by_cases hall : a.removesAllAssignees = true
    · rw [if_pos hall, if_pos hall]
    · rw [if_neg hall, if_neg hall]
      rfl

lemma act_assign (a : ActionSet) (d : Disposition) :
    ((given a.addAssignees).map Effect.assign).toList.foldl Effect.act d =
      { d with assignees := d.assignees ∪ (a.addAssignees.getD []).toFinset } := by
  rw [foldl_option]
  cases hadd : given a.addAssignees with
  | none => rw [toFinset_of_given_none hadd, Finset.union_empty, Option.elim_none]
  | some logins => rw [eq_some_of_given hadd]; rfl

/-- All effects of a plan together. -/
theorem foldl_plan (a : ActionSet) (s : Record) (d : Disposition) :
    (a.plan s.issue).foldl Effect.act d = a.settle s.disposition d := by
  have hcomment (e : Disposition) : ((a.comment.filter (· ≠ "")).map fun template =>
      Effect.comment (Template.render template s.issue)).toList.foldl Effect.act e = e := by
    rw [foldl_option]
    cases a.comment.filter (· ≠ "") <;> rfl
  have hstate (e : Disposition) : (a.setState.map Effect.setState).toList.foldl Effect.act e =
      { e with state := a.setState.elim e.state (·.text) } := by
    cases a.setState <;> rfl
  have hlock (e : Disposition) : (a.setLocked.map lockEffect).toList.foldl Effect.act e =
      { e with lock := a.setLocked.elim e.lock locking } := by
    rcases a.setLocked with - | - | reason <;> rfl
  unfold plan
  rw [List.foldl_append, List.foldl_append, List.foldl_append, List.foldl_append, List.foldl_append,
    act_labels, hcomment, hstate, hlock, act_unassign, act_assign]
  rfl

lemma sdiff_union_again (x dropped added : Finset String) :
    (x \ dropped ∪ added) \ dropped ∪ added = x \ dropped ∪ added := by
  rw [Finset.union_sdiff_distrib, Finset.sdiff_idem, Finset.union_assoc,
    Finset.union_eq_right.mpr Finset.sdiff_subset]

/-- Performed once more on what it made, an action set changes nothing, whether it sees the issue as it
was or as it is. -/
lemma settle_settle (a : ActionSet) (d seen : Disposition) (hseen : seen = d ∨ seen = a.settle d d) :
    a.settle seen (a.settle d d) = a.settle d d := by
  ext1
  case labels =>
    have hlabels : seen.labels = d.labels ∨ seen.labels = a.relabel d.labels d.labels :=
      hseen.imp (congrArg Disposition.labels) (congrArg Disposition.labels)
    change a.relabel seen.labels (a.relabel d.labels d.labels) = a.relabel d.labels d.labels
    unfold relabel at hlabels ⊢
    cases hreplace : given a.replaceLabels with
    | some replacement => rfl
    | none =>
      rw [hreplace] at hlabels
      cases hremove : given a.removeLabels with
      | none =>
        dsimp only
        rw [Finset.union_assoc, Finset.union_self]
      | some targets =>
        rw [hremove] at hlabels
        dsimp only at hlabels ⊢
        rcases hlabels with h | h
        · rw [h]
        · rw [h, sdiff_union_again]
  case assignees =>
    change (d.assignees \ a.dropped d.assignees ∪ _) \ a.dropped seen.assignees ∪ _ =
      d.assignees \ a.dropped d.assignees ∪ _
    unfold dropped
    by_cases hall : a.removesAllAssignees = true
    · have hnone : d.assignees \ d.assignees = ∅ := Finset.sdiff_self d.assignees
      rw [if_pos hall, if_pos hall, hnone, Finset.empty_union]
      exact Finset.union_eq_right.mpr Finset.sdiff_subset
    · rw [if_neg hall, if_neg hall, sdiff_union_again]
  case state =>
    change a.setState.elim (a.setState.elim d.state _) _ = a.setState.elim d.state _
    cases a.setState <;> rfl
  case lock =>
    change a.setLocked.elim (a.setLocked.elim d.lock _) _ = a.setLocked.elim d.lock _
    cases a.setLocked <;> rfl

end ActionSet

section Execution

variable {t : Tracker} {h : Host} {n : Int} {r : Record} (hs : t.scope.fullName = t.home)
  (ht : ∀ log, t.fails log = none)

include hs ht

lemma Effect.performAll_ok (hr : h.record? n = some r) (effects : List Effect) :
    ∃ h' calls, Effect.performAll n effects t h = (.ok (), h') ∧
      h.Advances h' calls (Record.only n (Effect.applyAll effects)) := by
  induction effects generalizing h r with
  | nil => exact ⟨h, [], rfl, Effect.only_applyAll_nil n ▸ h.advances_refl⟩
  | cons e effects ih =>
    obtain ⟨activity, hperform⟩ := Effect.exists_perform_eq n e
    obtain ⟨h₁, hfirst, hadv₁⟩ :=
      Tracker.alter_ok hs hr (Effect.apply_change e r) (Tracker.spares_of_fails ht _) activity
    obtain ⟨h₂, calls, hrest, hadv₂⟩ := ih (hadv₁.record? hr)
    refine ⟨h₂, [.fetch n, .change n e.change] ++ calls, ?_, ?_⟩
    · rw [Effect.performAll, hperform]
      exact (Op.bind_ok hfirst _).trans hrest
    · rw [← Effect.only_applyAll_cons]
      exact hadv₁.trans hadv₂

/-- An action set is executed whole, and touches no other issue. -/
theorem ActionSet.execute_ok (hr : h.record? n = some r) (a : ActionSet) {s : Record}
    (hn : s.number = n) :
    ∃ h' calls, a.execute s.issue t h = (.ok ⟨n, a.plan s.issue⟩, h') ∧
      h.Advances h' calls (Record.only n (Effect.applyAll (a.plan s.issue))) ∧
      h'.disposition? n = some (a.settle s.disposition r.disposition) := by
  have hnumber : s.issue.number = n := hn
  obtain ⟨h', calls, hperform, hadv⟩ := Effect.performAll_ok hs ht hr (a.plan s.issue)
  refine ⟨h', calls, ?_, hadv, ?_⟩
  · rw [ActionSet.execute, hnumber]
    exact (Op.bind_ok hperform _).trans rfl
  · have hr' := hadv.record? hr
    rw [Record.only_of_eq (Host.record?_eq_some_iff.mp hr).2] at hr'
    rw [Host.disposition?, hr', Option.map_some, Effect.disposition_applyAll, ActionSet.foldl_plan]

lemma Tracker.getIssue_ok (hr : h.record? n = some r) :
    Tracker.getIssue n t h = (.ok r.issue, h.logged (.fetch n)) :=
  (Op.bind_ok (Tracker.recordFor_ok hs hr (ht _) _) _).trans rfl

end Execution

def quietTracker : Tracker where
  scope := ⟨"acme", "desk"⟩
  home := "acme/desk"
  find _ issues := issues

def crowdedRecord : Record where
  issue := {
    number := 4
    state := "open"
    labels := [.named "stale", .named "kept", .named "bug"]
    assignees := [.named "bob", .named "ann"] }

def crowdedHost : Host where
  records := [crowdedRecord]
  distinct := by decide

namespace ActionSet

/-- An action set executed on an issue makes of it what it settles. Executed again, on the issue read anew
or on the snapshot of the first time, it leaves the issue with the same disposition. -/
theorem execute_twice (a : ActionSet) (t : Tracker) (h : Host) (n : Int) (r : Record)
    (hs : t.scope.fullName = t.home) (ht : ∀ log, t.fails log = none) (hr : h.record? n = some r) :
    ∃ snapshot h₀ first h₁, Tracker.getIssue n t h = (.ok snapshot, h₀) ∧
      a.execute snapshot t h₀ = (.ok first, h₁) ∧
      h₁.disposition? n = some (a.settle r.disposition r.disposition) ∧
      (∃ anew h₂ second h₃, Tracker.getIssue n t h₁ = (.ok anew, h₂) ∧
        a.execute anew t h₂ = (.ok second, h₃) ∧ h₃.disposition? n = h₁.disposition? n) ∧
      ∃ second h₂, a.execute snapshot t h₁ = (.ok second, h₂) ∧
        h₂.disposition? n = h₁.disposition? n := by
  have hn : r.number = n := (Host.record?_eq_some_iff.mp hr).2
  obtain ⟨h₁, calls, hfirst, hadv, hd₁⟩ := execute_ok hs ht (h := h.logged (.fetch n)) hr a hn
  have hr₁ := hadv.record? hr
  set r₁ := Record.only n (Effect.applyAll (a.plan r.issue)) r
  have hd : r₁.disposition = a.settle r.disposition r.disposition := by
    rw [Host.disposition?, hr₁] at hd₁
    exact Option.some.inj hd₁
  have hn₁ : r₁.number = n := (Host.record?_eq_some_iff.mp hr₁).2
  refine ⟨r.issue, _, _, h₁, Tracker.getIssue_ok hs ht hr, hfirst, hd₁, ?_, ?_⟩
  · obtain ⟨h₃, -, hsecond, -, hd₃⟩ := execute_ok hs ht (h := h₁.logged (.fetch n)) hr₁ a hn₁
    refine ⟨r₁.issue, _, _, h₃, Tracker.getIssue_ok hs ht hr₁, hsecond, ?_⟩
    rw [hd₃, hd₁, hd, settle_settle a _ _ (.inr rfl)]
  · obtain ⟨h₂, -, hsecond, -, hd₂⟩ := execute_ok hs ht hr₁ a hn
    refine ⟨_, h₂, hsecond, ?_⟩
    rw [hd₂, hd₁, hd, settle_settle a _ _ (.inl rfl)]

/-- Takes off a label and puts it on again, and the same with an assignee. -/
def reshuffle : ActionSet where
  removeLabels := some ["bug", "stale"]
  addLabels := some ["bug", "new"]
  setState := some .closed
  setLocked := some (.lock .spam)
  removeAssignees := some ["all"]
  addAssignees := some ["ann"]

/-- What is removed and added again is there after both executions. -/
theorem execute_twice_reshuffle :
    ∃ snapshot h₀ first h₁, Tracker.getIssue 4 quietTracker crowdedHost = (.ok snapshot, h₀) ∧
      reshuffle.execute snapshot quietTracker h₀ = (.ok first, h₁) ∧
      h₁.disposition? 4 = some ⟨{"kept", "bug", "new"}, {"ann"}, "closed", true, some "spam"⟩ ∧
      (∃ anew h₂ second h₃, Tracker.getIssue 4 quietTracker h₁ = (.ok anew, h₂) ∧
        reshuffle.execute anew quietTracker h₂ = (.ok second, h₃) ∧
        h₃.disposition? 4 = h₁.disposition? 4) ∧
      ∃ second h₂, reshuffle.execute snapshot quietTracker h₁ = (.ok second, h₂) ∧
        h₂.disposition? 4 = h₁.disposition? 4 := by
  obtain ⟨snapshot, h₀, first, h₁, hread, hfirst, hd, hanew, hstale⟩ :=
    execute_twice reshuffle quietTracker crowdedHost 4 crowdedRecord rfl (fun _ => rfl) rfl
  have hsettle : reshuffle.settle crowdedRecord.disposition crowdedRecord.disposition =
      ⟨{"kept", "bug", "new"}, {"ann"}, "closed", true, some "spam"⟩ := by decide +kernel
  exact ⟨snapshot, h₀, first, h₁, hread, hfirst, hsettle ▸ hd, hanew, hstale⟩

end ActionSet

end Triage
