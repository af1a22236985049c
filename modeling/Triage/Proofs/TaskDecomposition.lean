import Mathlib
import Triage.Proofs.IssueLocality
import Triage.Proofs.SweepIsolation
import Triage.Rule.Check

/-!
# A task, issue by issue

A task is applied to the issues of its search one after another, and each execution is local to its
issue. So what becomes of an issue, and whether it is reported as failed, is what a trial of the task on
that issue alone comes to, and calls that fail for one issue make no difference to the others.
-/

namespace Triage

/-- Whether the failure of a call about an issue depends only on the calls made for that issue so far. -/
def Tracker.FailsByIssue (t : Tracker) : Prop :=
  ∀ n log log' c, Call.issue? c = some n → callsOn n log = callsOn n log' →
    t.fails (log ++ [c]) = t.fails (log' ++ [c])

/-- Trackers that differ at most in which calls about one issue fail. -/
def Tracker.DiffersOn (j : Int) (t t' : Tracker) : Prop :=
  ∃ fails, t' = { t with fails } ∧
    ∀ log c, Call.issue? c ≠ some j → fails (log ++ [c]) = t.fails (log ++ [c])

/-- The message of an operation that failed. -/
def messageOf {α : Type} : Except Failure α → Option String
  | .ok _ => none
  | .error failure => some failure.message

lemma Tracker.FailsByIssue.agreesOn {t : Tracker} (ht : t.FailsByIssue) (n : Int) : t.AgreesOn n t :=
  ⟨rfl, rfl, ht n⟩

lemma Tracker.FailsByIssue.agreesOn_of_differsOn {t t' : Tracker} {j n : Int} (ht : t.FailsByIssue)
    (hd : t.DiffersOn j t') (hn : n ≠ j) : t.AgreesOn n t' := by
  obtain ⟨fails, rfl, hfails⟩ := hd
  refine ⟨rfl, rfl, fun log log' c hc hcalls => ?_⟩
  have hother : Call.issue? c ≠ some j := by
    rw [hc]
    exact fun h => hn (Option.some.inj h)
  exact (ht n log log' c hc hcalls).trans (hfails log' c hother).symm

namespace Sweep

section Outcomes

variable {issues : List Issue} {outcomes : List (Except Failure Execution)}

/-- The entry of one issue in the list of failures. -/
def failedEntry (p : Issue × Except Failure Execution) : Option (Int × String) :=
  (messageOf p.2).map fun message => (p.1.number, message)

lemma keys_filterMap_sublist (pairs : List (Issue × Except Failure Execution)) :
    (Entries.keys (pairs.filterMap failedEntry)).Sublist (pairs.map (·.1.number)) := by
  induction pairs with
  | nil => exact .slnil
  | cons p pairs ih =>
    cases hp : failedEntry p with
    | none =>
      rw [List.filterMap_cons_none hp]
      exact ih.cons _
    | some entry =>
      obtain ⟨message, -, rfl⟩ := Option.map_eq_some_iff.mp hp
      rw [List.filterMap_cons_some hp]
      exact ih.cons_cons _

lemma failures_eq_ofPairs (issues : List Issue) (outcomes : List (Except Failure Execution)) :
    failures issues outcomes = Entries.ofPairs ((issues.zip outcomes).filterMap failedEntry) := by
  unfold failures Entries.ofPairs
  rw [List.foldl_filterMap]
  refine List.foldl_ext _ _ _ fun failed p _ => ?_
  obtain ⟨i, outcome⟩ := p
  cases outcome <;> rfl

lemma numbers_zip (hlen : issues.length = outcomes.length) :
    (issues.zip outcomes).map (·.1.number) = issues.map (·.number) := by
  have hmap : (issues.zip outcomes).map (·.1.number) =
      ((issues.zip outcomes).map Prod.fst).map (·.number) := List.map_map.symm
  rw [hmap, List.map_fst_zip hlen.le]

variable (hd : (issues.map (·.number)).Nodup) (hlen : issues.length = outcomes.length)

include hd hlen

/-- Of issues with distinct numbers those are reported that failed, in their order. -/
theorem failures_eq : failures issues outcomes = (issues.zip outcomes).filterMap failedEntry := by
  rw [← numbers_zip hlen] at hd
  rw [failures_eq_ofPairs]
  exact Entries.ofPairs_of_nodup (hd.sublist (keys_filterMap_sublist _))

theorem keys_failures_sublist :
    (Entries.keys (failures issues outcomes)).Sublist (issues.map (·.number)) := by
  rw [failures_eq hd hlen, ← numbers_zip hlen]
  exact keys_filterMap_sublist _

theorem get?_failures {p : Issue × Except Failure Execution} (hp : p ∈ issues.zip outcomes) :
    Entries.get? p.1.number (failures issues outcomes) = messageOf p.2 := by
  have hpairs : ((issues.zip outcomes).map (·.1.number)).Nodup := by rwa [numbers_zip hlen]
  have hkeys := hpairs.sublist (keys_filterMap_sublist (issues.zip outcomes))
  rw [failures_eq hd hlen]
  ext message
  rw [Entries.get?_eq_some_iff hkeys, List.mem_filterMap]
  constructor
  · rintro ⟨q, hq, hentry⟩
    obtain ⟨text, htext, hpair⟩ := Option.map_eq_some_iff.mp hentry
    obtain ⟨hnumber, rfl⟩ := Prod.mk.inj hpair
    obtain rfl := List.inj_on_of_nodup_map hpairs hq hp hnumber
    exact htext
  · intro hmessage
    exact ⟨p, hp, by rw [failedEntry, hmessage]; rfl⟩

end Outcomes

/-- The executions of one action set on issues with distinct numbers: each comes to what it comes to on
any host that looks the same to its issue, and all other issues stay as they were. -/
theorem each_execute (a : ActionSet) {issues : List Issue} (hd : (issues.map (·.number)).Nodup)
    (t : Tracker) (h : Host) :
    ∃ outcomes h₁, Step.each (fun i => (a.execute i).attempt) issues t h = (outcomes, h₁) ∧
      issues.length = outcomes.length ∧ (∀ n, n ∉ issues.map (·.number) → h.AgreesOn n h₁) ∧
      ∀ p ∈ issues.zip outcomes, ∀ t' h', t.AgreesOn p.1.number t' → h.AgreesOn p.1.number h' →
        p.2 = (a.execute p.1 t' h').1 ∧ h₁.AgreesOn p.1.number (a.execute p.1 t' h').2 := by
  induction issues generalizing h with
  | nil => exact ⟨[], h, rfl, rfl, fun n _ => .refl n h, by simp⟩
  | cons i issues ih =>
    rw [List.map_cons, List.nodup_cons] at hd
    have hlocal := a.isLocal_execute i
    rcases hfirst : a.execute i t h with ⟨outcome, hmid⟩
    have hframe {n : Int} (hn : n ≠ i.number) : h.AgreesOn n hmid := by
      have := hlocal.frame hn t h
      rwa [hfirst] at this
    obtain ⟨outcomes, h₁, hrest, hlen, hothers, heach⟩ := ih hd.2 hmid
    refine ⟨outcome :: outcomes, h₁, Op.each_attempt_cons hfirst hrest, ?_, fun n hn => ?_, ?_⟩
    · rw [List.length_cons, List.length_cons, hlen]
    · rw [List.map_cons, List.mem_cons, not_or] at hn
      exact (hframe hn.1).trans (hothers n hn.2)
    · rw [List.zip_cons_cons]
      intro p hp t' h' ht hh
      rcases List.mem_cons.mp hp with rfl | hp
      · obtain ⟨houtcome, hafter⟩ := hlocal.determined ht hh
        rw [hfirst] at houtcome hafter
        exact ⟨houtcome, (hothers i.number hd.1).symm.trans hafter⟩
      · have hmem : p.1.number ∈ issues.map (·.number) :=
          List.mem_map_of_mem (List.of_mem_zip hp).1
        have hne : p.1.number ≠ i.number := fun hpi => hd.1 (hpi ▸ hmem)
        exact heach p hp t' h' ht ((hframe hne).symm.trans hh)

section Run

variable {tasks : Blocks} {now : Moment} {name query : String} {actions : ActionSet}

/-- A run of a task that finds its issues. -/
lemma runRule_ok {t : Tracker} {h : Host}
    (hcompile : compile tasks name t.scope now = .ok (some (query, actions)))
    (hsearch : t.fails (h.log ++ [.search query]) = none)
    {outcomes : List (Except Failure Execution)} {h₁ : Host}
    (heach : Step.each (fun i => (actions.execute i).attempt) (t.find query h.issues) t
      (h.logged (.search query)) = (outcomes, h₁)) :
    runRule tasks now name t h =
      (.ok { name, query := some query, matched := (t.find query h.issues).map (·.number),
             failed := failures (t.find query h.issues) outcomes }, h₁) := by
  have hready := prepare_ready hcompile h
  rw [hsearch] at hready
  refine (Op.bind_ok hready _).trans ?_
  simp only [Op.ofStep, finish, Step.bind_apply, heach]
  rfl

lemma exists_rule_of_compile {scope : Repository}
    (hcompile : compile tasks name scope now = .ok (some (query, actions))) :
    ∃ rule, tasks.rule? name = .ok (some rule) ∧ rule.actions = actions := by
  unfold compile at hcompile
  cases hrule : tasks.rule? name with
  | error e =>
    rw [hrule] at hcompile
    cases hcompile
  | ok found =>
    rw [hrule] at hcompile
    cases found with
    | none => cases hcompile
    | some rule =>
      refine ⟨rule, rfl, ?_⟩
      simp only [Except.bind] at hcompile
      cases hquery : Query.compile rule.predicates scope now with
      | error e =>
        rw [hquery] at hcompile
        cases hcompile
      | ok text =>
        rw [hquery] at hcompile
        exact (Prod.mk.inj (Option.some.inj (Except.ok.inj hcompile))).2

/-- A trial of a task on an issue comes to the execution of its actions. -/
lemma tryOn_eq {c : Configuration} (hblocks : c.taskBlocks = .ok tasks) {rule : Rule}
    (hrule : tasks.rule? name = .ok (some rule)) (i : Issue) (t : Tracker) (h : Host) :
    Rule.tryOn c i name t h =
      ((rule.actions.execute i t h).1.map some, (rule.actions.execute i t h).2) := by
  have htasks : (Op.ofExcept c.taskBlocks : Op Failure Blocks) t h = (.ok tasks, h) := by
    rw [hblocks]
    rfl
  have hfound : (Op.ofExcept (tasks.rule? name) : Op Failure (Option Rule)) t h =
      (.ok (some rule), h) := by
    rw [hrule]
    rfl
  refine (Op.bind_ok htasks _).trans ((Op.bind_ok hfound _).trans ?_)
  rcases hexec : rule.actions.execute i t h with ⟨e | execution, h₁⟩
  · exact Op.bind_error hexec _
  · exact Op.bind_ok hexec _

/-- What a run of a task comes to: the issues it found are matched, only they may have changed or be
reported as failed, and each fares as it would with any tracker and host that look the same to it. -/
structure Treats (a : ActionSet) (issues : List Issue) (t : Tracker) (h : Host) (report : RunReport)
    (h₁ : Host) : Prop where
  matched : report.matched = issues.map (·.number)
  failed : (Entries.keys report.failed).Sublist report.matched
  others : ∀ n ∉ report.matched, h₁.record? n = h.record? n
  own : ∀ i ∈ issues, ∀ t' h', t.AgreesOn i.number t' → h.AgreesOn i.number h' →
    h₁.record? i.number = (a.execute i t' h').2.record? i.number ∧
    Entries.get? i.number report.failed = messageOf (a.execute i t' h').1

theorem runRule_treats {t : Tracker} {h : Host}
    (hcompile : compile tasks name t.scope now = .ok (some (query, actions)))
    (hsearch : t.fails (h.log ++ [.search query]) = none)
    (hdistinct : ((t.find query h.issues).map (·.number)).Nodup) :
    ∃ report h₁, runRule tasks now name t h = (.ok report, h₁) ∧
      report.name = name ∧ report.query = some query ∧ report.error = none ∧
      Treats actions (t.find query h.issues) t h report h₁ := by
  have hlogged (n : Int) : h.AgreesOn n (h.logged (.search query)) :=
    Host.agreesOn_logged (c := .search query) (by simp [Call.issue?]) h
  obtain ⟨outcomes, h₁, heach, hlen, hothers, hown⟩ :=
    each_execute actions hdistinct t (h.logged (.search query))
  refine ⟨_, h₁, runRule_ok hcompile hsearch heach, rfl, rfl, rfl, rfl,
    keys_failures_sublist hdistinct hlen, fun n hn => ?_, fun i hi t' h' ht hh => ?_⟩
  · exact (hothers n hn).record.symm.trans (hlogged n).record.symm
  · obtain ⟨k, hk, rfl⟩ := List.getElem_of_mem hi
    have hk' : k < ((t.find query h.issues).zip outcomes).length := by
      rw [List.length_zip, ← hlen, min_self]
      exact hk
    have hp := List.getElem_mem hk'
    rw [List.getElem_zip] at hp
    obtain ⟨houtcome, hafter⟩ := hown _ hp t' h' ht ((hlogged _).symm.trans hh)
    exact ⟨hafter.record, houtcome ▸ get?_failures hdistinct hlen hp⟩

/-- What one issue makes of two runs of a task whose trackers fail the same calls about it. -/
lemma Treats.congr {t t' : Tracker} {h h₁ h₂ : Host} {issues : List Issue} {report report' : RunReport}
    (hr : Treats actions issues t h report h₁) (hr' : Treats actions issues t' h report' h₂) {n : Int}
    (ht : t.AgreesOn n t) (ht' : t'.AgreesOn n t) :
    h₂.record? n = h₁.record? n ∧
      Entries.get? n report'.failed = Entries.get? n report.failed := by
  by_cases hn : n ∈ issues.map (·.number)
  · obtain ⟨i, hi, rfl⟩ := List.mem_map.mp hn
    obtain ⟨hrecord, hfailed⟩ := hr.own i hi t h ht (.refl _ h)
    obtain ⟨hrecord', hfailed'⟩ := hr'.own i hi t h ht' (.refl _ h)
    exact ⟨hrecord'.trans hrecord.symm, hfailed'.trans hfailed.symm⟩
  · have hnone {t : Tracker} {h₁ : Host} {report : RunReport}
        (hr : Treats actions issues t h report h₁) :
        h₁.record? n = h.record? n ∧ Entries.get? n report.failed = none := by
      have hout : n ∉ report.matched := by rwa [hr.matched]
      refine ⟨hr.others n hout, Option.eq_none_iff_forall_ne_some.mpr fun message hget => ?_⟩
      exact hout (hr.failed.subset (Entries.mem_keys_of_get? hget))
    exact ⟨(hnone hr').1.trans (hnone hr).1.symm, (hnone hr').2.trans (hnone hr).2.symm⟩

end Run

/-- A run of a task is a trial of it on every issue that it finds, each by itself. -/
theorem runRule_decomposes (c : Configuration) (tasks : Blocks) (now : Moment) (name query : String)
    (actions : ActionSet) (t : Tracker) (h : Host) (hblocks : c.taskBlocks = .ok tasks)
    (hcompile : compile tasks name t.scope now = .ok (some (query, actions)))
    (hsearch : t.fails (h.log ++ [.search query]) = none)
    (hdistinct : ((t.find query h.issues).map (·.number)).Nodup) (hlocal : t.FailsByIssue) :
    ∃ report h₁, runRule tasks now name t h = (.ok report, h₁) ∧
      report.name = name ∧ report.query = some query ∧ report.error = none ∧
      report.matched = (t.find query h.issues).map (·.number) ∧
      (Entries.keys report.failed).Sublist report.matched ∧
      (∀ i ∈ t.find query h.issues, ∃ outcome alone,
        Rule.tryOn c i name t h = (outcome, alone) ∧ h₁.record? i.number = alone.record? i.number ∧
        Entries.get? i.number report.failed = messageOf outcome) ∧
      (∀ n ∉ report.matched, h₁.record? n = h.record? n) ∧
      ∀ j t', t.DiffersOn j t' → ∃ report' h₂, runRule tasks now name t' h = (.ok report', h₂) ∧
        report'.matched = report.matched ∧ ∀ n, n ≠ j →
          h₂.record? n = h₁.record? n ∧
          Entries.get? n report'.failed = Entries.get? n report.failed := by
  obtain ⟨rule, hrule, rfl⟩ := exists_rule_of_compile hcompile
  obtain ⟨report, h₁, hrun, hname, hquery, herror, htreats⟩ :=
    runRule_treats hcompile hsearch hdistinct
  refine ⟨report, h₁, hrun, hname, hquery, herror, htreats.matched, htreats.failed, fun i hi => ?_,
    htreats.others, fun j t' hd => ?_⟩
  · obtain ⟨hrecord, hfailed⟩ := htreats.own i hi t h (hlocal.agreesOn _) (.refl _ h)
    refine ⟨_, _, tryOn_eq hblocks hrule i t h, hrecord, hfailed.trans ?_⟩
    cases (rule.actions.execute i t h).1 <;> rfl
  · have hagrees {n : Int} (hn : n ≠ j) : t'.AgreesOn n t :=
      (hlocal.agreesOn_of_differsOn hd hn).symm
    obtain ⟨fails, rfl, hfails⟩ := hd
    have hsearch' : fails (h.log ++ [.search query]) = none :=
      (hfails h.log (.search query) (by simp [Call.issue?])).trans hsearch
    obtain ⟨report', h₂, hrun', -, -, -, htreats'⟩ :=
      runRule_treats (t := { t with fails }) hcompile hsearch' hdistinct
    refine ⟨report', h₂, hrun', htreats'.matched.trans htreats.matched.symm, fun n hn => ?_⟩
    exact htreats.congr htreats' (hlocal.agreesOn n) (hagrees hn)

/-- Closing the second issue fails, its labels are taken off. -/
def flakyTracker : Tracker :=
  { deskTracker with
    fails := fun log =>
      if log.getLast?.bind Call.issue? = some 2 ∧ 3 < (callsOn 2 log).length then
        some (.unreachable "timed out")
      else none }

lemma failsByIssue_flakyTracker : flakyTracker.FailsByIssue := by
  intro n log log' c hc hcalls
  simp only [flakyTracker, List.getLast?_concat, Option.bind_some, hc]
  by_cases hn : n = 2
  · subst hn
    rw [callsOn_concat hc, callsOn_concat hc, hcalls]
  · have hne : some n ≠ some 2 := fun h => hn (Option.some.inj h)
    rw [if_neg fun h => hne h.1, if_neg fun h => hne h.1]

def staleHost : Host where
  records := [
    { issue := { number := 1, state := "open", labels := [.named "stale"] } },
    { issue := { number := 2, state := "open", labels := [.named "stale", .named "kept"] } }]
  distinct := by decide

def tidyTask : Configuration where
  tasks := [
    (.str (.ofString "tidy"), .map [
      (.str (.ofString "if_state"), .str (.ofString "open")),
      (.str (.ofString "remove_labels"), .str (.ofString "stale")),
      (.str (.ofString "set_state"), .str (.ofString "closed"))])]

theorem runRule_decomposes_tidyTask :
    ∃ tasks actions, tidyTask.taskBlocks = .ok tasks ∧
      compile tasks "tidy" flakyTracker.scope presentDay =
        .ok (some ("repo:acme/desk state:open", actions)) ∧
      flakyTracker.fails (staleHost.log ++ [.search "repo:acme/desk state:open"]) = none ∧
      (staleHost.issues.map (·.number)).Nodup ∧ flakyTracker.FailsByIssue ∧
      ∃ report h₁, runRule tasks presentDay "tidy" flakyTracker staleHost = (.ok report, h₁) ∧
        (∀ i ∈ staleHost.issues, ∃ outcome alone,
          Rule.tryOn tidyTask i "tidy" flakyTracker staleHost = (outcome, alone) ∧
          h₁.record? i.number = alone.record? i.number ∧
          Entries.get? i.number report.failed = messageOf outcome) := by
  have hblocks : tidyTask.taskBlocks = .ok [("tidy", .map [
      (.str (.ofString "if_state"), .str (.ofString "open")),
      (.str (.ofString "remove_labels"), .str (.ofString "stale")),
      (.str (.ofString "set_state"), .str (.ofString "closed"))])] := rfl
  have hdistinct : (staleHost.issues.map (·.number)).Nodup := by decide
  obtain ⟨report, h₁, hrun, -, -, -, -, -, heach, -⟩ :=
    runRule_decomposes tidyTask _ presentDay "tidy" "repo:acme/desk state:open"
      { removeLabels := some ["stale"], setState := some .closed } flakyTracker staleHost hblocks rfl rfl
      hdistinct failsByIssue_flakyTracker
  exact ⟨_, _, hblocks, rfl, rfl, hdistinct, failsByIssue_flakyTracker, report, h₁, hrun, heach⟩

end Sweep

end Triage
