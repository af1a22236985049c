import Mathlib
import Triage.Proofs.SweepSchedules

/-!
# The order of the tasks

A sweep makes the searches of all its tasks before it changes the first issue. What a task finds is
therefore decided by its block, and the order of the tasks shows only on the issues that several of them
find. Under a text that is the name of several keys there is only the last of their blocks, so the order
of these keys does matter.
-/

namespace Triage

namespace Configuration

/-- The block that a name stands for. -/
def task? (c : Configuration) (name : String) : Option Value :=
  c.taskBlocks.toOption.bind (Entries.get? name)

lemma nodup_names {c : Configuration} {tasks : Blocks} (hblocks : c.taskBlocks = .ok tasks) :
    tasks.names.Nodup := by
  rcases Sweep.taskBlocks_cases c with ⟨blocks, hok, -, hnodup⟩ | ⟨_, _, _, _, hfails⟩
  · rw [hok] at hblocks
    exact Except.ok.inj hblocks ▸ hnodup
  · rw [hfails] at hblocks
    cases hblocks

/-- Whether the names of the tasks can be written out does not depend on their order. -/
lemma exists_taskBlocks_of_perm {c d : Configuration} {tasks : Blocks} (hp : c.tasks.Perm d.tasks)
    (hblocks : c.taskBlocks = .ok tasks) : ∃ tasks', d.taskBlocks = .ok tasks' := by
  rcases Sweep.taskBlocks_cases d with ⟨tasks', hok, -⟩ | ⟨e, he, fault, hfault, -⟩
  · exact ⟨tasks', hok⟩
  · rcases Sweep.taskBlocks_cases c with ⟨_, _, hkeys, _⟩ | ⟨_, _, _, _, hfails⟩
    · rw [hkeys e (hp.mem_iff.mpr he)] at hfault
      cases hfault
    · rw [hfails] at hblocks
      cases hblocks

/-- The blocks in another order, when every name stands for the same block. -/
lemma taskBlocks_perm {c d : Configuration} {tasks : Blocks} (hp : c.tasks.Perm d.tasks)
    (hget : ∀ name, c.task? name = d.task? name) (hblocks : c.taskBlocks = .ok tasks) :
    ∃ tasks', d.taskBlocks = .ok tasks' ∧ tasks.Perm tasks' := by
  obtain ⟨tasks', hblocks'⟩ := exists_taskBlocks_of_perm hp hblocks
  refine ⟨tasks', hblocks', ?_⟩
  apply Entries.perm_of_get? (nodup_names hblocks) (nodup_names hblocks')
  intro name
  have hname := hget name
  rw [task?, task?, hblocks, hblocks'] at hname
  exact hname

lemma taskBlocks_of_nodup {c : Configuration} {tasks : Blocks}
    (hkeys : (c.tasks.map (·.1.text)).Nodup) (hblocks : c.taskBlocks = .ok tasks) :
    tasks = c.tasks.map fun e => (e.1.text, e.2) := by
  have hnodup : (Entries.keys (c.tasks.map fun e => (e.1.text, e.2))).Nodup := by
    rw [Entries.keys, List.map_map]
    exact hkeys
  rcases Rule.writable_cases c.tasks with ⟨hw, -⟩ | ⟨_, _, _, _, hw⟩
  · rw [taskBlocks, Blocks.ofMapping, hw] at hblocks
    rw [← Entries.ofPairs_of_nodup hnodup]
    exact (Except.ok.inj hblocks).symm
  · rw [taskBlocks, Blocks.ofMapping, hw] at hblocks
    cases hblocks

/-- When the texts of the keys are distinct, a name stands for the same block in every order. -/
theorem task?_of_perm {c d : Configuration} (hp : c.tasks.Perm d.tasks)
    (hkeys : (c.tasks.map (·.1.text)).Nodup) (name : String) : c.task? name = d.task? name := by
  have hkeys' : (d.tasks.map (·.1.text)).Nodup := (hp.map _).nodup_iff.mp hkeys
  unfold task?
  cases hblocks : c.taskBlocks with
  | ok tasks =>
    obtain ⟨tasks', hblocks'⟩ := exists_taskBlocks_of_perm hp hblocks
    have hnodup := nodup_names hblocks
    rw [hblocks']
    rw [taskBlocks_of_nodup hkeys hblocks] at hnodup ⊢
    rw [taskBlocks_of_nodup hkeys' hblocks']
    exact Entries.get?_of_perm hnodup (hp.map _) name
  | error e =>
    cases hblocks' : d.taskBlocks with
    | ok tasks' =>
      obtain ⟨tasks, hok⟩ := exists_taskBlocks_of_perm hp.symm hblocks'
      rw [hblocks] at hok
      cases hok
    | error e' => rfl

end Configuration

/-- A report without the issues that failed. -/
def RunReport.outline (r : RunReport) : RunReport := { r with failed := [] }

namespace Sweep

section Run

variable {t : Tracker} {tasks : Blocks} {now : Moment} {n : Int} {h h' : Host}

/-- What is reported of a task when no call fails, but for the issues that failed. -/
def outlineOf (tasks : Blocks) (now : Moment) (t : Tracker) (issues : List Issue) (name : String) :
    RunReport :=
  match compile tasks name t.scope now with
  | .error failure => { name, error := some failure.message }
  | .ok none => { name, error := some notConfigured }
  | .ok (some (query, _)) =>
    { name, query := some query, matched := (t.find query issues).map (·.number) }

lemma matched_of_query {issues : List Issue} {name query : String}
    (hquery : (outlineOf tasks now t issues name).query = some query) :
    (outlineOf tasks now t issues name).matched = (t.find query issues).map (·.number) := by
  unfold outlineOf at hquery ⊢
  cases hc : compile tasks name t.scope now with
  | error e => simp [hc] at hquery
  | ok found =>
    cases found with
    | none => simp [hc] at hquery
    | some p =>
      simp only [hc, Option.some.injEq] at hquery
      simp only [hquery]

/-- What a task leaves to be executed when no call fails. -/
def dueOf (tasks : Blocks) (now : Moment) (t : Tracker) (issues : List Issue) (name : String) :
    Option (ActionSet × List Issue) :=
  (searchOf tasks now t.scope name).map fun p => (p.2, t.find p.1 issues)

lemma matched_outlineOf {issues : List Issue} {name : String} {p : ActionSet × List Issue}
    (hdue : dueOf tasks now t issues name = some p) :
    (outlineOf tasks now t issues name).matched = p.2.map (·.number) := by
  obtain ⟨⟨query, actions⟩, hsearch, rfl⟩ := Option.map_eq_some_iff.mp hdue
  have hcompile := searchOf_eq_some_iff.mp hsearch
  simp only [outlineOf, hcompile]

lemma Accounts.outlines {issues : List Issue} {log : List Call} {names : List String}
    {reports : List RunReport} (ht : ∀ log, t.fails log = none)
    (ha : Accounts tasks now t issues log names reports) :
    reports.map RunReport.outline = names.map (outlineOf tasks now t issues) := by
  induction ha with
  | nil => rfl
  | unusable hc _ ih =>
    rw [List.map_cons, List.map_cons, ih, outlineOf, hc]
    rfl
  | unsearched _ hf _ _ =>
    rw [ht] at hf
    cases hf
  | run hc _ _ _ ih =>
    rw [List.map_cons, List.map_cons, ih, outlineOf, hc]
    rfl

lemma agreesOn_each {α β : Type} {f : α → Step β} {as : List α}
    (hf : ∀ a ∈ as, ∀ h : Host, h.AgreesOn n (f a t h).2) (h : Host) : h.AgreesOn n (Step.each f as t h).2 := by
  induction as generalizing h with
  | nil => exact .refl n h
  | cons a as ih =>
    have hfirst := hf a List.mem_cons_self h
    have hrest := ih (fun b hb => hf b (List.mem_cons_of_mem a hb)) (f a t h).2
    exact hfirst.trans hrest

/-- Executions do to an issue what they do to it on any host that looks the same to it. -/
lemma executeAll_agreesOn (ht : t.AgreesOn n t) (p : ActionSet × List Issue) (hh : h.AgreesOn n h') :
    (executeAll t h p).AgreesOn n (executeAll t h' p) := by
  obtain ⟨a, issues⟩ := p
  unfold executeAll
  induction issues generalizing h h' with
  | nil => exact hh
  | cons i issues ih =>
    apply ih
    have hlocal := a.isLocal_execute i
    by_cases hn : n = i.number
    · rw [hn] at ht hh ⊢
      exact (hlocal.determined ht hh).2
    · exact (hlocal.frame hn t h).symm.trans (hh.trans (hlocal.frame hn t h'))

lemma executeAll_frame {p : ActionSet × List Issue} (hn : n ∉ p.2.map (·.number)) (h : Host) :
    h.AgreesOn n (executeAll t h p) := by
  apply agreesOn_each
  intro i hi h₁
  refine (p.1.isLocal_execute i).frame ?_ t h₁
  rintro rfl
  exact hn (List.mem_map_of_mem hi)

/-- To an issue only those executions count that it is among. -/
lemma foldl_agreesOn (ht : t.AgreesOn n t) (ready : List (ActionSet × List Issue))
    (hh : h.AgreesOn n h') : (ready.foldl (executeAll t) h).AgreesOn n
      ((ready.filter fun p => n ∈ p.2.map (·.number)).foldl (executeAll t) h') := by
  induction ready generalizing h h' with
  | nil => exact hh
  | cons p ready ih =>
    by_cases hn : n ∈ p.2.map (·.number)
    · rw [List.filter_cons_of_pos (by simpa using hn)]
      exact ih (executeAll_agreesOn ht p hh)
    · rw [List.filter_cons_of_neg (by simpa using hn)]
      exact ih ((executeAll_frame hn h).symm.trans hh)

section Quiet

variable (ht : ∀ log, t.fails log = none)

include ht

lemma prepare_agreesOn (name : String) (h : Host) : h.AgreesOn n (prepare tasks now name t h).2 := by
  rcases prepare_cases ht name h with ⟨query, _, _, -, hprepare, -⟩ | ⟨_, -, hprepare, -⟩
  · rw [hprepare]
    exact Host.agreesOn_logged (c := .search query) (by simp [Call.issue?]) h
  · rw [hprepare]
    exact .refl n h

variable (now) in
/-- What a sweep makes of an issue. -/
lemma runAll_agreesOn {c : Configuration} (hblocks : c.taskBlocks = .ok tasks) (h : Host) (n : Int) :
    (runAll c now t h).2.AgreesOn n
      (((tasks.names.filterMap (dueOf tasks now t h.issues)).filter
        fun p => n ∈ p.2.map (·.number)).foldl (executeAll t) h) := by
  obtain ⟨outcomes, h₁, heach, -, hready, -⟩ := each_prepare_schedule tasks now ht tasks.names h
  have hprepared : h.AgreesOn n h₁ := by
    have hframe : h.AgreesOn n
        (Step.each (fun name => (prepare tasks now name).attempt) tasks.names t h).2 :=
      agreesOn_each (fun name _ h₀ => prepare_agreesOn ht name h₀) h
    rwa [heach] at hframe
  have hdue : outcomes.filterMap readyOf = tasks.names.filterMap (dueOf tasks now t h.issues) := by
    rw [hready, List.map_filterMap]
    rfl
  rw [runAll_host hblocks heach, hdue]
  have hself : t.AgreesOn n t := ⟨rfl, rfl, fun log log' _ _ _ => (ht _).trans (ht _).symm⟩
  exact foldl_agreesOn hself _ hprepared.symm

end Quiet

end Run

section Order

variable {tasks tasks' : Blocks} (hnodup : tasks.names.Nodup) (hp : tasks.Perm tasks')

include hnodup hp

lemma compile_of_perm (name : String) (scope : Repository) (now : Moment) :
    compile tasks name scope now = compile tasks' name scope now := by
  simp only [compile, Blocks.rule?, Entries.get?_of_perm hnodup hp]

lemma outlineOf_of_perm (now : Moment) (t : Tracker) (issues : List Issue) :
    outlineOf tasks now t issues = outlineOf tasks' now t issues := by
  funext name
  simp only [outlineOf, compile_of_perm hnodup hp]

lemma dueOf_of_perm (now : Moment) (t : Tracker) (issues : List Issue) :
    dueOf tasks now t issues = dueOf tasks' now t issues := by
  funext name
  simp only [dueOf, searchOf, compile_of_perm hnodup hp]

end Order

/-- Of tasks with disjoint matches one at most finds an issue. -/
lemma filter_due_perm {tasks : Blocks} {now : Moment} {t : Tracker} {issues : List Issue}
    {names names' : List String} (hp : names.Perm names')
    (hdisjoint : (names.map (outlineOf tasks now t issues)).Pairwise
      fun r s => r.matched.Disjoint s.matched) (n : Int) :
    (names.filterMap (dueOf tasks now t issues)).filter (fun p => n ∈ p.2.map (·.number)) =
      (names'.filterMap (dueOf tasks now t issues)).filter (fun p => n ∈ p.2.map (·.number)) := by
  have hready : (names.filterMap (dueOf tasks now t issues)).Pairwise
      fun p q => ¬(n ∈ p.2.map (·.number) ∧ n ∈ q.2.map (·.number)) := by
    rw [List.pairwise_filterMap]
    refine (List.pairwise_map.mp hdisjoint).imp fun hne p hdue q hdue' hboth => ?_
    rw [matched_outlineOf hdue, matched_outlineOf hdue'] at hne
    exact hne hboth.1 hboth.2
  have hfiltered := ((hp.filterMap (dueOf tasks now t issues)).filter
    fun p => decide (n ∈ p.2.map (·.number)))
  have hnone : ((names.filterMap (dueOf tasks now t issues)).filter
      fun p => n ∈ p.2.map (·.number)).Pairwise fun _ _ => False := by
    rw [List.pairwise_filter]
    refine hready.imp fun hne hp hq => hne ⟨?_, ?_⟩
    · exact of_decide_eq_true hp
    · exact of_decide_eq_true hq
  have hnone' := (hfiltered.pairwise_iff fun h => h).mp hnone
  exact List.Perm.eq_of_pairwise (fun _ _ _ _ h => h.elim) hnone hnone' hfiltered

/-- A sweep without failed calls over tasks that it gets past, in two orders in which every name stands for
the same block. Each task has the same query, matches and error in both, with the matches of its query
among the issues as they are before the sweep. When no issue is matched by two tasks, all issues end in
the same state. -/
theorem runAll_perm (c d : Configuration) (tasks : Blocks) (now : Moment) (t : Tracker) (h : Host)
    (hp : c.tasks.Perm d.tasks) (hnames : ∀ name, c.task? name = d.task? name)
    (hblocks : c.taskBlocks = .ok tasks)
    (hpass : ∀ name ∈ tasks.names, Passable tasks now t.scope name)
    (ht : ∀ log, t.fails log = none) :
    ∃ reports h₁ reports' h₂, runAll c now t h = (.ok reports, h₁) ∧
      runAll d now t h = (.ok reports', h₂) ∧ (reports.map (·.name)).Nodup ∧
      (reports.map RunReport.outline).Perm (reports'.map RunReport.outline) ∧
      (∀ report ∈ reports, ∀ query, report.query = some query →
        report.matched = (t.find query h.issues).map (·.number)) ∧
      (reports.Pairwise (fun r s => r.matched.Disjoint s.matched) →
        ∀ n, h₁.record? n = h₂.record? n) := by
  obtain ⟨tasks', hblocks', hperm⟩ := Configuration.taskBlocks_perm hp hnames hblocks
  have hnodup := Configuration.nodup_names hblocks
  have hkeys : tasks.names.Perm tasks'.names := hperm.map _
  have hpass' : ∀ name ∈ tasks'.names, Passable tasks' now t.scope name := by
    intro name hname
    have hcompile := compile_of_perm hnodup hperm name t.scope now
    cases hpass name (hkeys.mem_iff.mpr hname) with
    | ready hc => exact .ready (hcompile ▸ hc)
    | fault hc => exact .fault (hcompile ▸ hc)
  obtain ⟨reports, h₁, hrun, haccounts⟩ := runAll_accounts hblocks hpass h
  obtain ⟨reports', h₂, hrun', haccounts'⟩ := runAll_accounts hblocks' hpass' h
  have houtlines := haccounts.outlines ht
  have houtlines' := haccounts'.outlines ht
  rw [← outlineOf_of_perm hnodup hperm] at houtlines'
  refine ⟨reports, h₁, reports', h₂, hrun, hrun', ?_, ?_, fun report hreport query hquery => ?_,
    fun hdisjoint n => ?_⟩
  · rw [haccounts.names]
    exact hnodup
  · rw [houtlines, houtlines']
    exact hkeys.map _
  · have hmem : report.outline ∈ tasks.names.map (outlineOf tasks now t h.issues) := by
      rw [← houtlines]
      exact List.mem_map_of_mem hreport
    obtain ⟨name, -, hname⟩ := List.mem_map.mp hmem
    have hmatched : (outlineOf tasks now t h.issues name).matched = report.matched :=
      (congrArg RunReport.matched hname).trans rfl
    have hasked : (outlineOf tasks now t h.issues name).query = some query :=
      (congrArg RunReport.query hname).trans hquery
    exact hmatched.symm.trans (matched_of_query hasked)
  · have houtlined : (reports.map RunReport.outline).Pairwise
        fun r s => r.matched.Disjoint s.matched := List.pairwise_map.mpr hdisjoint
    rw [houtlines] at houtlined
    have hleft := (runAll_agreesOn now ht hblocks h n).record
    have hright := (runAll_agreesOn now ht hblocks' h n).record
    rw [hrun, filter_due_perm hkeys houtlined n] at hleft
    rw [hrun', ← dueOf_of_perm hnodup hperm] at hright
    exact hleft.trans hright.symm

/-- Finds the issues in the state that a query ends with. -/
def stateTracker : Tracker :=
  { deskTracker with
    find := fun query issues => issues.filter fun i => query == "repo:acme/desk state:" ++ i.state }

/-- A task that attaches a label to the issues in a state. -/
def stateTask (key : Value) (state label : String) : Value × Value :=
  (key, .map [
    (.str (.ofString "if_state"), .str (.ofString state)),
    (.str (.ofString "add_labels"), .str (.ofString label))])

def openThenClosed : Configuration where
  tasks := [stateTask (.str (.ofString "live")) "open" "new",
    stateTask (.str (.ofString "done")) "closed" "old"]

def closedThenOpen : Configuration where
  tasks := [stateTask (.str (.ofString "done")) "closed" "old",
    stateTask (.str (.ofString "live")) "open" "new"]

def stateHost : Host where
  records := [{ issue := { number := 1, state := "open" } }, { issue := { number := 2, state := "closed" } }]
  distinct := by decide

theorem runAll_perm_openThenClosed : ∃ reports h₁ reports' h₂,
    runAll openThenClosed presentDay stateTracker stateHost = (.ok reports, h₁) ∧
    runAll closedThenOpen presentDay stateTracker stateHost = (.ok reports', h₂) ∧
    (reports.map RunReport.outline).Perm (reports'.map RunReport.outline) ∧
    ∀ n, h₁.record? n = h₂.record? n := by
  have hp : openThenClosed.tasks.Perm closedThenOpen.tasks := .swap _ _ []
  have hpass : ∀ name ∈ ["live", "done"], Passable [
      ("live", (stateTask .null "open" "new").2), ("done", (stateTask .null "closed" "old").2)]
      presentDay stateTracker.scope name := by
    simp only [List.forall_mem_cons, List.not_mem_nil, false_implies, implies_true, and_true]
    exact ⟨.ready rfl, .ready rfl⟩
  obtain ⟨reports, h₁, reports', h₂, hrun, hrun', -, houtlines, -, hrecords⟩ :=
    runAll_perm openThenClosed closedThenOpen _ presentDay stateTracker stateHost hp
      (Configuration.task?_of_perm hp (by decide +kernel)) rfl hpass fun _ => rfl
  have hmatched : (runAll openThenClosed presentDay stateTracker stateHost).1.toOption.map
      (·.map (·.matched)) = some [[1], [2]] := by decide +kernel
  rw [hrun] at hmatched
  have hdisjoint : (reports.map (·.matched)).Pairwise List.Disjoint := by
    have hlists : reports.map (·.matched) = [[1], [2]] := Option.some.inj hmatched
    rw [hlists, List.pairwise_pair]
    exact List.disjoint_singleton.mpr (by decide)
  exact ⟨reports, h₁, reports', h₂, hrun, hrun', houtlines, hrecords (List.pairwise_map.mp hdisjoint)⟩

/-- The keys are a number and a string with one text. -/
def twinKeys : Configuration where
  tasks := [stateTask (.int 1) "open" "new", stateTask (.str (.ofString "1")) "closed" "old"]

def twinKeysSwapped : Configuration where
  tasks := [stateTask (.str (.ofString "1")) "closed" "old", stateTask (.int 1) "open" "new"]

/-- The last block of a name counts, so the query changes with the order of the keys. -/
theorem runAll_perm_twinKeys : twinKeys.tasks.Perm twinKeysSwapped.tasks ∧
    (∀ log, stateTracker.fails log = none) ∧
    (runAll twinKeys presentDay stateTracker stateHost).1.toOption.map (·.map RunReport.outline) =
      some [{ name := "1", query := some "repo:acme/desk state:closed", matched := [2] }] ∧
    (runAll twinKeysSwapped presentDay stateTracker stateHost).1.toOption.map (·.map RunReport.outline) =
      some [{ name := "1", query := some "repo:acme/desk state:open", matched := [1] }] := by
  exact ⟨.swap _ _ [], fun _ => rfl, by decide +kernel, by decide +kernel⟩

end Sweep

end Triage
