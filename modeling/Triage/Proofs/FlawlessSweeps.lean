import Mathlib
import Triage.Proofs.StoppedEffects
import Triage.Proofs.SweepSchedules
import Triage.Proofs.TaskDecomposition

/-!
# Sweeps that nothing goes wrong in

A sweep is clean when it returns its reports and none of them tells of a skipped task or a failed issue.
That is so exactly when every task has a query and no call fails: neither a search nor a call of the
effects, which are all planned from what the searches find.
-/

namespace Triage

/-- No task was skipped and no issue failed. -/
def RunReport.IsClean (r : RunReport) : Prop := r.error = none ∧ r.failed = []

namespace Sweep

/-- The effects that an action set plans for the issues that its search found. -/
def planned (p : ActionSet × List Issue) : List (Issue × List Effect) := p.2.map fun i => (i, p.1.plan i)

/-- The calls of effects that are due on issues. -/
def dueCalls (due : List (Issue × List Effect)) : List Call :=
  due.flatMap fun p => p.2.flatMap (Effect.calls p.1.number)

/-- Whether all effects that are due on issues go through, one issue after another. -/
structure Performs (t : Tracker) (h : Host) (due : List (Issue × List Effect)) : Prop where
  known : ∀ p ∈ due, p.2 ≠ [] → t.Knows h p.1.number
  served : t.Serves h.log (dueCalls due)

section Effects

variable {t : Tracker} {h h₁ : Host} {f : Record → Record} {due more : List (Issue × List Effect)}

lemma performs_nil : Performs t h [] := ⟨fun _ hp => absurd hp List.not_mem_nil, trivial⟩

lemma performs_singleton (p : Issue × List Effect) :
    Performs t h [p] ↔ Effect.GoThrough t h p.1.number p.2 := by
  constructor
  · intro hp
    exact ⟨hp.known p List.mem_cons_self, by simpa [dueCalls] using hp.served⟩
  · intro hp
    refine ⟨fun q hq => ?_, by simpa [dueCalls] using hp.2⟩
    rw [List.mem_singleton.mp hq]
    exact hp.1

lemma Performs.front (hall : Performs t h (due ++ more)) : Performs t h due := by
  have hserved := hall.served
  rw [dueCalls, List.flatMap_append, Tracker.serves_append] at hserved
  exact ⟨fun p hp => hall.known p (List.mem_append_left more hp), hserved.1⟩

/-- What is due after effects that went through can be seen where these left the host. -/
lemma performs_append (hdue : Performs t h due) (ha : h.Advances h₁ (dueCalls due) f) :
    Performs t h (due ++ more) ↔ Performs t h₁ more := by
  have hserved : t.Serves h.log (dueCalls (due ++ more)) ↔ t.Serves h₁.log (dueCalls more) := by
    rw [dueCalls, List.flatMap_append, Tracker.serves_append, ha.log]
    exact and_iff_right hdue.served
  constructor
  · intro hall
    refine ⟨fun p hp hne => ?_, hserved.mp hall.served⟩
    exact (Tracker.knows_of_advances ha).mpr (hall.known p (List.mem_append_right due hp) hne)
  · intro hmore
    refine ⟨fun p hp hne => ?_, hserved.mpr hmore.served⟩
    rcases List.mem_append.mp hp with hp | hp
    · exact hdue.known p hp hne
    · exact (Tracker.knows_of_advances ha).mp (hmore.known p hp hne)

lemma execute_performs (a : ActionSet) (i : Issue) (t : Tracker) (h : Host) :
    ∃ outcome h₁, a.execute i t h = (outcome, h₁) ∧
      (failedEntry (i, outcome) = none ↔ Performs t h [(i, a.plan i)]) ∧
      (Performs t h [(i, a.plan i)] → ∃ f, h.Advances h₁ (dueCalls [(i, a.plan i)]) f) := by
  obtain ⟨outcome, h₁, hends, hexecute⟩ := a.execute_ends i t h
  refine ⟨_, h₁, hexecute, ?_, fun hgo => ?_⟩
  · rw [performs_singleton, ← hends.ok_iff]
    cases outcome <;> simp [failedEntry, messageOf, Except.map]
  · have hcalls : dueCalls [(i, a.plan i)] = (a.plan i).flatMap (Effect.calls i.number) :=
      List.flatMap_singleton _ _
    rw [performs_singleton, ← hends.ok_iff] at hgo
    subst hgo
    rw [hcalls]
    cases hends with
    | done _ hadv => exact ⟨_, hadv⟩

lemma each_execute_performs (a : ActionSet) (issues : List Issue) (t : Tracker) (h : Host) :
    ∃ outcomes h₁, Step.each (fun i => (a.execute i).attempt) issues t h = (outcomes, h₁) ∧
      ((∀ p ∈ issues.zip outcomes, failedEntry p = none) ↔ Performs t h (planned (a, issues))) ∧
      (Performs t h (planned (a, issues)) → ∃ f, h.Advances h₁ (dueCalls (planned (a, issues))) f) := by
  induction issues generalizing h with
  | nil =>
    refine ⟨[], h, rfl, ⟨fun _ => performs_nil, fun _ => by simp⟩, fun _ => ⟨id, h.advances_refl⟩⟩
  | cons i issues ih =>
    obtain ⟨outcome, hmid, hfirst, hfailed, hadv⟩ := execute_performs a i t h
    obtain ⟨outcomes, h₁, hrest, hnone, hmore⟩ := ih hmid
    have hsplit : planned (a, i :: issues) = [(i, a.plan i)] ++ planned (a, issues) := rfl
    refine ⟨outcome :: outcomes, h₁, Op.each_attempt_cons hfirst hrest, ?_, fun hall => ?_⟩
    · rw [List.zip_cons_cons, List.forall_mem_cons, hfailed, hnone, hsplit]
      constructor
      · rintro ⟨hgo, hothers⟩
        obtain ⟨f, hf⟩ := hadv hgo
        exact (performs_append hgo hf).mpr hothers
      · intro hall
        obtain ⟨f, hf⟩ := hadv hall.front
        exact ⟨hall.front, (performs_append hall.front hf).mp hall⟩
    · rw [hsplit] at hall ⊢
      obtain ⟨f, hf⟩ := hadv hall.front
      obtain ⟨g, hg⟩ := hmore ((performs_append hall.front hf).mp hall)
      have hboth := hf.trans hg
      rw [dueCalls, dueCalls, ← List.flatMap_append] at hboth
      exact ⟨_, hboth⟩

lemma failures_eq_nil_iff (issues : List Issue) (outcomes : List (Except Failure Execution)) :
    failures issues outcomes = [] ↔ ∀ p ∈ issues.zip outcomes, failedEntry p = none := by
  rw [failures_eq_ofPairs, Entries.ofPairs_eq_nil_iff, List.filterMap_eq_nil_iff]

end Effects

section Finishing

/-- A task that was made ready is reported clean when its effects go through. -/
lemma finishing_performs (name query : String) (p : ActionSet × List Issue) (t : Tracker) (h : Host) :
    ∃ report h₁, finishing (.ok (.ready name query p.1 p.2)) t h = (.ok report, h₁) ∧
      (report.IsClean ↔ Performs t h (planned p)) ∧
      (Performs t h (planned p) → ∃ f, h.Advances h₁ (dueCalls (planned p)) f) := by
  obtain ⟨a, issues⟩ := p
  obtain ⟨outcomes, h₁, heach, hfailed, hadv⟩ := each_execute_performs a issues t h
  let report : RunReport :=
    { name, query := some query, matched := issues.map (·.number), failed := failures issues outcomes }
  refine ⟨report, h₁, ?_, ?_, hadv⟩
  · simp only [finishing, Op.ofExcept, Op.bind_apply, Op.ofStep, finish, Step.bind_apply, heach]
    rfl
  · rw [← hfailed, ← failures_eq_nil_iff]
    exact and_iff_right rfl

/-- The reports of tasks are clean when all of them were made ready and all their effects go through. -/
lemma each_finishing_clean {prepared : List (Except Failure Prepared)}
    (hskipped : ∀ report, .ok (.skipped report) ∈ prepared → report.error ≠ none) (t : Tracker) (h : Host) :
    (∀ outcome ∈ (Step.each (fun p => (finishing p).attempt) prepared t h).1,
        ∃ report, outcome = .ok report ∧ report.IsClean) ↔
      (∀ p ∈ prepared, (readyOf p).isSome = true) ∧
        Performs t h ((prepared.filterMap readyOf).flatMap planned) := by
  induction prepared generalizing h with
  | nil => exact ⟨fun _ => ⟨by simp, performs_nil⟩, fun _ => by simp [Step.each, Step.pure, pure]⟩
  | cons p prepared ih =>
    have hothers := ih fun report hmem => hskipped report (List.mem_cons_of_mem p hmem)
    rcases hfirst : finishing p t h with ⟨outcome, h₁⟩
    rcases hrest : Step.each (fun p => (finishing p).attempt) prepared t h₁ with ⟨outcomes, h₂⟩
    have hthere := hothers h₁
    rw [hrest] at hthere
    rw [Op.each_attempt_cons hfirst hrest, List.forall_mem_cons, List.forall_mem_cons, hthere]
    cases p with
    | error e =>
      cases hfirst
      constructor
      · rintro ⟨⟨_, ⟨⟩, _⟩, _⟩
      · rintro ⟨⟨⟨⟩, _⟩, _⟩
    | ok p =>
      cases p with
      | skipped report =>
        cases hfirst
        constructor
        · rintro ⟨⟨_, heq, hclean⟩, _⟩
          cases heq
          exact absurd hclean.1 (hskipped _ List.mem_cons_self)
        · rintro ⟨⟨⟨⟩, _⟩, _⟩
      | ready name query a issues =>
        obtain ⟨report, _, hrun, hclean, hadv⟩ := finishing_performs name query (a, issues) t h
        cases hfirst.symm.trans hrun
        have hready : readyOf (.ok (.ready name query a issues)) = some (a, issues) := rfl
        rw [List.filterMap_cons_some hready, List.flatMap_cons]
        constructor
        · rintro ⟨⟨_, heq, hreport⟩, hall, hmore⟩
          cases heq
          obtain ⟨f, hf⟩ := hadv (hclean.mp hreport)
          exact ⟨⟨rfl, hall⟩, (performs_append (hclean.mp hreport) hf).mpr hmore⟩
        · rintro ⟨⟨_, hall⟩, hboth⟩
          obtain ⟨f, hf⟩ := hadv hboth.front
          exact ⟨⟨report, rfl, hclean.mpr hboth.front⟩, hall, (performs_append hboth.front hf).mp hboth⟩

end Finishing

section Preparing

variable {tasks : Blocks} {now : Moment} {t : Tracker}

variable (tasks now t) in
/-- A task is made ready when it has a query and its search does not fail. Otherwise it is skipped with an
error, or stops the sweep. -/
lemma prepare_outcome (name : String) (h : Host) :
    (∃ query a, compile tasks name t.scope now = .ok (some (query, a)) ∧
      t.fails (h.log ++ [.search query]) = none ∧ prepare tasks now name t h =
        (.ok (.ready name query a (t.find query h.issues)), h.logged (.search query))) ∨
    ((∀ query a, compile tasks name t.scope now = .ok (some (query, a)) →
        t.fails (h.log ++ [.search query]) ≠ none) ∧
      ∃ outcome h₁, prepare tasks now name t h = (outcome, h₁) ∧ readyOf outcome = none ∧
        ∀ report, outcome = .ok (.skipped report) → report.error ≠ none) := by
  cases hc : compile tasks name t.scope now with
  | error e =>
    refine .inr ⟨by rintro _ _ ⟨⟩, ?_⟩
    by_cases he : ∃ fault, e = .configuration fault
    · obtain ⟨fault, rfl⟩ := he
      exact ⟨_, _, prepare_fault hc h, rfl, by rintro _ ⟨⟩ ⟨⟩⟩
    · exact ⟨_, _, prepare_stop hc (fun fault heq => he ⟨fault, heq⟩) h, rfl, by rintro _ ⟨⟩⟩
  | ok found =>
    cases found with
    | none =>
      exact .inr ⟨by rintro _ _ ⟨⟩, _, _, prepare_missing hc h, rfl, by rintro _ ⟨⟩ ⟨⟩⟩
    | some p =>
      obtain ⟨query, a⟩ := p
      have hready := prepare_ready hc h
      cases hf : t.fails (h.log ++ [.search query]) with
      | none =>
        rw [hf] at hready
        exact .inl ⟨query, a, rfl, hf, hready⟩
      | some fault =>
        rw [hf] at hready
        refine .inr ⟨?_, _, _, hready, rfl, by rintro _ ⟨⟩ ⟨⟩⟩
        rintro _ _ ⟨⟩
        rw [hf]
        exact Option.some_ne_none fault

/-- The searches of tasks that have a query. -/
def searchCalls (found : List (String × ActionSet)) : List Call := found.map fun p => .search p.1

/-- Whether tasks have queries and their searches do not fail, one after another. -/
structure Finds (tasks : Blocks) (now : Moment) (t : Tracker) (h : Host) (names : List String) : Prop where
  compiled : ∀ name ∈ names, ∃ query a, compile tasks name t.scope now = .ok (some (query, a))
  served : t.Serves h.log (searchCalls (names.filterMap (searchOf tasks now t.scope)))

lemma finds_cons {name query : String} {a : ActionSet} {names : List String} {h : Host}
    (hc : compile tasks name t.scope now = .ok (some (query, a))) :
    Finds tasks now t h (name :: names) ↔
      t.fails (h.log ++ [.search query]) = none ∧ Finds tasks now t (h.logged (.search query)) names := by
  have hserved : t.Serves h.log (searchCalls ((name :: names).filterMap (searchOf tasks now t.scope))) ↔
      t.fails (h.log ++ [.search query]) = none ∧
        t.Serves (h.logged (.search query)).log
          (searchCalls (names.filterMap (searchOf tasks now t.scope))) := by
    rw [List.filterMap_cons_some (searchOf_eq_some_iff.mpr hc)]
    rfl
  constructor
  · rintro ⟨hall, hcalls⟩
    exact ⟨(hserved.mp hcalls).1, fun n hn => hall n (List.mem_cons_of_mem name hn),
      (hserved.mp hcalls).2⟩
  · rintro ⟨hf, hall, hcalls⟩
    exact ⟨List.forall_mem_cons.mpr ⟨⟨query, a, hc⟩, hall⟩, hserved.mpr ⟨hf, hcalls⟩⟩

variable (tasks now t) in
/-- Tasks are all made ready when they find their issues. -/
lemma each_prepare_ready (names : List String) (h : Host) :
    ∃ prepared h₁, Step.each (fun name => (prepare tasks now name).attempt) names t h = (prepared, h₁) ∧
      (∀ report, .ok (.skipped report) ∈ prepared → report.error ≠ none) ∧
      ((∀ p ∈ prepared, (readyOf p).isSome = true) ↔ Finds tasks now t h names) ∧
      (Finds tasks now t h names →
        h.Advances h₁ (searchCalls (names.filterMap (searchOf tasks now t.scope))) id ∧
        prepared.filterMap readyOf = (names.filterMap (searchOf tasks now t.scope)).map
          fun p => (p.2, t.find p.1 h.issues)) := by
  induction names generalizing h with
  | nil =>
    refine ⟨[], h, rfl, by simp, ⟨fun _ => ⟨by simp, trivial⟩, fun _ => by simp⟩, fun _ => ?_⟩
    exact ⟨h.advances_refl, rfl⟩
  | cons name names ih =>
    rcases prepare_outcome tasks now t name h with
      ⟨query, a, hc, hf, hprepare⟩ | ⟨hnot, outcome, h₁, hprepare, hnone, hskipped⟩
    · obtain ⟨prepared, h₁, hrest, hskipped, hiff, hfound⟩ := ih (h.logged (.search query))
      refine ⟨_, h₁, Op.each_attempt_cons hprepare hrest, fun report hmem => ?_, ?_, fun hall => ?_⟩
      · exact hskipped report ((List.mem_cons.mp hmem).resolve_left (by rintro ⟨⟩))
      · rw [List.forall_mem_cons, hiff, finds_cons hc]
        exact and_congr_left fun _ => iff_of_true rfl hf
      · obtain ⟨hadv, hready⟩ := hfound ((finds_cons hc).mp hall).2
        have hfirst : readyOf (.ok (.ready name query a (t.find query h.issues))) =
            some (a, t.find query h.issues) := rfl
        rw [List.filterMap_cons_some (searchOf_eq_some_iff.mpr hc), List.filterMap_cons_some hfirst, hready]
        exact ⟨(h.advances_logged _).trans hadv, rfl⟩
    · obtain ⟨prepared, h₂, hrest, hothers, -, -⟩ := ih h₁
      have hfails : ¬Finds tasks now t h (name :: names) := by
        intro hall
        obtain ⟨query, a, hc⟩ := hall.compiled name List.mem_cons_self
        exact hnot query a hc ((finds_cons hc).mp hall).1
      refine ⟨_, h₂, Op.each_attempt_cons hprepare hrest, fun report hmem => ?_, ?_,
        fun hall => absurd hall hfails⟩
      · rcases List.mem_cons.mp hmem with heq | hmem
        · exact hskipped report heq.symm
        · exact hothers report hmem
      · refine iff_of_false (fun hall => ?_) hfails
        have hfirst := hall outcome List.mem_cons_self
        rw [hnone] at hfirst
        cases hfirst

end Preparing

/-- Everything in a sweep goes as it should: the tasks are in order, their searches find issues, and the
effects that are planned from these go through. -/
structure Flawless (c : Configuration) (now : Moment) (t : Tracker) (h : Host) : Prop where
  compiled : ∃ tasks, c.taskBlocks = .ok tasks ∧ ∀ name ∈ tasks.names, ∃ query a,
    compile tasks name t.scope now = .ok (some (query, a))
  searched : t.Serves h.log (searchCalls (searches c t.scope now))
  known : ∀ p ∈ searches c t.scope now, ∀ i ∈ t.find p.1 h.issues, p.2.plan i ≠ [] →
    t.Knows h i.number
  performed : t.Serves (h.log ++ searchCalls (searches c t.scope now))
    (dueCalls ((searches c t.scope now).flatMap fun p => planned (p.2, t.find p.1 h.issues)))

section Whole

variable {c : Configuration} {tasks : Blocks} {now : Moment} {t : Tracker} {h h₁ : Host}
  (hblocks : c.taskBlocks = .ok tasks)

include hblocks

lemma Flawless.finds (hall : Flawless c now t h) : Finds tasks now t h tasks.names := by
  obtain ⟨blocks, hok, hcompiled⟩ := hall.compiled
  obtain rfl : blocks = tasks := Except.ok.inj (hok.symm.trans hblocks)
  exact ⟨hcompiled, searches_eq hblocks t.scope ▸ hall.searched⟩

/-- After searches that do not fail, the effects are what can still go wrong. -/
lemma flawless_iff (hfinds : Finds tasks now t h tasks.names)
    (ha : h.Advances h₁ (searchCalls (searches c t.scope now)) id) :
    Flawless c now t h ↔ Performs t h₁
      ((searches c t.scope now).flatMap fun p => planned (p.2, t.find p.1 h.issues)) := by
  constructor
  · intro hall
    refine ⟨fun q hq hne => ?_, ?_⟩
    · obtain ⟨p, hp, hq⟩ := List.mem_flatMap.mp hq
      obtain ⟨i, hi, rfl⟩ := List.mem_map.mp hq
      exact (Tracker.knows_of_advances ha).mpr (hall.known p hp i hi hne)
    · rw [ha.log]
      exact hall.performed
  · intro hperforms
    refine ⟨⟨tasks, hblocks, hfinds.compiled⟩, ?_, fun p hp i hi hne => ?_, ?_⟩
    · rw [searches_eq hblocks]
      exact hfinds.served
    · refine (Tracker.knows_of_advances ha).mp (hperforms.known (i, p.2.plan i) ?_ hne)
      exact List.mem_flatMap.mpr ⟨p, hp, List.mem_map_of_mem hi⟩
    · rw [← ha.log]
      exact hperforms.served

end Whole

/-- A sweep returns clean reports only exactly when nothing in it goes wrong. -/
theorem runAll_clean_iff (c : Configuration) (now : Moment) (t : Tracker) (h : Host) :
    (∃ reports h', runAll c now t h = (.ok reports, h') ∧ ∀ report ∈ reports, report.IsClean) ↔
      Flawless c now t h := by
  cases hblocks : c.taskBlocks with
  | error e =>
    constructor
    · rintro ⟨_, _, hrun, _⟩
      rw [runAll, hblocks] at hrun
      cases hrun
    · rintro ⟨⟨_, hok, _⟩, _⟩
      rw [hblocks] at hok
      cases hok
  | ok tasks =>
    obtain ⟨prepared, h₁, heach, hskipped, hready, hfound⟩ := each_prepare_ready tasks now t tasks.names h
    have hclean := each_finishing_clean hskipped t h₁
    rw [hready, ← Op.exists_allOrFirst_iff] at hclean
    have hperforms (hfinds : Finds tasks now t h tasks.names) : Flawless c now t h ↔
        Performs t h₁ ((prepared.filterMap readyOf).flatMap planned) := by
      obtain ⟨ha, hlist⟩ := hfound hfinds
      rw [← searches_eq hblocks] at ha hlist
      rw [hlist, List.flatMap_map]
      exact flawless_iff hblocks hfinds ha
    rw [runAll_eq hblocks heach]
    constructor
    · rintro ⟨reports, h', hrun, hall⟩
      obtain ⟨hfinds, hdue⟩ := hclean.mp ⟨reports, (Prod.mk.inj hrun).1, hall⟩
      exact (hperforms hfinds).mpr hdue
    · intro hall
      have hfinds := hall.finds hblocks
      obtain ⟨reports, hok, hreports⟩ := hclean.mpr ⟨hfinds, (hperforms hfinds).mp hall⟩
      exact ⟨reports, _, congrArg (·, _) hok, hreports⟩

/-- Refuses every change without a word. -/
def silentTracker : Tracker :=
  { deskTracker with
    fails := fun log =>
      match log.getLast? with
      | some (.change _ _) => some (.unreachable "")
      | _ => none }

-- An issue that failed without a message is told of all the same.
example : (runAll clearThenWelcome presentDay silentTracker deskHost).1.toOption.map
    (·.map fun report => (report.error, report.failed)) =
      some [(none, [(1, "")]), (none, [(1, "")])] := by decide +kernel

end Sweep

end Triage
