import Mathlib
import Triage.Proofs.EntryKeys
import Triage.Proofs.GatheredOutcomes
import Triage.Proofs.RuleFaults
import Triage.Rule.Sweep

/-!
# What stops a sweep

A sweep gives one report for each task, in their order, whatever calls fail: a task that cannot be used
or whose search fails is reported as skipped. The exceptions are exactly the tasks whose durations,
dates or numbers are out of all bounds. A single one of them leaves the sweep without any report.
-/

namespace Triage

/-- Blocks have their names when all of these can be written out. -/
lemma Blocks.ofMapping_cases (m : Value.Mapping) :
    (∃ blocks, Blocks.ofMapping m = .ok blocks ∧ (∀ e ∈ m, e.1.numberFault? .standard = none) ∧
        blocks.names.Nodup) ∨
      ∃ e ∈ m, ∃ fault, e.1.numberFault? .standard = some fault ∧
        Blocks.ofMapping m = .error (.rejected (.badNumeral fault)) := by
  rcases Rule.writable_cases m with ⟨hw, hnone⟩ | ⟨e, he, fault, hf, hw⟩
  · refine .inl ⟨Entries.ofPairs (m.map fun e => (e.1.text, e.2)), ?_, hnone,
      Entries.nodup_keys_ofPairs _⟩
    rw [Blocks.ofMapping, hw]
    rfl
  · refine .inr ⟨e, he, fault, hf, ?_⟩
    rw [Blocks.ofMapping, hw]
    rfl

namespace Sweep

/-- A task that a sweep cannot pass over. -/
inductive Stops (now : Moment) (name : String) (raw : Value) : Prop where
  | unbounded : Rule.Unbounded raw → Stops now name raw
  | unwritable {rule : Rule} : Rule.parse name raw = .ok rule →
      Query.Unwritable now rule.predicates → Stops now name raw

/-- What becomes of a task: it has a query, or it is skipped, or it stops the sweep. -/
inductive Compiled (now : Moment) (name : String) (raw : Value) :
    Except Failure (Option (String × ActionSet)) → Prop where
  | ready {query : String} {actions : ActionSet} : ¬Stops now name raw →
      Compiled now name raw (.ok (some (query, actions)))
  | fault {fault : ConfigurationFault} : ¬Stops now name raw →
      Compiled now name raw (.error (.configuration fault))
  | stop {e : Failure} : Stops now name raw → (∀ fault, e ≠ .configuration fault) →
      Compiled now name raw (.error e)

variable {tasks : Blocks} {now : Moment} {name : String} {raw : Value} {t : Tracker}

theorem compiled_compile (hoff : now.offset = some 0) (hraw : Entries.get? name tasks = some raw)
    (repository : Repository) : Compiled now name raw (compile tasks name repository now) := by
  have hcompile : compile tasks name repository now =
      (Rule.parse name raw).bind fun rule =>
        (Query.compile rule.predicates repository now).map fun query => some (query, rule.actions) := by
    simp only [compile, Blocks.rule?, hraw]
    cases Rule.parse name raw <;> rfl
  have hparsed := Rule.parsed_parse name raw
  rw [hcompile]
  cases hparse : Rule.parse name raw with
  | error e =>
    rw [hparse] at hparsed
    have hnone : ¬∃ rule, Rule.parse name raw = .ok rule := by
      rw [hparse]
      rintro ⟨rule, ⟨⟩⟩
    cases hparsed with
    | fault hnot =>
      refine .fault ?_
      rintro (hu | ⟨hrule, -⟩)
      · exact hnot hu
      · exact hnone ⟨_, hrule⟩
    | unbounded hu hne => exact .stop (.unbounded hu) hne
  | ok rule =>
    rw [hparse] at hparsed
    cases hparsed with
    | rule hnot htimely =>
      rcases Query.compile_cases hoff htimely repository with ⟨hu, e, he, hne⟩ | ⟨hu, query, hq⟩
      · simp only [Except.bind, he]
        exact .stop (.unwritable hparse hu) hne
      · simp only [Except.bind, hq]
        refine .ready ?_
        rintro (hb | ⟨hrule, hw⟩)
        · exact hnot hb
        · rw [hparse] at hrule
          cases hrule
          exact hu hw

/-- One report for each task, in their order: a task that cannot be used and one whose search fails are
skipped, each with its own message, and every other task matches what its search found. Every search
follows those of the tasks before it, and sees the issues as they were before the sweep. -/
inductive Accounts (tasks : Blocks) (now : Moment) (t : Tracker) (issues : List Issue) :
    List Call → List String → List RunReport → Prop where
  | nil (log : List Call) : Accounts tasks now t issues log [] []
  | unusable {log : List Call} {name : String} {names : List String} {reports : List RunReport}
      {fault : ConfigurationFault} : compile tasks name t.scope now = .error (.configuration fault) →
      Accounts tasks now t issues log names reports →
      Accounts tasks now t issues log (name :: names)
        ({ name, error := some fault.message } :: reports)
  | unsearched {log : List Call} {name query : String} {actions : ActionSet} {names : List String}
      {reports : List RunReport} {fault : HostFault} :
      compile tasks name t.scope now = .ok (some (query, actions)) →
      t.fails (log ++ [.search query]) = some fault →
      Accounts tasks now t issues (log ++ [.search query]) names reports →
      Accounts tasks now t issues log (name :: names)
        ({ name, query := some query, error := some (fault.during (.search query)).message } :: reports)
  | run {log : List Call} {name query : String} {actions : ActionSet} {names : List String}
      {reports : List RunReport} {failed : List (Int × String)} :
      compile tasks name t.scope now = .ok (some (query, actions)) →
      t.fails (log ++ [.search query]) = none →
      (∀ entry ∈ failed, entry.1 ∈ (t.find query issues).map (·.number)) →
      Accounts tasks now t issues (log ++ [.search query]) names reports →
      Accounts tasks now t issues log (name :: names)
        ({ name, query := some query, matched := (t.find query issues).map (·.number), failed } ::
          reports)

lemma Accounts.names {issues : List Issue} {log : List Call} {names : List String}
    {reports : List RunReport} (h : Accounts tasks now t issues log names reports) :
    reports.map (·.name) = names := by
  induction h with
  | nil => rfl
  | unusable _ _ ih => rw [List.map_cons, ih]
  | unsearched _ _ _ ih => rw [List.map_cons, ih]
  | run _ _ _ _ ih => rw [List.map_cons, ih]

/-- The report of a prepared task, whatever becomes of its issues. -/
inductive Finished : Prepared → RunReport → Prop where
  | skipped (report : RunReport) : Finished (.skipped report) report
  | ready (name query : String) (actions : ActionSet) {issues : List Issue}
      {failed : List (Int × String)} : (∀ entry ∈ failed, entry.1 ∈ issues.map (·.number)) →
      Finished (.ready name query actions issues)
        { name, query := some query, matched := issues.map (·.number), failed }

lemma mem_failures (issues : List Issue) (outcomes : List (Except Failure Execution)) :
    ∀ entry ∈ failures issues outcomes, entry.1 ∈ issues.map (·.number) := by
  unfold failures
  refine List.foldlRecOn (motive := fun failed : List (Int × String) =>
    ∀ entry ∈ failed, entry.1 ∈ issues.map (·.number)) _ _ ?_ ?_
  · intro entry hentry
    exact absurd hentry List.not_mem_nil
  · intro failed hfailed p hp entry hentry
    cases houtcome : p.2 with
    | ok _ =>
      simp only [houtcome] at hentry
      exact hfailed entry hentry
    | error failure =>
      simp only [houtcome] at hentry
      rcases Entries.mem_put hentry with rfl | hentry
      · exact List.mem_map_of_mem (List.of_mem_zip hp).1
      · exact hfailed entry hentry

lemma finished_finish (p : Prepared) (h : Host) : Finished p (finish p t h).1 := by
  cases p with
  | skipped report => exact .skipped report
  | ready name query actions issues => exact .ready name query actions (mem_failures issues _)

lemma prepare_ready {query : String} {actions : ActionSet}
    (hc : compile tasks name t.scope now = .ok (some (query, actions))) (h : Host) :
    prepare tasks now name t h =
      (match t.fails (h.log ++ [.search query]) with
        | none => .ok (.ready name query actions (t.find query h.issues))
        | some fault => .ok (.skipped
            { name, query := some query, error := some (fault.during (.search query)).message }),
        h.logged (.search query)) := by
  refine (Op.bind_ok (x := Op.scope) rfl _).trans ?_
  rw [hc]
  dsimp only
  cases hf : t.fails (h.log ++ [.search query]) with
  | none =>
    have hsearch := Tracker.searchIssues_ok hf
    have hfound : (Op.ofStep (Tracker.searchIssues query).attempt : Op Failure _) t h =
        (.ok (.ok (t.find query h.issues)), h.logged (.search query)) := by
      rw [Op.ofStep, Op.attempt, hsearch]
    exact (Op.bind_ok hfound _).trans rfl
  | some fault =>
    have hsearch := Tracker.searchIssues_error hf
    have hfound : (Op.ofStep (Tracker.searchIssues query).attempt : Op Failure _) t h =
        (.ok (.error (fault.during (.search query))), h.logged (.search query)) := by
      rw [Op.ofStep, Op.attempt, hsearch]
    exact (Op.bind_ok hfound _).trans rfl

lemma prepare_fault {fault : ConfigurationFault}
    (hc : compile tasks name t.scope now = .error (.configuration fault)) (h : Host) :
    prepare tasks now name t h = (.ok (.skipped { name, error := some fault.message }), h) := by
  refine (Op.bind_ok (x := Op.scope) rfl _).trans ?_
  rw [hc]
  rfl

lemma prepare_missing (hc : compile tasks name t.scope now = .ok none) (h : Host) :
    prepare tasks now name t h = (.ok (.skipped { name, error := some notConfigured }), h) := by
  refine (Op.bind_ok (x := Op.scope) rfl _).trans ?_
  rw [hc]
  rfl

lemma prepare_stop {e : Failure} (hc : compile tasks name t.scope now = .error e)
    (he : ∀ fault, e ≠ .configuration fault) (h : Host) :
    prepare tasks now name t h = (.error e, h) := by
  refine (Op.bind_ok (x := Op.scope) rfl _).trans ?_
  rw [hc]
  cases e with
  | configuration fault => exact absurd rfl (he fault)
  | _ => rfl

/-- A task that a sweep gets past: it has a query, or a fault of the configuration. -/
inductive Passable (tasks : Blocks) (now : Moment) (scope : Repository) (name : String) : Prop where
  | ready {query : String} {actions : ActionSet} :
      compile tasks name scope now = .ok (some (query, actions)) → Passable tasks now scope name
  | fault {fault : ConfigurationFault} :
      compile tasks name scope now = .error (.configuration fault) → Passable tasks now scope name

lemma passable_of_not_stops (hoff : now.offset = some 0) (hraw : Entries.get? name tasks = some raw)
    (hnot : ¬Stops now name raw) (scope : Repository) : Passable tasks now scope name := by
  have hcompiled := compiled_compile hoff hraw scope
  generalize hc : compile tasks name scope now = result at hcompiled
  cases hcompiled with
  | ready _ => exact .ready hc
  | fault _ => exact .fault hc
  | stop hstop _ => exact absurd hstop hnot

lemma each_prepare {issues : List Issue} {names : List String}
    (hnames : ∀ name ∈ names, Passable tasks now t.scope name) {h : Host} (hissues : h.issues = issues) :
    ∃ prepared h', Step.each (fun n => (prepare tasks now n).attempt) names t h =
        (prepared.map .ok, h') ∧
      ∀ reports, List.Forall₂ Finished prepared reports →
        Accounts tasks now t issues h.log names reports := by
  induction names generalizing h with
  | nil =>
    refine ⟨[], h, rfl, fun reports hr => ?_⟩
    cases hr
    exact .nil h.log
  | cons name names ih =>
    have hothers := fun n hn => hnames n (List.mem_cons_of_mem name hn)
    cases hnames name List.mem_cons_self with
    | fault hc =>
      obtain ⟨prepared, h₂, hrest, hall⟩ := ih hothers hissues
      refine ⟨_ :: prepared, h₂, Op.each_attempt_cons (prepare_fault hc h) hrest, ?_⟩
      intro reports hr
      cases hr with
      | cons hfinished hr =>
        cases hfinished
        exact .unusable hc (hall _ hr)
    | @ready query actions hc =>
      have hready := prepare_ready hc h
      obtain ⟨prepared, h₂, hrest, hall⟩ := ih (h := h.logged (.search query)) hothers hissues
      cases hf : t.fails (h.log ++ [.search query]) with
      | none =>
        rw [hf, hissues] at hready
        refine ⟨_ :: prepared, h₂, Op.each_attempt_cons hready hrest, ?_⟩
        intro reports hr
        cases hr with
        | cons hfinished hr =>
          cases hfinished with
          | ready _ _ _ hfailed => exact .run hc hf hfailed (hall _ hr)
      | some fault =>
        rw [hf] at hready
        refine ⟨_ :: prepared, h₂, Op.each_attempt_cons hready hrest, ?_⟩
        intro reports hr
        cases hr with
        | cons hfinished hr =>
          cases hfinished
          exact .unsearched hc hf (hall _ hr)

/-- A configuration that a sweep cannot get through: the name of a task cannot be written out, or a task
stops the sweep. -/
inductive Halts (c : Configuration) (now : Moment) : Prop where
  | name {entry : Value × Value} {fault : NumeralFault} : entry ∈ c.tasks →
      entry.1.numberFault? .standard = some fault → Halts c now
  | task {tasks : Blocks} {name : String} {raw : Value} : c.taskBlocks = .ok tasks →
      Entries.get? name tasks = some raw → Stops now name raw → Halts c now

lemma taskBlocks_cases (c : Configuration) :
    (∃ tasks, c.taskBlocks = .ok tasks ∧ (∀ e ∈ c.tasks, e.1.numberFault? .standard = none) ∧
        tasks.names.Nodup) ∨
      ∃ e ∈ c.tasks, ∃ fault, e.1.numberFault? .standard = some fault ∧
        c.taskBlocks = .error (.rejected (.badNumeral fault)) :=
  Blocks.ofMapping_cases c.tasks

lemma not_halts_iff {c : Configuration} (hblocks : c.taskBlocks = .ok tasks)
    (hkeys : ∀ e ∈ c.tasks, e.1.numberFault? .standard = none) :
    ¬Halts c now ↔ ∀ name raw, Entries.get? name tasks = some raw → ¬Stops now name raw := by
  constructor
  · exact fun hnot name raw hraw hstop => hnot (.task hblocks hraw hstop)
  · rintro hall (⟨hentry, hfault⟩ | ⟨hblocks', hraw, hstop⟩)
    · rw [hkeys _ hentry] at hfault
      cases hfault
    · rw [hblocks] at hblocks'
      cases hblocks'
      exact hall _ _ hraw hstop

/-- The end of one task in a sweep. -/
def finishing (outcome : Except Failure Prepared) : Op Failure RunReport := do
  Op.ofStep (finish (← Op.ofExcept outcome))

/-- A sweep goes on from where the preparation of its tasks ends. -/
lemma runAll_eq {c : Configuration} (hblocks : c.taskBlocks = .ok tasks) {h h₁ : Host}
    {outcomes : List (Except Failure Prepared)}
    (heach : Step.each (fun name => (prepare tasks now name).attempt) tasks.names t h = (outcomes, h₁)) :
    runAll c now t h = Op.gather finishing outcomes t h₁ := by
  have htasks : (Op.ofExcept (.ok tasks) : Op Failure Blocks) t h = (.ok tasks, h) := rfl
  have hprepared : (Op.ofStep (Step.each (fun n => (prepare tasks now n).attempt) tasks.names) :
      Op Failure _) t h = (.ok outcomes, h₁) := by
    rw [Op.ofStep, heach]
  rw [runAll, hblocks, Op.bind_ok htasks, Op.bind_ok hprepared]
  rfl

/-- A sweep that gets past all its tasks returns a report for each. -/
lemma runAll_accounts {c : Configuration} (hblocks : c.taskBlocks = .ok tasks)
    (hnames : ∀ name ∈ tasks.names, Passable tasks now t.scope name) (h : Host) :
    ∃ reports h', runAll c now t h = (.ok reports, h') ∧
      Accounts tasks now t h.issues h.log tasks.names reports := by
  obtain ⟨prepared, h₁, heach, haccounts⟩ := each_prepare hnames (t := t) (h := h) rfl
  have hfinishing : ∀ outcome ∈ prepared.map (.ok : Prepared → Except Failure Prepared), ∀ h₀,
      ∃ report h', finishing outcome t h₀ = (.ok report, h') ∧
        ∃ p, outcome = .ok p ∧ Finished p report := by
    intro outcome houtcome h₀
    obtain ⟨p, -, rfl⟩ := List.mem_map.mp houtcome
    exact ⟨_, _, Op.bind_ok (x := Op.ofExcept (.ok p)) rfl _, p, rfl, finished_finish p h₀⟩
  obtain ⟨reports, h₂, hgather, hreports⟩ := Op.gather_ok hfinishing h₁
  refine ⟨reports, h₂, (runAll_eq hblocks heach).trans hgather, haccounts reports ?_⟩
  refine (List.forall₂_map_left_iff.mp hreports).imp ?_
  rintro p report ⟨p', hp, hfinished⟩
  cases hp
  exact hfinished

lemma runAll_ok (hoff : now.offset = some 0) {c : Configuration} (hblocks : c.taskBlocks = .ok tasks)
    (hall : ∀ name raw, Entries.get? name tasks = some raw → ¬Stops now name raw) (h : Host) :
    ∃ reports h', runAll c now t h = (.ok reports, h') ∧
      Accounts tasks now t h.issues h.log tasks.names reports := by
  refine runAll_accounts hblocks (fun name hname => ?_) h
  obtain ⟨raw, hraw⟩ := Entries.get?_of_mem_keys hname
  exact passable_of_not_stops hoff hraw (hall name raw hraw) t.scope

lemma runAll_error (hoff : now.offset = some 0) {c : Configuration}
    (hblocks : c.taskBlocks = .ok tasks) (hraw : Entries.get? name tasks = some raw)
    (hstop : Stops now name raw) (h : Host) : ∃ e, (runAll c now t h).1 = .error e := by
  have hcompiled := compiled_compile hoff hraw t.scope
  obtain ⟨e, hc, he⟩ : ∃ e, compile tasks name t.scope now = .error e ∧
      ∀ fault, e ≠ .configuration fault := by
    generalize compile tasks name t.scope now = result at hcompiled
    cases hcompiled with
    | ready hnot => exact absurd hstop hnot
    | fault hnot => exact absurd hstop hnot
    | stop _ he => exact ⟨_, rfl, he⟩
  have hmem := Entries.mem_keys_of_get? hraw
  obtain ⟨e', he'⟩ := Op.each_attempt_error hmem
    (fun h₀ => ⟨e, h₀, prepare_stop hc he h₀⟩) h
  obtain ⟨e'', he''⟩ := Op.gather_error he' (f := finishing)
    (fun h₀ => ⟨e', h₀, Op.bind_error (x := Op.ofExcept (.error e')) rfl _⟩)
    (Step.each (fun n => (prepare tasks now n).attempt) tasks.names t h).2
  exact ⟨e'', (congrArg Prod.fst (runAll_eq hblocks rfl)).trans he''⟩

/-- What a sweep does in the clock of UTC. Unless the configuration halts it, it returns one report for
each task; otherwise it fails, whatever the other tasks are. -/
theorem runAll_exact (c : Configuration) (now : Moment) (t : Tracker) (h : Host)
    (hoff : now.offset = some 0) :
    (¬Halts c now → ∃ tasks reports h', c.taskBlocks = .ok tasks ∧ tasks.names.Nodup ∧
      runAll c now t h = (.ok reports, h') ∧ reports.map (·.name) = tasks.names ∧
      Accounts tasks now t h.issues h.log tasks.names reports) ∧
    (Halts c now → ∃ e, (runAll c now t h).1 = .error e) := by
  rcases taskBlocks_cases c with
    ⟨tasks, hblocks, hkeys, hnodup⟩ | ⟨entry, hentry, fault, hfault, hblocks⟩
  · refine ⟨fun hnot => ?_, fun hhalts => ?_⟩
    · obtain ⟨reports, h', hrun, haccounts⟩ :=
        runAll_ok (t := t) hoff hblocks ((not_halts_iff hblocks hkeys).mp hnot) h
      exact ⟨tasks, reports, h', hblocks, hnodup, hrun, haccounts.names, haccounts⟩
    · cases hhalts with
      | name hentry hfault =>
        rw [hkeys _ hentry] at hfault
        cases hfault
      | task hblocks' hraw hstop => exact runAll_error hoff hblocks' hraw hstop h
  · refine ⟨fun hnot => absurd (.name hentry hfault) hnot, fun _ => ?_⟩
    refine ⟨.rejected (.badNumeral fault), ?_⟩
    rw [runAll, hblocks]
    rfl

/-- A date in the year 2024. -/
def presentDay : Moment := ⟨63846100800000000, some 0, by decide⟩

def deskTracker : Tracker where
  scope := ⟨"acme", "desk"⟩
  home := "acme/desk"
  find _ issues := issues

def deskHost : Host where
  records := [{ issue := { number := 1, state := "open" } }]

/-- A task that is no mapping before one that is in order. -/
def patchyTasks : Configuration where
  tasks := [
    (.str (.ofString "broken"), .bool true),
    (.str (.ofString "fresh"), .map [(.str (.ofString "if_state"), .str (.ofString "open"))])]

theorem runAll_exact_of_patchyTasks :
    presentDay.offset = some 0 ∧ ∃ tasks reports h', patchyTasks.taskBlocks = .ok tasks ∧
      tasks.names.Nodup ∧ runAll patchyTasks presentDay deskTracker deskHost = (.ok reports, h') ∧
      reports.map (·.name) = tasks.names ∧
      Accounts tasks presentDay deskTracker deskHost.issues deskHost.log tasks.names reports := by
  refine ⟨rfl, (runAll_exact patchyTasks presentDay deskTracker deskHost rfl).1 ?_⟩
  have hblocks : patchyTasks.taskBlocks = .ok [("broken", .bool true),
      ("fresh", .map [(.str (.ofString "if_state"), .str (.ofString "open"))])] := rfl
  rw [not_halts_iff hblocks (by simp [patchyTasks, Value.numberFault?])]
  intro name raw hraw hstop
  by_cases hbroken : "broken" = name
  · rw [Entries.get?, if_pos hbroken] at hraw
    cases hraw
    rcases hstop with ⟨⟨⟩⟩ | ⟨hparse, -⟩
    cases hparse
  rw [Entries.get?, if_neg hbroken] at hraw
  by_cases hfresh : "fresh" = name
  · rw [Entries.get?, if_pos hfresh] at hraw
    cases hraw
    rcases hstop with hstop | ⟨hparse, hunwritable⟩
    · cases hstop with
      | key hmem hfault =>
        rw [List.mem_singleton] at hmem
        subst hmem
        cases hfault
      | duration _ _ hkey hentry _ =>
        rcases List.mem_pair.mp hkey with rfl | rfl <;> cases hentry
    · cases hparse
      rcases hunwritable with ⟨_, _, htext, -⟩ | ⟨_, _, htext, -⟩ | hmany
      · cases htext
      · cases htext
      · cases hmany
  · rw [Entries.get?, if_neg hfresh] at hraw
    cases hraw

/-- The one task looks for issues from before the calendar, the other is in order. -/
def ancientText : String :=
  "scheduled_tasks:\n  ancient:\n    if_updated: 3000 years\n  fresh:\n    if_state: open\n"

theorem runAll_ancientText : ∃ c, Configuration.load (some ancientText) = .ok c ∧
    ∃ e, (runAll c presentDay deskTracker deskHost).1 = .error e := by
  have hfails : (Configuration.load (some ancientText)).toOption.map (fun c =>
      (runAll c presentDay deskTracker deskHost).1.toOption.isNone) = some true := by decide +kernel
  cases hload : Configuration.load (some ancientText) with
  | error e =>
    rw [hload] at hfails
    cases hfails
  | ok c =>
    rw [hload] at hfails
    refine ⟨c, rfl, ?_⟩
    cases hrun : (runAll c presentDay deskTracker deskHost).1 with
    | error e => exact ⟨e, rfl⟩
    | ok reports =>
      simp only [Except.toOption, Option.map_some, hrun] at hfails
      cases hfails

end Sweep

end Triage
