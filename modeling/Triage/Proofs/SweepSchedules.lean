import Mathlib
import Triage.Proofs.ScheduleCourses
import Triage.Proofs.SweepIsolation

/-!
# Labels under every schedule of a sweep

A sweep as the program does it is one schedule: all searches first, and then the executions, task after
task. Whatever the schedule is, a label that an issue carries from the beginning stays when no matching
task removes it, and one that a task attaches stays unless an overwrite from a snapshot without it comes
later.
-/

namespace Triage

open ActionSet (given)

namespace Sweep

section Run

variable {t : Tracker} {h h₁ h₂ : Host} {n : Int} {r : Record}

/-- A step of the only strand there is. -/
lemma Schedule.alone {s : Strand} {next : List Strand} {moves trace : List Move}
    (hstep : s.advance t h = ((moves, next), h₁)) (hrest : Schedule t next h₁ trace h₂) :
    Schedule t [s] h (moves ++ trace) h₂ :=
  @step t [] [] next s h h₁ h₂ moves trace hstep (by simpa using hrest)

lemma Schedule.append {strands more : List Strand} {trace rest : List Move}
    (hfirst : Schedule t strands h trace h₁) (hrest : Schedule t more h₁ rest h₂) :
    Schedule t (strands ++ more) h (trace ++ rest) h₂ := by
  induction hfirst with
  | done h => exact hrest
  | step hstep _ ih =>
    have hnext := ih hrest
    rw [List.append_assoc] at hnext
    rw [List.append_assoc, List.append_assoc, List.cons_append]
    exact .step hstep hnext

/-- The executions of an action set on the issues that its search found. -/
def executeAll (t : Tracker) (h : Host) (p : ActionSet × List Issue) : Host :=
  (Step.each (fun i => (p.1.execute i).attempt) p.2 t h).2

/-- The strands of the executions that are due when the searches are over. -/
def plans (ready : List (ActionSet × List Issue)) : List Strand :=
  ready.flatMap fun p => p.2.map fun i => .effects i (p.1.plan i)

lemma schedule_effects (i : Issue) (effects : List Effect) (h : Host) :
    ∃ trace, Schedule t [.effects i effects] h trace (Effect.performAll i.number effects t h).2 := by
  induction effects generalizing h with
  | nil => exact ⟨_, .alone rfl (.done h)⟩
  | cons e effects ih =>
    rcases hperform : e.perform i.number t h with ⟨outcome, h₁⟩
    have hstep := advance_effects effects hperform
    cases outcome with
    | ok _ =>
      obtain ⟨trace, hrest⟩ := ih h₁
      have hall : Effect.performAll i.number (e :: effects) t h = _ := Op.bind_ok hperform _
      rw [hall]
      exact ⟨_, .alone hstep hrest⟩
    | error _ =>
      have hall : Effect.performAll i.number (e :: effects) t h = _ := Op.bind_error hperform _
      rw [hall]
      exact ⟨_, .alone hstep (.done h₁)⟩

lemma schedule_execute (a : ActionSet) (i : Issue) (h : Host) :
    ∃ trace, Schedule t [.effects i (a.plan i)] h trace (a.execute i t h).2 := by
  have hhost : (a.execute i t h).2 = (Effect.performAll i.number (a.plan i) t h).2 := by
    rcases hall : Effect.performAll i.number (a.plan i) t h with ⟨outcome, h₁⟩
    cases outcome with
    | ok _ => exact congrArg Prod.snd (Op.bind_ok hall _)
    | error _ => exact congrArg Prod.snd (Op.bind_error hall _)
  rw [hhost]
  exact schedule_effects i (a.plan i) h

lemma schedule_executeAll (p : ActionSet × List Issue) (h : Host) :
    ∃ trace, Schedule t (plans [p]) h trace (executeAll t h p) := by
  obtain ⟨a, issues⟩ := p
  rw [plans, List.flatMap_singleton]
  induction issues generalizing h with
  | nil => exact ⟨[], .done h⟩
  | cons i issues ih =>
    obtain ⟨trace, hfirst⟩ := schedule_execute a i h
    obtain ⟨rest, hrest⟩ := ih (a.execute i t h).2
    exact ⟨_, hfirst.append hrest⟩

/-- The executions one after another are one of their schedules. -/
theorem schedule_foldl (ready : List (ActionSet × List Issue)) (h : Host) :
    ∃ trace, Schedule t (plans ready) h trace (ready.foldl (executeAll t) h) := by
  induction ready generalizing h with
  | nil => exact ⟨[], .done h⟩
  | cons p ready ih =>
    obtain ⟨trace, hfirst⟩ := schedule_executeAll p h
    obtain ⟨rest, hrest⟩ := ih (executeAll t h p)
    have hboth := hfirst.append hrest
    rw [plans, plans, ← List.flatMap_append] at hboth
    exact ⟨_, hboth⟩

section Prepare

variable {tasks : Blocks} {now : Moment} (ht : ∀ log, t.fails log = none)

/-- What a task's preparation leaves to be executed. -/
def readyOf : Except Failure Prepared → Option (ActionSet × List Issue)
  | .ok (.ready _ _ actions issues) => some (actions, issues)
  | _ => none

/-- The search that a task gets as far as. -/
def searchOf (tasks : Blocks) (now : Moment) (scope : Repository) (name : String) :
    Option (String × ActionSet) :=
  (compile tasks name scope now).toOption.join

lemma searchOf_eq_some_iff {scope : Repository} {name : String} {p : String × ActionSet} :
    searchOf tasks now scope name = some p ↔ compile tasks name scope now = .ok (some p) := by
  unfold searchOf
  rcases compile tasks name scope now with e | - | q <;> simp [Except.toOption]

lemma searches_eq {c : Configuration} (hblocks : c.taskBlocks = .ok tasks) (scope : Repository) :
    searches c scope now = tasks.names.filterMap (searchOf tasks now scope) := by
  rw [searches, hblocks]
  rfl

include ht

/-- A task that is prepared has made its search, or has made no call at all. -/
lemma prepare_cases (name : String) (h : Host) :
    (∃ query a outcome, searchOf tasks now t.scope name = some (query, a) ∧
      prepare tasks now name t h = (outcome, h.logged (.search query)) ∧
      readyOf outcome = some (a, t.find query h.issues)) ∨
    ∃ outcome, searchOf tasks now t.scope name = none ∧
      prepare tasks now name t h = (outcome, h) ∧ readyOf outcome = none := by
  unfold searchOf
  cases hc : compile tasks name t.scope now with
  | error e =>
    refine .inr ?_
    by_cases he : ∃ fault, e = .configuration fault
    · obtain ⟨fault, rfl⟩ := he
      exact ⟨_, rfl, prepare_fault hc h, rfl⟩
    · exact ⟨_, rfl, prepare_stop hc (fun fault heq => he ⟨fault, heq⟩) h, rfl⟩
  | ok compiled =>
    cases compiled with
    | none => exact .inr ⟨_, rfl, prepare_missing hc h, rfl⟩
    | some p =>
      have hready := prepare_ready hc h
      rw [ht] at hready
      exact .inl ⟨p.1, p.2, _, rfl, hready, rfl⟩

variable (tasks now) in
/-- Preparing tasks leaves the issues as they are and is the beginning of a schedule. -/
lemma each_prepare_schedule (names : List String) (h : Host) :
    ∃ outcomes h₁, Step.each (fun name => (prepare tasks now name).attempt) names t h = (outcomes, h₁) ∧
      h₁.records = h.records ∧
      outcomes.filterMap readyOf = (names.filterMap (searchOf tasks now t.scope)).map
        (fun p => (p.2, t.find p.1 h.issues)) ∧
      ∀ before trace h₂,
        Schedule t (before ++ plans (outcomes.filterMap readyOf)) h₁ trace h₂ →
        Schedule t (before ++ (names.filterMap (searchOf tasks now t.scope)).map
            fun p => .search p.1 p.2) h
          ((outcomes.filterMap readyOf).map (fun p => .found p.1 p.2) ++ trace) h₂ := by
  induction names generalizing h with
  | nil => exact ⟨[], h, rfl, rfl, rfl, fun _ _ _ hsched => hsched⟩
  | cons name names ih =>
    rcases prepare_cases ht name h with ⟨query, a, outcome, hsearch, hprepare, hready⟩ |
      ⟨outcome, hsearch, hprepare, hready⟩
    · obtain ⟨outcomes, h₁, heach, hrecords, hfound, hsched⟩ := ih (h.logged (.search query))
      refine ⟨_, h₁, Op.each_attempt_cons hprepare heach, hrecords, ?_, fun before trace h₂ hrest => ?_⟩
      · rw [List.filterMap_cons_some hready, List.filterMap_cons_some hsearch, List.map_cons, hfound]
        rfl
      · rw [List.filterMap_cons_some hready] at hrest ⊢
        rw [List.filterMap_cons_some hsearch]
        have hnext := hsched (before ++ plans [(a, t.find query h.issues)]) trace h₂ (by
          rw [List.append_assoc, plans, plans, ← List.flatMap_append]
          exact hrest)
        rw [plans, List.flatMap_singleton] at hnext
        have hstep := Schedule.step (advance_search ht query a) hnext
        exact hstep
    · obtain ⟨outcomes, h₁, heach, hrecords, hfound, hsched⟩ := ih h
      refine ⟨_, h₁, Op.each_attempt_cons hprepare heach, hrecords, ?_, ?_⟩
      · rw [List.filterMap_cons_none hready, List.filterMap_cons_none hsearch, hfound]
      · rw [List.filterMap_cons_none hready, List.filterMap_cons_none hsearch]
        exact hsched

omit ht in
lemma each_finishing (outcomes : List (Except Failure Prepared)) (h : Host) :
    (Step.each (fun outcome => (finishing outcome).attempt) outcomes t h).2 =
      (outcomes.filterMap readyOf).foldl (executeAll t) h := by
  induction outcomes generalizing h with
  | nil => rfl
  | cons outcome outcomes ih =>
    match outcome with
    | .error e => exact ih h
    | .ok (.skipped report) => exact ih h
    | .ok (.ready name query a issues) => exact ih (executeAll t h (a, issues))

omit ht in
lemma runAll_host {c : Configuration} (hblocks : c.taskBlocks = .ok tasks)
    {outcomes : List (Except Failure Prepared)}
    (heach : Step.each (fun name => (prepare tasks now name).attempt) tasks.names t h = (outcomes, h₁)) :
    (runAll c now t h).2 = (outcomes.filterMap readyOf).foldl (executeAll t) h₁ := by
  rw [runAll_eq hblocks heach]
  exact each_finishing outcomes h₁

variable (now) in
/-- A sweep is a schedule: all searches first, and then the executions, task after task. -/
theorem runAll_schedule (c : Configuration) (h : Host) :
    ∃ ready h₁, ready = (searches c t.scope now).map (fun p => (p.2, t.find p.1 h.issues)) ∧
      h₁.records = h.records ∧ (runAll c now t h).2 = ready.foldl (executeAll t) h₁ ∧
      ∀ trace h₂, Schedule t (plans ready) h₁ trace h₂ →
        Schedule t (strands c t.scope now) h (ready.map (fun p => .found p.1 p.2) ++ trace) h₂ := by
  cases hblocks : c.taskBlocks with
  | error e =>
    refine ⟨[], h, ?_, rfl, ?_, ?_⟩
    · rw [searches, hblocks]
      rfl
    · rw [runAll, hblocks]
      rfl
    · rw [strands, searches, hblocks]
      exact fun _ _ hsched => hsched
  | ok tasks =>
    obtain ⟨outcomes, h₁, heach, hrecords, hfound, hsched⟩ :=
      each_prepare_schedule tasks now ht tasks.names h
    refine ⟨outcomes.filterMap readyOf, h₁, ?_, hrecords, runAll_host hblocks heach,
      fun trace h₂ hrest => ?_⟩
    · rw [hfound, searches_eq hblocks]
    · rw [strands, searches_eq hblocks]
      exact hsched [] trace h₂ hrest

end Prepare

section Outcome

variable (hs : t.scope.fullName = t.home) (ht : ∀ log, t.fails log = none) {seen : Record}

lemma settle_again (a : ActionSet) (s d : Disposition) :
    a.settle s (a.settle s d) = a.settle s d := by
  ext1
  case labels =>
    change a.relabel s.labels (a.relabel s.labels d.labels) = a.relabel s.labels d.labels
    unfold ActionSet.relabel
    cases given a.replaceLabels with
    | some _ => rfl
    | none =>
      cases given a.removeLabels with
      | some _ => rfl
      | none =>
        dsimp only
        rw [Finset.union_assoc, Finset.union_self]
  case assignees => exact ActionSet.sdiff_union_again _ _ _
  case state =>
    change a.setState.elim (a.setState.elim d.state _) _ = a.setState.elim d.state _
    cases a.setState <;> rfl
  case lock =>
    change a.setLocked.elim (a.setLocked.elim d.lock _) _ = a.setLocked.elim d.lock _
    cases a.setLocked <;> rfl

include hs ht

lemma executeAll_disposition (hseen : seen.number = n) (p : ActionSet × List Issue)
    (hissues : ∀ i ∈ p.2, i.number = n → i = seen.issue) (hr : h.record? n = some r) :
    ∃ r', (executeAll t h p).record? n = some r' ∧ r'.disposition =
      if n ∈ p.2.map (·.number) then p.1.settle seen.disposition r.disposition else r.disposition := by
  obtain ⟨a, issues⟩ := p
  unfold executeAll
  induction issues generalizing h r with
  | nil => exact ⟨r, hr, (if_neg List.not_mem_nil).symm⟩
  | cons i issues ih =>
    rw [List.forall_mem_cons] at hissues
    rcases hfirst : a.execute i t h with ⟨outcome, hmid⟩
    rcases hrest : Step.each (fun i => (a.execute i).attempt) issues t hmid with ⟨outcomes, h₁⟩
    rw [Op.each_attempt_cons hfirst hrest]
    by_cases hn : i.number = n
    · obtain rfl := hissues.1 hn
      obtain ⟨h', _, hexecute, -, hd⟩ := ActionSet.execute_ok hs ht hr a hseen
      rw [hfirst] at hexecute
      obtain ⟨-, rfl⟩ := Prod.mk.inj hexecute
      obtain ⟨r₁, hr₁, hd₁⟩ := Option.map_eq_some_iff.mp hd
      obtain ⟨r', hr', hd'⟩ := ih hr₁ hissues.2
      rw [hrest] at hr'
      refine ⟨r', hr', hd'.trans ?_⟩
      rw [hd₁, settle_again, ite_self, if_pos (by rw [List.map_cons, hn]; exact List.mem_cons_self)]
    · have hframe := (a.isLocal_execute i).frame (Ne.symm hn) t h
      rw [hfirst] at hframe
      obtain ⟨r', hr', hd'⟩ := ih (hframe.record.symm.trans hr) hissues.2
      rw [hrest] at hr'
      refine ⟨r', hr', hd'.trans ?_⟩
      simp only [List.map_cons, List.mem_cons, Ne.symm hn, false_or]

lemma foldl_disposition (hseen : seen.number = n) (ready : List (ActionSet × List Issue))
    (hissues : ∀ p ∈ ready, ∀ i ∈ p.2, i.number = n → i = seen.issue) (hr : h.record? n = some r) :
    ∃ r', (ready.foldl (executeAll t) h).record? n = some r' ∧
      r'.disposition = settleAll (fun _ => seen.disposition)
        ((ready.filter fun p => n ∈ p.2.map (·.number)).map (·.1)) r.disposition := by
  induction ready generalizing h r with
  | nil => exact ⟨r, hr, rfl⟩
  | cons p ready ih =>
    rw [List.forall_mem_cons] at hissues
    obtain ⟨r₁, hr₁, hd₁⟩ := executeAll_disposition hs ht hseen p hissues.1 hr
    obtain ⟨r', hr', hd'⟩ := ih hissues.2 hr₁
    refine ⟨r', hr', hd'.trans ?_⟩
    rw [hd₁]
    by_cases hn : n ∈ p.2.map (·.number)
    · rw [if_pos hn, List.filter_cons_of_pos (by simpa using hn)]
      rfl
    · rw [if_neg hn, List.filter_cons_of_neg (by simpa using hn)]

/-- Nothing is found once the searches are over. -/
lemma matched_iff (hfind : ∀ query issues, t.find query issues ⊆ issues)
    {ready : List (ActionSet × List Issue)} {trace : List Move} (hr : h.record? n = some r)
    (hplans : Schedule t (plans ready) h trace h₁) (a : ActionSet) :
    Matched n a (ready.map (fun p => .found p.1 p.2) ++ trace) ↔
      a ∈ (ready.filter fun p => n ∈ p.2.map (·.number)).map (·.1) := by
  obtain ⟨r', -, hcourse⟩ := hplans.course hs ht hfind hr
  have hnone (issues : List Issue) : .found a issues ∉ trace := by
    intro hmem
    obtain ⟨query, hsearch⟩ := hcourse.found_mem hmem
    obtain ⟨p, -, hp⟩ := List.mem_flatMap.mp hsearch
    obtain ⟨i, -, ⟨⟩⟩ := List.mem_map.mp hp
  simp [Matched, hnone]

end Outcome

end Run

lemma mem_labelNames {r : Record} {l : String} : l ∈ r.issue.labelNames ↔ l ∈ r.disposition.labels :=
  List.mem_toFinset.symm

/-- The labels of an issue after a sweep without failed calls, when no matching task replaces them. In
every order of the searches and effects, those that no matching task takes off stay, and a new one is
there when a move gives it for good, as when each task that removes labels attaches it too. In the order
of the sweep itself it is there when no task that overwrites the labels follows the last one that
attaches it. -/
theorem runAll_labels (c : Configuration) (now : Moment) (t : Tracker) (h : Host) (n : Int) (r : Record)
    (hs : t.scope.fullName = t.home) (ht : ∀ log, t.fails log = none)
    (hfind : ∀ query issues, t.find query issues ⊆ issues) (hr : h.record? n = some r) :
    (∀ trace h', Schedule t (strands c t.scope now) h trace h' →
      (∀ a, Matched n a trace → given a.replaceLabels = none) →
      ∃ r', h'.record? n = some r' ∧ ∀ l,
        ((∀ a, Matched n a trace → l ∉ a.removeLabels.getD []) →
          (l ∈ r.issue.labelNames → l ∈ r'.issue.labelNames) ∧
          (l ∉ r.issue.labelNames → (l ∈ r'.issue.labelNames ↔ Prevails n l trace))) ∧
        ((∃ a, Matched n a trace ∧ l ∈ a.addLabels.getD []) →
          (∀ a, Matched n a trace → given a.removeLabels ≠ none → l ∈ a.addLabels.getD []) →
          l ∈ r'.issue.labelNames)) ∧
    ∃ trace r', Schedule t (strands c t.scope now) h trace (runAll c now t h).2 ∧
      (∀ a, Matched n a trace ↔ a ∈ matching c now t h n) ∧
      (runAll c now t h).2.record? n = some r' ∧
      ((∀ a ∈ matching c now t h n, given a.replaceLabels = none) → ∀ l, l ∉ r.issue.labelNames →
        (l ∈ r'.issue.labelNames ↔ ∃ front a rest, matching c now t h n = front ++ a :: rest ∧
          l ∈ a.addLabels.getD [] ∧ ∀ b ∈ rest, ¬b.Overwrites)) := by
  have hstrands {P : Issue → List Effect → Prop} :
      ∀ s ∈ strands c t.scope now, s.Holds n P := by
    intro s hs
    obtain ⟨p, -, rfl⟩ := List.mem_map.mp hs
    trivial
  refine ⟨fun trace h' hsched hreplace => ?_, ?_⟩
  · obtain ⟨r', hr', hcourse⟩ := hsched.course hs ht hfind hr
    refine ⟨r', hr', fun l => ⟨fun hremove => ?_, fun ⟨a, ha, hl⟩ hadds => ?_⟩⟩
    · have hmatched a (ha : Matched n a trace) := And.intro (hreplace a ha) (hremove a ha)
      rw [mem_labelNames, mem_labelNames]
      refine ⟨hcourse.carried hstrands hmatched, fun hl => ?_⟩
      rw [hcourse.disposition, mem_labels_foldl trace (hcourse.mirrors hstrands hmatched)]
      exact or_iff_left fun hkept => hl hkept.2
    · exact mem_labelNames.mpr
        (hcourse.restored hstrands (fun b hb => ⟨hreplace b hb, hadds b hb⟩) (.matched ha hl))
  · obtain ⟨ready, h₁, hready, hrecords, hhost, hsearches⟩ := runAll_schedule now ht c h
    have hr₁ : h₁.record? n = some r := by rwa [Host.record?, hrecords]
    have hmatching : (ready.filter fun p => n ∈ p.2.map (·.number)).map (·.1) =
        matching c now t h n := by
      rw [hready, List.filter_map, List.map_map]
      rfl
    have hseen : ∀ p ∈ ready, ∀ i ∈ p.2, i.number = n → i = r.issue := by
      intro p hp i hi hn
      rw [hready] at hp
      obtain ⟨p, -, rfl⟩ := List.mem_map.mp hp
      obtain ⟨s, hmem, rfl⟩ := List.mem_map.mp (hfind _ _ hi)
      exact congrArg Record.issue
        (Option.some.inj ((Host.record?_eq_some_iff.mpr ⟨hmem, hn⟩).symm.trans hr))
    obtain ⟨trace, hplans⟩ := schedule_foldl (t := t) ready h₁
    obtain ⟨r', hr', hd⟩ :=
      foldl_disposition hs ht (Host.record?_eq_some_iff.mp hr).2 ready hseen hr₁
    rw [← hhost] at hplans hr'
    refine ⟨_, r', hsearches trace _ hplans, fun a => ?_, hr', fun hreplace l hl => ?_⟩
    · rw [← hmatching]
      exact matched_iff hs ht hfind hr₁ hplans a
    · rw [mem_labelNames] at hl ⊢
      rw [hd, hmatching]
      exact mem_labels_settleAll hl hreplace

/-- A task of open issues that takes a label off or attaches one. -/
def labelTask (name key label : String) : Value × Value :=
  (.str (.ofString name), .map [
    (.str (.ofString "if_state"), .str (.ofString "open")),
    (.str (.ofString key), .str (.ofString label))])

def clearThenWelcome : Configuration where
  tasks := [labelTask "clear" "remove_labels" "stale", labelTask "welcome" "add_labels" "new"]

def welcomeThenClear : Configuration where
  tasks := [labelTask "welcome" "add_labels" "new", labelTask "clear" "remove_labels" "stale"]

def keptRecord : Record where
  issue := { number := 1, state := "open", labels := [.named "stale", .named "kept"] }

def keptHost : Host where
  records := [keptRecord]

theorem runAll_labels_clearThenWelcome :
    deskTracker.scope.fullName = deskTracker.home ∧ (∀ log, deskTracker.fails log = none) ∧
      (∀ query issues, deskTracker.find query issues ⊆ issues) ∧
      keptHost.record? 1 = some keptRecord ∧
      ∃ r', (runAll clearThenWelcome presentDay deskTracker keptHost).2.record? 1 = some r' ∧
        "kept" ∈ r'.issue.labelNames ∧ "new" ∈ r'.issue.labelNames := by
  have hfind : ∀ query issues, deskTracker.find query issues ⊆ issues := fun _ _ => List.Subset.refl _
  obtain ⟨hevery, trace, r', hsched, hmatched, hr', hnew⟩ := runAll_labels clearThenWelcome presentDay
    deskTracker keptHost 1 keptRecord rfl (fun _ => rfl) hfind rfl
  have hmatching : matching clearThenWelcome presentDay deskTracker keptHost 1 =
      [{ removeLabels := some ["stale"] }, { addLabels := some ["new"] }] := by decide +kernel
  rw [hmatching] at hmatched hnew
  have hspared : ∀ a ∈ [({ removeLabels := some ["stale"] } : ActionSet), { addLabels := some ["new"] }],
      given a.replaceLabels = none ∧ "kept" ∉ a.removeLabels.getD [] := by decide
  obtain ⟨r'', hr'', hlabels⟩ :=
    hevery trace _ hsched fun a ha => (hspared a ((hmatched a).mp ha)).1
  obtain rfl : r'' = r' := Option.some.inj (hr''.symm.trans hr')
  refine ⟨rfl, fun _ => rfl, hfind, rfl, r'', hr', ?_, ?_⟩
  · exact ((hlabels "kept").1 fun a ha => (hspared a ((hmatched a).mp ha)).2).1 (by decide)
  · refine (hnew (fun a ha => (hspared a ha).1) "new" (by decide)).mpr ?_
    exact ⟨[_], _, [], rfl, by decide, by simp⟩

/-- The other way round the new label is overwritten, although no task takes it off. -/
theorem runAll_labels_welcomeThenClear :
    (∀ a ∈ matching welcomeThenClear presentDay deskTracker keptHost 1,
        given a.replaceLabels = none ∧ "new" ∉ a.removeLabels.getD []) ∧
      (∃ a ∈ matching welcomeThenClear presentDay deskTracker keptHost 1,
        "new" ∈ a.addLabels.getD []) ∧
      ((runAll welcomeThenClear presentDay deskTracker keptHost).2.record? 1).map
        (·.issue.labelNames) = some ["kept"] := by
  decide +kernel

end Sweep

end Triage
