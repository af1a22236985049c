import Mathlib
import Triage.Proofs.PartialEffects
import Triage.Proofs.TaskDecomposition

/-!
# What a check of a task tells about a run of it

A check and a run of one task read the same block of the configuration and make the same query. They put
it into one class: it cannot be used, it is not there, its search fails, or its issues are found. A check
that comes to a result tells what a run from the same host would report before it touches any issue, and
nothing but its searches is left of the check.
-/

namespace Triage

/-- The text begins with another letter than the one of an absent task. -/
def BeginsApart (s : String) : Prop := s.toList.head?.any (· ≠ 'N') = true

instance (s : String) : Decidable (BeginsApart s) := inferInstanceAs (Decidable (_ = true))

lemma BeginsApart.append {s : String} (h : BeginsApart s) (more : String) : BeginsApart (s ++ more) := by
  unfold BeginsApart at h ⊢
  rw [String.toList_append]
  cases hs : s.toList with
  | nil =>
    rw [hs] at h
    cases h
  | cons c cs =>
    rw [hs] at h
    exact h

lemma NumeralFault.beginsApart_message (fault : NumeralFault) : BeginsApart fault.message := by
  cases fault with
  | longText limit digits => exact (((BeginsApart.append (by decide) _).append _).append _).append _
  | longNumber limit => exact (BeginsApart.append (by decide) _).append _

lemma Duration.beginsApart_tooLongMessage (days : Nat) : BeginsApart (tooLongMessage days) := by
  unfold tooLongMessage
  by_cases hmany : 0x80000000 ≤ days
  · rw [if_pos hmany]
    decide
  · rw [if_neg hmany]
    exact ((BeginsApart.append (by decide) _).append _).append _

lemma Duration.Fault.beginsApart_message (fault : Fault) : BeginsApart fault.message := by
  cases fault with
  | malformed text => exact (BeginsApart.append (by decide) _).append _
  | unknownUnit unit text => exact (((BeginsApart.append (by decide) _).append _).append _).append _
  | numeral fault => exact fault.beginsApart_message
  | tooLong days => exact beginsApart_tooLongMessage days

lemma ConfigurationFault.beginsApart_message (fault : ConfigurationFault) : BeginsApart fault.message := by
  cases fault with
  | malformed fault => exact BeginsApart.append (by decide) _
  | notMapping => decide
  | badFields faults => exact BeginsApart.append (by decide) _
  | blockNotMapping kind name =>
    exact (((BeginsApart.append (by decide) _).append _).append _).append _
  | badBlock kind name faults =>
    exact ((BeginsApart.append (by decide) _).append _).append _
  | badDuration fault => exact fault.beginsApart_message

lemma ConfigurationFault.message_ne_notConfigured (fault : ConfigurationFault) :
    fault.message ≠ notConfigured := by
  intro heq
  have hbegins := fault.beginsApart_message
  rw [heq] at hbegins
  exact absurd hbegins (by decide)

/-- The host after searches and nothing else. -/
def Host.searched (queries : List String) (h : Host) : Host :=
  { h with log := h.log ++ queries.map .search }

@[simp] lemma Host.searched_nil (h : Host) : h.searched [] = h := by
  simp [searched]

@[simp] lemma Host.searched_searched (queries more : List String) (h : Host) :
    (h.searched queries).searched more = h.searched (queries ++ more) := by
  simp [searched]

/-- Whether none of the searches fails, when they are made one after another. -/
def Tracker.Answers (t : Tracker) (log : List Call) : List String → Prop
  | [] => True
  | query :: queries =>
    t.fails (log ++ [.search query]) = none ∧ t.Answers (log ++ [.search query]) queries

lemma Tracker.answers_append {t : Tracker} {log : List Call} {queries more : List String} :
    t.Answers log (queries ++ more) ↔
      t.Answers log queries ∧ t.Answers (log ++ queries.map .search) more := by
  induction queries generalizing log with
  | nil => simp [Answers]
  | cons query queries ih => simp [Answers, ih, and_assoc]

namespace Op

variable {ε α β : Type} {t : Tracker} {f : α → Op ε β} {as : List α}

lemma each_searched (hf : ∀ a h, ∃ queries, (f a t h).2 = h.searched queries) (as : List α) (h : Host) :
    ∃ queries, (each f as t h).2 = h.searched queries := by
  induction as generalizing h with
  | nil => exact ⟨[], h.searched_nil.symm⟩
  | cons a as ih =>
    obtain ⟨queries, hfirst⟩ := hf a h
    rcases hresult : f a t h with ⟨e | b, h₁⟩
    · refine ⟨queries, ?_⟩
      rw [each, bind_error hresult, ← hfirst, hresult]
    · rw [hresult] at hfirst
      obtain rfl : h₁ = h.searched queries := hfirst
      obtain ⟨more, hrest⟩ := ih (h.searched queries)
      have hall := bind_leaves (x := each f as) (f := fun bs => pure (b :: bs)) (t := t)
        (h := h.searched queries) fun _ _ _ => rfl
      refine ⟨queries ++ more, ?_⟩
      rw [each, bind_ok hresult, hall, hrest, Host.searched_searched]

lemma each_returns {a : α} {h : Host} : (∃ bs h', each f (a :: as) t h = (.ok bs, h')) ↔
    ∃ b h₁, f a t h = (.ok b, h₁) ∧ ∃ bs h', each f as t h₁ = (.ok bs, h') := by
  constructor
  · rintro ⟨bs, h', hall⟩
    obtain ⟨b, h₁, hfirst, hrest⟩ := bind_eq_ok.mp hall
    obtain ⟨bs', h₂, heach, -⟩ := bind_eq_ok.mp hrest
    exact ⟨b, h₁, hfirst, bs', h₂, heach⟩
  · rintro ⟨b, h₁, hfirst, bs, h', heach⟩
    exact ⟨b :: bs, h', bind_eq_ok.mpr ⟨b, h₁, hfirst, bind_eq_ok.mpr ⟨bs, h', heach, rfl⟩⟩⟩

/-- Every result belongs to the element at its place. -/
lemma each_ok {R : β → α → Prop} (hf : ∀ a b h h', f a t h = (.ok b, h') → R b a)
    {bs : List β} {h h' : Host} (heach : each f as t h = (.ok bs, h')) : List.Forall₂ R bs as := by
  induction as generalizing bs h with
  | nil =>
    cases heach
    exact .nil
  | cons a as ih =>
    obtain ⟨b, h₁, hfirst, hrest⟩ := bind_eq_ok.mp heach
    obtain ⟨bs', h₂, heach', hlast⟩ := bind_eq_ok.mp hrest
    cases hlast
    exact .cons (hf a b _ _ hfirst) (ih heach')

end Op

lemma Query.ofTask_eq_compile (tasks : Blocks) (name : String) (repository : Repository) (now : Moment) :
    ofTask tasks name repository now =
      (Sweep.compile tasks name repository now).map (Option.map Prod.fst) := by
  unfold ofTask Sweep.compile
  cases tasks.rule? name with
  | error e => rfl
  | ok found =>
    cases found with
    | none => rfl
    | some rule =>
      simp only [Except.bind]
      cases compile rule.predicates repository now <;> rfl

/-- The query of a task that has one. -/
def Query.find? (tasks : Blocks) (now : Moment) (repository : Repository) (name : String) : Option String :=
  (ofTask tasks name repository now).toOption.join

/-- What is wrong with a task, if anything, is a fault of the configuration. -/
def Query.Reportable (tasks : Blocks) (now : Moment) (repository : Repository) (name : String) : Prop :=
  ∀ e, ofTask tasks name repository now = .error e → ∃ fault, e = .configuration fault

/-- Tasks are named by the texts of their keys, in the order of the configuration. -/
lemma Configuration.names_taskBlocks {c : Configuration} {tasks : Blocks} (h : c.taskBlocks = .ok tasks) :
    tasks.names = (c.tasks.map (·.1.text)).eraseDups := by
  rcases Rule.writable_cases c.tasks with ⟨hw, -⟩ | ⟨e, -, fault, -, hw⟩
  · rw [taskBlocks, Blocks.ofMapping, hw] at h
    cases h
    rw [Blocks.names, Entries.keys_ofPairs, List.map_map]
    rfl
  · rw [taskBlocks, Blocks.ofMapping, hw] at h
    cases h

namespace RuleCheck

open Query (Reportable)
open Sweep (runRule presentDay deskTracker deskHost)

variable {tasks : Blocks} {now : Moment} {number : Int} {name : String} {t : Tracker} {h : Host}

section Check

variable {fault : ConfigurationFault} {e : Failure} {query : String}

lemma ofTask_faulty (hq : Query.ofTask tasks name t.scope now = .error (.configuration fault)) (h : Host) :
    ofTask tasks now number name t h = (.ok { name, error := some fault.message }, h) := by
  refine (Op.bind_ok (x := Op.scope) rfl _).trans ?_
  rw [hq]
  rfl

lemma ofTask_stopped (hq : Query.ofTask tasks name t.scope now = .error e)
    (hne : ∀ fault, e ≠ .configuration fault) (h : Host) :
    ofTask tasks now number name t h = (.error e, h) := by
  refine (Op.bind_ok (x := Op.scope) rfl _).trans ?_
  rw [hq]
  cases e with
  | configuration fault => exact absurd rfl (hne fault)
  | _ => rfl

lemma ofTask_absent (hq : Query.ofTask tasks name t.scope now = .ok none) (h : Host) :
    ofTask tasks now number name t h = (.ok { name }, h) := by
  refine (Op.bind_ok (x := Op.scope) rfl _).trans ?_
  rw [hq]
  rfl

lemma ofTask_unsearched {fault : HostFault}
    (hq : Query.ofTask tasks name t.scope now = .ok (some query))
    (hf : t.fails (h.log ++ [.search query]) = some fault) : ofTask tasks now number name t h =
      (.error (fault.during (.search query)), h.searched [query]) := by
  refine (Op.bind_ok (x := Op.scope) rfl _).trans ?_
  rw [hq]
  exact Op.bind_error (Tracker.searchIssues_error hf) _

lemma ofTask_searched (hq : Query.ofTask tasks name t.scope now = .ok (some query))
    (hf : t.fails (h.log ++ [.search query]) = none) : ofTask tasks now number name t h =
      (.ok { name, query := some query, found := (t.find query h.issues).any (·.number = number) },
        h.searched [query]) := by
  refine (Op.bind_ok (x := Op.scope) rfl _).trans ?_
  rw [hq]
  exact Op.bind_ok (Tracker.searchIssues_ok hf) _

/-- A check comes to a result unless its task is out of all bounds or its search fails, and it makes no call
but that search. -/
lemma ofTask_cases (tasks : Blocks) (now : Moment) (number : Int) (name : String) (t : Tracker) (h : Host) :
    (ofTask tasks now number name t h).2 = h.searched (Query.find? tasks now t.scope name).toList ∧
      ((∃ check h₁, ofTask tasks now number name t h = (.ok check, h₁)) ↔
        Reportable tasks now t.scope name ∧
          t.Answers h.log (Query.find? tasks now t.scope name).toList) := by
  unfold Query.find? Reportable
  cases hq : Query.ofTask tasks name t.scope now with
  | error e =>
    by_cases he : ∃ fault, e = .configuration fault
    · obtain ⟨fault, rfl⟩ := he
      rw [ofTask_faulty hq]
      simp [Except.toOption, Tracker.Answers]
    · rw [ofTask_stopped hq fun fault heq => he ⟨fault, heq⟩]
      simpa [Except.toOption, Tracker.Answers] using he
  | ok found =>
    cases found with
    | none =>
      rw [ofTask_absent hq]
      simp [Except.toOption, Tracker.Answers]
    | some query =>
      cases hf : t.fails (h.log ++ [.search query]) with
      | some fault =>
        rw [ofTask_unsearched hq hf]
        simp [Except.toOption, Tracker.Answers, hf]
      | none =>
        rw [ofTask_searched hq hf]
        simp [Except.toOption, Tracker.Answers, hf]

end Check

/-- What a check and a run of one task come to from one host. -/
inductive Classified (tasks : Blocks) (now : Moment) (number : Int) (name : String) (t : Tracker)
    (h : Host) : Except Failure RuleCheck → Except Failure RunReport → Prop where
  | faulty {fault : ConfigurationFault} :
      Sweep.compile tasks name t.scope now = .error (.configuration fault) →
      Classified tasks now number name t h (.ok { name, error := some fault.message })
        (.ok { name, error := some fault.message })
  | stopped {e : Failure} : Sweep.compile tasks name t.scope now = .error e →
      (∀ fault, e ≠ .configuration fault) → Classified tasks now number name t h (.error e) (.error e)
  | absent : Sweep.compile tasks name t.scope now = .ok none →
      Classified tasks now number name t h (.ok { name }) (.ok { name, error := some notConfigured })
  | unsearched {query : String} {actions : ActionSet} {fault : HostFault} :
      Sweep.compile tasks name t.scope now = .ok (some (query, actions)) →
      t.fails (h.log ++ [.search query]) = some fault →
      Classified tasks now number name t h (.error (fault.during (.search query)))
        (.ok { name, query := some query, error := some (fault.during (.search query)).message })
  | searched {query : String} {actions : ActionSet} (failed : List (Int × String)) :
      Sweep.compile tasks name t.scope now = .ok (some (query, actions)) →
      t.fails (h.log ++ [.search query]) = none →
      Classified tasks now number name t h
        (.ok { name, query := some query, found := (t.find query h.issues).any (·.number = number) })
        (.ok { name, query := some query, matched := (t.find query h.issues).map (·.number), failed })

theorem classified (tasks : Blocks) (now : Moment) (number : Int) (name : String) (t : Tracker) (h : Host) :
    Classified tasks now number name t h (ofTask tasks now number name t h).1
      (runRule tasks now name t h).1 := by
  have hq := Query.ofTask_eq_compile tasks name t.scope now
  cases hc : Sweep.compile tasks name t.scope now with
  | error e =>
    rw [hc] at hq
    by_cases he : ∃ fault, e = .configuration fault
    · obtain ⟨fault, rfl⟩ := he
      have hrun : runRule tasks now name t h = _ := Op.bind_ok (Sweep.prepare_fault hc h) _
      rw [ofTask_faulty hq, hrun]
      exact .faulty hc
    · have hne : ∀ fault, e ≠ .configuration fault := fun fault heq => he ⟨fault, heq⟩
      have hrun : runRule tasks now name t h = _ := Op.bind_error (Sweep.prepare_stop hc hne h) _
      rw [ofTask_stopped hq hne, hrun]
      exact .stopped hc hne
  | ok compiled =>
    rw [hc] at hq
    cases compiled with
    | none =>
      have hprepare : Sweep.prepare tasks now name t h =
          (.ok (.skipped { name, error := some notConfigured }), h) := by
        refine (Op.bind_ok (x := Op.scope) rfl _).trans ?_
        rw [hc]
        rfl
      have hrun : runRule tasks now name t h = _ := Op.bind_ok hprepare _
      rw [ofTask_absent hq, hrun]
      exact .absent hc
    | some p =>
      obtain ⟨query, actions⟩ := p
      cases hf : t.fails (h.log ++ [.search query]) with
      | some fault =>
        have hready := Sweep.prepare_ready hc h
        rw [hf] at hready
        have hrun : runRule tasks now name t h = _ := Op.bind_ok hready _
        rw [ofTask_unsearched hq hf, hrun]
        exact .unsearched hc hf
      | none =>
        rw [ofTask_searched hq hf, Sweep.runRule_ok hc hf rfl]
        exact .searched _ hc hf

/-- A check has the name of its task, and not both an error and a query. -/
lemma ofTask_told {check : RuleCheck} {h₁ : Host}
    (hcheck : ofTask tasks now number name t h = (.ok check, h₁)) :
    (check.error = none ∨ check.query = none) ∧ check.name = name := by
  have hclass := classified tasks now number name t h
  rw [hcheck] at hclass
  generalize (runRule tasks now name t h).1 = report at hclass
  cases hclass with
  | faulty hc => exact ⟨.inr rfl, rfl⟩
  | absent hc => exact ⟨.inl rfl, rfl⟩
  | searched failed hc _ => exact ⟨.inl rfl, rfl⟩

lemma each_returns_iff {names : List String} :
    (∃ checks h₁, Op.each (ofTask tasks now number) names t h = (.ok checks, h₁)) ↔
      (∀ name ∈ names, Reportable tasks now t.scope name) ∧
        t.Answers h.log (names.filterMap (Query.find? tasks now t.scope)) := by
  induction names generalizing h with
  | nil => exact iff_of_true ⟨[], h, rfl⟩ ⟨by simp, trivial⟩
  | cons name names ih =>
    obtain ⟨hhost, hreturns⟩ := ofTask_cases tasks now number name t h
    have hfilter : (name :: names).filterMap (Query.find? tasks now t.scope) =
        (Query.find? tasks now t.scope name).toList ++ names.filterMap (Query.find? tasks now t.scope) := by
      cases hfind : Query.find? tasks now t.scope name with
      | none => rw [List.filterMap_cons_none hfind, Option.toList_none, List.nil_append]
      | some query => rw [List.filterMap_cons_some hfind, Option.toList_some, List.singleton_append]
    -- the other searches come after the one of the first task
    have hfirst : ∀ check h₁, ofTask tasks now number name t h = (.ok check, h₁) →
        h₁ = h.searched (Query.find? tasks now t.scope name).toList := by
      intro check h₁ hcheck
      rw [← hhost, hcheck]
    rw [Op.each_returns, hfilter, Tracker.answers_append, List.forall_mem_cons]
    constructor
    · rintro ⟨check, h₁, hcheck, hrest⟩
      obtain rfl := hfirst check h₁ hcheck
      obtain ⟨hreportable, hanswers⟩ := hreturns.mp ⟨check, _, hcheck⟩
      obtain ⟨hothers, hlater⟩ := ih.mp hrest
      exact ⟨⟨hreportable, hothers⟩, hanswers, hlater⟩
    · rintro ⟨⟨hreportable, hothers⟩, hanswers, hlater⟩
      obtain ⟨check, h₁, hcheck⟩ := hreturns.mpr ⟨hreportable, hanswers⟩
      obtain rfl := hfirst check h₁ hcheck
      exact ⟨check, _, hcheck, ih.mpr ⟨hothers, hlater⟩⟩

variable {c : Configuration}

lemma all_eq (hblocks : c.taskBlocks = .ok tasks) (names : List String) : all c now number names t h =
    Op.each (ofTask tasks now number) (if names = [] then tasks.names else names) t h := by
  rw [all, hblocks]
  exact Op.bind_ok (x := Op.ofExcept (.ok tasks)) rfl _

/-- Checks do nothing to the host but search it, also when one of them fails. -/
theorem all_searched (c : Configuration) (now : Moment) (number : Int) (names : List String) (t : Tracker)
    (h : Host) : ∃ queries, (all c now number names t h).2 = h.searched queries := by
  cases hblocks : c.taskBlocks with
  | error e =>
    refine ⟨[], ?_⟩
    rw [all, hblocks, h.searched_nil]
    rfl
  | ok tasks =>
    rw [all_eq hblocks]
    apply Op.each_searched
    intro name h
    exact ⟨_, (ofTask_cases tasks now number name t h).1⟩

/-- There is one check for each name, in the order of the names. -/
theorem all_told (hblocks : c.taskBlocks = .ok tasks) {names : List String} {checks : List RuleCheck}
    {h₁ : Host} (hall : all c now number names t h = (.ok checks, h₁)) :
    (∀ check ∈ checks, check.error = none ∨ check.query = none) ∧
      checks.map (·.name) = if names = [] then tasks.names else names := by
  rw [all_eq hblocks] at hall
  have hstep : ∀ name check h h', ofTask tasks now number name t h = (.ok check, h') →
      (check.error = none ∨ check.query = none) ∧ check.name = name := by
    intro name check h h' hcheck
    exact ofTask_told hcheck
  have htold := Op.each_ok hstep hall
  rw [List.forall₂_and_left] at htold
  have hnames : List.Forall₂ (· = ·) (checks.map (·.name)) _ := List.forall₂_map_left_iff.mpr htold.2
  rw [List.forall₂_eq_eq_eq] at hnames
  exact ⟨htold.1, hnames⟩

/-- A check of an issue and a run tell the same about a task. -/
structure Agrees (tasks : Blocks) (now : Moment) (scope : Repository) (name : String) (number : Int)
    (check : RuleCheck) (report : RunReport) : Prop where
  named : check.name = report.name
  query : check.query = report.query
  error (text : String) : check.error = some text ↔ report.error = some text ∧
    ∃ fault, Sweep.compile tasks name scope now = .error (.configuration fault)
  missing : check.missing = true ↔ report.error = some notConfigured
  found : check.found = true ↔ number ∈ report.matched

lemma Classified.agrees {check : RuleCheck} {report : RunReport}
    (hclass : Classified tasks now number name t h (.ok check) (.ok report)) :
    Agrees tasks now t.scope name number check report := by
  cases hclass with
  | @faulty fault hc =>
    refine ⟨rfl, rfl, fun text => ?_, ?_, by simp⟩
    · exact (and_iff_left ⟨fault, hc⟩).symm
    · simp [missing, fault.message_ne_notConfigured]
  | absent hc =>
    refine ⟨rfl, rfl, fun text => ?_, by simp [missing], by simp⟩
    simp [hc]
  | searched failed hc _ => exact ⟨rfl, rfl, by simp, by simp [missing], by simp⟩

/-- The check comes to a result unless the run is stopped or its search fails. -/
lemma Classified.returns {check : Except Failure RuleCheck} {report : Except Failure RunReport}
    (hclass : Classified tasks now number name t h check report) :
    (∃ c, check = .ok c) ↔ ∃ r, report = .ok r ∧ (r.query = none ∨ r.error = none) := by
  cases hclass <;> simp

lemma all_singleton (hblocks : c.taskBlocks = .ok tasks) (name : String) :
    all c now number [name] t h =
      ((ofTask tasks now number name t h).1.map ([·]), (ofTask tasks now number name t h).2) := by
  rw [all_eq hblocks, if_neg (List.cons_ne_nil _ _), Op.each]
  rcases hcheck : ofTask tasks now number name t h with ⟨e | check, h₁⟩
  · exact Op.bind_error hcheck _
  · exact Op.bind_ok hcheck _

/-- Checks leave the host as it is, but for their searches. The check of one task agrees with a run of it
from the same host, and comes to a result whenever the run does and its search has not failed. When no
names are given there is one check for each task of the configuration, in order, unless a task is out of
all bounds or one of the searches fails. -/
theorem check_agrees_with_run (c : Configuration) (tasks : Blocks) (now : Moment) (number : Int)
    (t : Tracker) (h : Host) (hblocks : c.taskBlocks = .ok tasks) :
    (∀ names, ∃ queries, (all c now number names t h).2 = h.searched queries) ∧
    (∀ name checks h₁ report h₂, all c now number [name] t h = (.ok checks, h₁) →
      runRule tasks now name t h = (.ok report, h₂) →
      ∃ check, checks = [check] ∧ Agrees tasks now t.scope name number check report) ∧
    (∀ name, (∃ checks h₁, all c now number [name] t h = (.ok checks, h₁)) ↔
      ∃ report h₂, runRule tasks now name t h = (.ok report, h₂) ∧
        (report.query = none ∨ report.error = none)) ∧
    ((∃ checks h₁, all c now number [] t h = (.ok checks, h₁)) ↔
      (∀ name ∈ tasks.names, Reportable tasks now t.scope name) ∧
        t.Answers h.log (tasks.names.filterMap (Query.find? tasks now t.scope))) ∧
    ∀ checks h₁, all c now number [] t h = (.ok checks, h₁) →
      checks.map (·.name) = (c.tasks.map (·.1.text)).eraseDups := by
  refine ⟨fun names => all_searched c now number names t h, ?_, ?_, ?_, ?_⟩
  · intro name checks h₁ report h₂ hall hrun
    have hclass := classified tasks now number name t h
    rw [all_singleton hblocks] at hall
    rw [hrun] at hclass
    cases hcheck : (ofTask tasks now number name t h).1 with
    | error e =>
      rw [hcheck] at hall
      cases hall
    | ok check =>
      rw [hcheck] at hall hclass
      cases hall
      exact ⟨check, rfl, hclass.agrees⟩
  · intro name
    have hreturns := (classified tasks now number name t h).returns
    rw [all_singleton hblocks]
    constructor
    · rintro ⟨checks, h₁, hall⟩
      cases hcheck : (ofTask tasks now number name t h).1 with
      | error e =>
        rw [hcheck] at hall
        cases hall
      | ok check =>
        obtain ⟨report, hrun, hsearched⟩ := hreturns.mp ⟨check, hcheck⟩
        exact ⟨report, (runRule tasks now name t h).2, by rw [← hrun], hsearched⟩
    · rintro ⟨report, h₂, hrun, hsearched⟩
      obtain ⟨check, hcheck⟩ := hreturns.mpr ⟨report, by rw [hrun], hsearched⟩
      rw [hcheck]
      exact ⟨[check], _, rfl⟩
  · rw [all_eq hblocks, if_pos rfl]
    exact each_returns_iff
  · intro checks h₁ hall
    obtain ⟨-, hnames⟩ := all_told hblocks hall
    rw [if_pos rfl] at hnames
    rw [hnames, Configuration.names_taskBlocks hblocks]

/-- A task whose predicates are in order and whose action is not, before one that is in order. -/
def tornBlocks : Blocks := [
  ("torn", .map [
    (.str (.ofString "if_state"), .str (.ofString "open")),
    (.str (.ofString "set_state"), .str (.ofString "ajar"))]),
  ("fresh", .map [(.str (.ofString "if_state"), .str (.ofString "open"))])]

def tornTasks : Configuration where
  tasks := tornBlocks.map fun b => (.str (.ofString b.1), b.2)

theorem check_agrees_with_run_tornTasks : tornTasks.taskBlocks = .ok tornBlocks ∧
    ∀ name ∈ ["torn", "fresh", "absent"], ∃ check h₁ report h₂,
      all tornTasks presentDay 1 [name] deskTracker deskHost = (.ok [check], h₁) ∧
      runRule tornBlocks presentDay name deskTracker deskHost = (.ok report, h₂) ∧
      Agrees tornBlocks presentDay deskTracker.scope name 1 check report := by
  refine ⟨rfl, ?_⟩
  intro name hname
  obtain ⟨-, hagrees, hreturns, -⟩ :=
    check_agrees_with_run tornTasks tornBlocks presentDay 1 deskTracker deskHost rfl
  have hran : ∃ report h₂, runRule tornBlocks presentDay name deskTracker deskHost =
      (.ok report, h₂) ∧ (report.query = none ∨ report.error = none) := by
    fin_cases hname
    · exact ⟨_, _, rfl, .inl rfl⟩
    · exact ⟨_, _, rfl, .inr rfl⟩
    · exact ⟨_, _, rfl, .inl rfl⟩
  obtain ⟨checks, h₁, hall⟩ := (hreturns name).mpr hran
  obtain ⟨report, h₂, hrun, -⟩ := hran
  obtain ⟨check, rfl, hagree⟩ := hagrees name checks h₁ report h₂ hall hrun
  exact ⟨check, h₁, report, h₂, hall, hrun, hagree⟩

end RuleCheck

end Triage
