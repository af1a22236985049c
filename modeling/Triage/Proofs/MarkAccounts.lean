import Mathlib
import Triage.Proofs.CascadeExactness
import Triage.Proofs.MarkOrder
import Triage.Proofs.SweepExitCodes

/-!
# What becomes of requested marks

Marks have their turns in the order of the request, and whatever becomes of one, the next has its turn
too. A mark that is unknown or malformed makes no call. The report tells of every turn, so a request of
distinct names is split among its four parts, and the command ends with code 0 when every turn was
applied. No mark has a turn when the name of one cannot be written out.
-/

namespace Triage

namespace MarkReport

open Entries (keys)

/-- What becomes of a name that is requested. -/
inductive Outcome where
  | applied
  | unknown
  | invalid (message : String)
  | failed (message : String)
  deriving DecidableEq, Repr

/-- The turn of one name. It makes the calls of its actions, and none when there are no actions for it:
no block has the name, or the block is malformed. -/
inductive Turn (marks : Blocks) (issue : Issue) (t : Tracker) (h : Host) (name : String) :
    Outcome → Host → Prop where
  | unknown : name ∉ marks.names → Turn marks issue t h name .unknown h
  | invalid {raw : Value} {fault : ConfigurationFault} : Entries.get? name marks = some raw →
      ActionSet.parse name raw = .error (.configuration fault) →
      Turn marks issue t h name (.invalid fault.message) h
  | applied {raw : Value} {actions : ActionSet} {execution : Execution} {h' : Host} :
      Entries.get? name marks = some raw → ActionSet.parse name raw = .ok actions →
      actions.execute issue t h = (.ok execution, h') → Turn marks issue t h name .applied h'
  | failed {raw : Value} {actions : ActionSet} {failure : Failure} {h' : Host} :
      Entries.get? name marks = some raw → ActionSet.parse name raw = .ok actions →
      actions.execute issue t h = (.error failure, h') →
      Turn marks issue t h name (.failed failure.message) h'

/-- The turns of names one after another. -/
inductive Course (marks : Blocks) (issue : Issue) (t : Tracker) :
    Host → List (String × Outcome) → Host → Prop where
  | nil (h : Host) : Course marks issue t h [] h
  | cons {h h₁ h₂ : Host} {name : String} {outcome : Outcome} {course : List (String × Outcome)} :
      Turn marks issue t h name outcome h₁ → Course marks issue t h₁ course h₂ →
      Course marks issue t h ((name, outcome) :: course) h₂

variable {marks : Blocks} {issue : Issue} {t : Tracker} {h h' : Host} {name : String}
  {names : List String} {course : List (String × Outcome)} {report : MarkReport}

section Turns

/-- The report with one more turn. -/
def note (report : MarkReport) : String × Outcome → MarkReport
  | (name, .applied) => { report with applied := report.applied ++ [name] }
  | (name, .unknown) => { report with unknown := report.unknown ++ [name] }
  | (name, .invalid message) => { report with invalid := Entries.put name message report.invalid }
  | (name, .failed message) => { report with failed := Entries.put name message report.failed }

/-- A malformed mark is a fault of the configuration: no value in it is out of all bounds. -/
lemma parse_eq_error {raw : Value} {e : Failure} (hparse : ActionSet.parse name raw = .error e) :
    ∃ fault, e = .configuration fault := by
  rw [ActionSet.parse] at hparse
  cases hfields : BlockKind.mark.fields name raw with
  | error e' =>
    rw [hfields] at hparse
    cases hparse
    cases raw <;> cases hfields <;> exact ⟨_, rfl⟩
  | ok fields =>
    rw [hfields] at hparse
    have hcheck : (ActionSet.check fields).forBlock .mark name = .error e := hparse
    rcases (ActionSet.check fields).orFail_cases fun fs => .configuration (.badBlock .mark name fs) with
      ⟨actions, -, hok⟩ | ⟨hexceeds, -⟩ | ⟨-, fs, -, herror⟩
    · rw [Checked.forBlock, hok] at hcheck
      cases hcheck
    · exact absurd hexceeds (ActionSet.not_exceeds_check fields)
    · rw [Checked.forBlock, herror] at hcheck
      cases hcheck
      exact ⟨_, rfl⟩

theorem step_turn (marks : Blocks) (issue : Issue) (report : MarkReport) (name : String) (t : Tracker)
    (h : Host) : ∃ outcome h', Turn marks issue t h name outcome h' ∧
      step marks issue report name t h = (.ok (report.note (name, outcome)), h') := by
  cases hraw : Entries.get? name marks with
  | none =>
    have hmark : marks.mark? name = .ok none := by rw [Blocks.mark?, hraw]
    have hunknown : name ∉ marks.names := by
      intro hname
      obtain ⟨raw, hsome⟩ := Entries.get?_of_mem_keys hname
      rw [hraw] at hsome
      cases hsome
    refine ⟨.unknown, h, .unknown hunknown, ?_⟩
    rw [step, hmark]
    rfl
  | some raw =>
    have hmark : marks.mark? name = (ActionSet.parse name raw).map some := by rw [Blocks.mark?, hraw]
    cases hparse : ActionSet.parse name raw with
    | error e =>
      obtain ⟨fault, rfl⟩ := parse_eq_error hparse
      refine ⟨.invalid fault.message, h, .invalid hraw hparse, ?_⟩
      rw [step, hmark, hparse]
      rfl
    | ok actions =>
      rw [hparse] at hmark
      rcases hexecute : actions.execute issue t h with ⟨failure | execution, h'⟩
      · have hattempt : (Op.ofStep (actions.execute issue).attempt : Op Failure _) t h =
            (.ok (.error failure), h') := by rw [Op.ofStep, Op.attempt, hexecute]
        refine ⟨.failed failure.message, h', .failed hraw hparse hexecute, ?_⟩
        rw [step, hmark]
        exact (Op.bind_ok hattempt _).trans rfl
      · exact ⟨.applied, h', .applied hraw hparse hexecute, step_applied hmark hexecute report⟩

/-- Every name has its turn, whatever became of those before it. -/
theorem stepAll_course (marks : Blocks) (issue : Issue) (names : List String) (report : MarkReport)
    (t : Tracker) (h : Host) : ∃ course h', Course marks issue t h course h' ∧
      course.map Prod.fst = names ∧
      stepAll marks issue report names t h = (.ok (course.foldl note report), h') := by
  induction names generalizing report h with
  | nil => exact ⟨[], h, .nil h, rfl, rfl⟩
  | cons name names ih =>
    obtain ⟨outcome, h₁, hturn, hstep⟩ := step_turn marks issue report name t h
    obtain ⟨course, h₂, hcourse, hnames, hrest⟩ := ih (report.note (name, outcome)) h₁
    refine ⟨(name, outcome) :: course, h₂, .cons hturn hcourse, ?_, ?_⟩
    · rw [List.map_cons, hnames]
    · rw [stepAll]
      exact (Op.bind_ok hstep _).trans hrest

end Turns

section Told

namespace Outcome

def isApplied : Outcome → Bool
  | .applied => true
  | _ => false

def isUnknown : Outcome → Bool
  | .unknown => true
  | _ => false

/-- The message of a malformed mark. -/
def invalid? : Outcome → Option String
  | .invalid message => some message
  | _ => none

/-- The message of a mark whose actions failed. -/
def failed? : Outcome → Option String
  | .failed message => some message
  | _ => none

end Outcome

/-- The names in a course whose turn is of one kind, and those with a message of one kind. -/
def namesOf (kind : Outcome → Bool) (course : List (String × Outcome)) : List String :=
  (course.filter fun p => kind p.2).map Prod.fst

def messagesOf (kind : Outcome → Option String) (course : List (String × Outcome)) :
    List (String × String) :=
  course.filterMap fun p => (kind p.2).map fun message => (p.1, message)

/-- What a report tells of a course: the applied and the unknown names in the order of their turns, and
for each malformed and each failed name the message of its last such turn. -/
structure Tells (report : MarkReport) (course : List (String × Outcome)) : Prop where
  applied : report.applied = namesOf Outcome.isApplied course
  unknown : report.unknown = namesOf Outcome.isUnknown course
  invalid : report.invalid = Entries.ofPairs (messagesOf Outcome.invalid? course)
  failed : report.failed = Entries.ofPairs (messagesOf Outcome.failed? course)

/-- The names of a request are split among the four parts of its report. -/
structure Splits (report : MarkReport) (names : List String) : Prop where
  perm : (report.applied ++ report.unknown ++ keys report.invalid ++ keys report.failed).Perm names
  applied : report.applied.Sublist names
  unknown : report.unknown.Sublist names

lemma namesOf_concat (kind : Outcome → Bool) (course : List (String × Outcome)) (p : String × Outcome) :
    namesOf kind (course ++ [p]) = namesOf kind course ++ if kind p.2 then [p.1] else [] := by
  cases hkind : kind p.2 <;> simp [namesOf, hkind]

lemma messagesOf_concat (kind : Outcome → Option String) (course : List (String × Outcome))
    (p : String × Outcome) : Entries.ofPairs (messagesOf kind (course ++ [p])) =
      (kind p.2).elim (Entries.ofPairs (messagesOf kind course))
        fun message => Entries.put p.1 message (Entries.ofPairs (messagesOf kind course)) := by
  cases hkind : kind p.2 <;> simp [messagesOf, hkind, Entries.ofPairs]

lemma tells_note (htells : report.Tells course) (p : String × Outcome) :
    (report.note p).Tells (course ++ [p]) := by
  obtain ⟨name, outcome⟩ := p
  cases outcome <;> constructor <;>
    simp [note, namesOf_concat, messagesOf_concat, htells.applied, htells.unknown, htells.invalid,
      htells.failed, Outcome.isApplied, Outcome.isUnknown, Outcome.invalid?, Outcome.failed?]

theorem tells_foldl (course : List (String × Outcome)) : (course.foldl note {}).Tells course := by
  induction course using List.reverseRecOn with
  | nil => exact ⟨rfl, rfl, rfl, rfl⟩
  | append_singleton course p ih =>
    rw [List.foldl_append]
    exact tells_note ih p

lemma keys_messagesOf (kind : Outcome → Option String) (course : List (String × Outcome)) :
    keys (messagesOf kind course) = namesOf (fun outcome => (kind outcome).isSome) course := by
  induction course with
  | nil => rfl
  | cons p course ih =>
    unfold keys messagesOf namesOf at ih ⊢
    cases hkind : kind p.2 <;> simp [hkind, ih]

lemma sublist_namesOf (kind : Outcome → Bool) (course : List (String × Outcome)) :
    (namesOf kind course).Sublist (course.map Prod.fst) :=
  List.filter_sublist.map _

/-- Every turn is of one of the four kinds. -/
lemma perm_namesOf (course : List (String × Outcome)) :
    (namesOf Outcome.isApplied course ++ namesOf Outcome.isUnknown course ++
      namesOf (fun outcome => outcome.invalid?.isSome) course ++
      namesOf (fun outcome => outcome.failed?.isSome) course).Perm (course.map Prod.fst) := by
  rw [List.perm_iff_count]
  intro name
  induction course with
  | nil => rfl
  | cons p course ih =>
    obtain ⟨name', outcome⟩ := p
    simp only [List.count_append, namesOf] at ih ⊢
    cases outcome <;>
      simp [Outcome.isApplied, Outcome.isUnknown, Outcome.invalid?, Outcome.failed?, List.count_cons] at ih ⊢ <;>
      omega

theorem Tells.splits (htells : report.Tells course) (hnames : (course.map Prod.fst).Nodup) :
    report.Splits (course.map Prod.fst) := by
  have hkeys (kind : Outcome → Option String) : keys (Entries.ofPairs (messagesOf kind course)) =
      namesOf (fun outcome => (kind outcome).isSome) course := by
    have hnodup : (keys (messagesOf kind course)).Nodup := by
      rw [keys_messagesOf]
      exact hnames.sublist (sublist_namesOf _ course)
    rw [Entries.ofPairs_of_nodup hnodup, keys_messagesOf]
  constructor
  · rw [htells.applied, htells.unknown, htells.invalid, htells.failed, hkeys, hkeys]
    exact perm_namesOf course
  · rw [htells.applied]
    exact sublist_namesOf _ course
  · rw [htells.unknown]
    exact sublist_namesOf _ course

/-- A report has no problems when every turn was applied. -/
lemma Tells.isClean_iff (htells : report.Tells course) :
    report.isClean = true ↔ ∀ p ∈ course, p.2 = .applied := by
  have hunknown : report.unknown = [] ↔ ∀ p ∈ course, p.2.isUnknown = false := by
    rw [htells.unknown, namesOf, List.map_eq_nil_iff, List.filter_eq_nil_iff]
    simp
  have hmessages (kind : Outcome → Option String) :
      Entries.ofPairs (messagesOf kind course) = [] ↔ ∀ p ∈ course, kind p.2 = none := by
    rw [Entries.ofPairs_eq_nil_iff, messagesOf, List.filterMap_eq_nil_iff]
    simp
  rw [isClean, Bool.and_eq_true, Bool.and_eq_true, List.isEmpty_iff, List.isEmpty_iff, List.isEmpty_iff,
    hunknown, htells.invalid, hmessages, htells.failed, hmessages]
  constructor
  · rintro ⟨⟨hunknown, hinvalid⟩, hfailed⟩ ⟨name, outcome⟩ hp
    cases outcome with
    | applied => rfl
    | unknown => exact absurd (hunknown _ hp) Bool.noConfusion
    | invalid message => exact absurd (hinvalid _ hp) (Option.some_ne_none _)
    | failed message => exact absurd (hfailed _ hp) (Option.some_ne_none _)
  · intro happlied
    refine ⟨⟨?_, ?_⟩, ?_⟩ <;> intro p hp <;> rw [happlied p hp] <;> rfl

end Told

/-- The report of a request, when the names of the marks can be written out. -/
lemma ofNames_course {c : Configuration} (hblocks : c.markBlocks = .ok marks) (issue : Issue)
    (names : List String) (t : Tracker) (h : Host) : ∃ course h', Course marks issue t h course h' ∧
      course.map Prod.fst = names ∧ (course.foldl note {}).Tells course ∧
      ofNames c issue names t h = (.ok (course.foldl note {}), h') := by
  obtain ⟨course, h', hcourse, hnames, hrun⟩ := stepAll_course marks issue names {} t h
  exact ⟨course, h', hcourse, hnames, tells_foldl course, (ofNames_eq hblocks issue names t h).trans hrun⟩

end MarkReport

namespace Console.Invocation

open MarkReport (Course ofNames)

lemma reporting_ok {α : Type} {x : Op Failure α} {t : Tracker} {h h' : Host} {a : α}
    (hx : x t h = (.ok a, h')) (report : α → Console.Outcome) :
    reporting x report t h = (report a, h') := by
  have hattempt : x.attempt t h = (.ok a, h') := hx
  rw [reporting, Step.bind_apply, hattempt]
  rfl

lemma reporting_error {α : Type} {x : Op Failure α} {t : Tracker} {h h' : Host} {f : Failure}
    (hx : x t h = (.error f, h')) (hexpected : f.isExpected = true) (report : α → Console.Outcome) :
    reporting x report t h = (([.failed f], .exit 1), h') := by
  have hattempt : x.attempt t h = (.error f, h') := hx
  rw [reporting, Step.bind_apply, hattempt]
  simp only [hexpected, if_true]
  rfl

/-- What a command on one issue has read when it begins its work: it has a token, the configuration, and
a snapshot of the issue. -/
def HasRead (env : Environment) (a : Access) (n : Int) (t : Tracker) (h : Host) (c : Configuration)
    (issue : Issue) (h' : Host) : Prop :=
  (token? env a).isSome = true ∧ ∃ h₁, configuration env a t h = (.ok c, h₁) ∧
    Tracker.getIssue n t h₁ = (.ok issue, h')

/-- The work of a command that applies marks. -/
def marking (env : Environment) (a : Access) (n : Int) (names : List String) : Op Failure MarkReport := do
  let c ← configuration env a
  let issue ← Tracker.getIssue n
  ofNames c issue names

lemma ending_mark {env : Environment} {a : Access} (htoken : (token? env a).isSome = true)
    (now : Moment) (n : Int) (names : List String) (t : Tracker) (h : Host) :
    (perform env now (.mark t.scope a n names) t h).1.ending =
      (reporting (marking env a n names)
        (fun r => finished (markNotices n r) r.isClean) t h).1.2 :=
  ending_withToken htoken t.scope (marksOutcome env a n names) t h

lemma marking_eq {env : Environment} {a : Access} {n : Int} {t : Tracker} {h h' : Host}
    {c : Configuration} {issue : Issue} (hread : HasRead env a n t h c issue h') (names : List String) :
    marking env a n names t h = ofNames c issue names t h' := by
  obtain ⟨-, h₁, hc, hissue⟩ := hread
  exact (Op.bind_ok hc _).trans (Op.bind_ok hissue _)

section Exit

variable {env : Environment} {a : Access} {n : Int} {names : List String} {t : Tracker} {h h₀ h' : Host}
  {c : Configuration} {issue : Issue} (hread : HasRead env a n t h₀ c issue h)

include hread

lemma perform_mark_ok {report : MarkReport} (hok : ofNames c issue names t h = (.ok report, h'))
    (now : Moment) : (perform env now (.mark t.scope a n names) t h₀).1.ending =
      .exit (if report.isClean = true then 0 else 1) := by
  have hmarking := (marking_eq hread names).trans hok
  rw [ending_mark hread.1, reporting_ok hmarking]
  rfl

lemma perform_mark_rejected {cause : Rejection}
    (herror : ofNames c issue names t h = (.error (.rejected cause), h')) (now : Moment) :
    (perform env now (.mark t.scope a n names) t h₀).1.ending = .exit 1 := by
  have hmarking := (marking_eq hread names).trans herror
  rw [ending_mark hread.1, reporting_error hmarking rfl]

end Exit

end Console.Invocation

namespace MarkReport

open Console.Invocation (HasRead marking perform perform_mark_ok perform_mark_rejected)
open Duplicate.Cascade (markedIssue shakyHost shakyTracker)
open Entries (keys)

/-- A request whose marks all have their turns: the report tells of them, distinct names are split among
its parts, and the command ends with code 0 when every turn was applied, and else with code 1. -/
structure Account (c : Configuration) (issue : Issue) (names : List String) (t : Tracker) (h : Host)
    (marks : Blocks) (course : List (String × Outcome)) (report : MarkReport) (h' : Host) : Prop where
  blocks : c.markBlocks = .ok marks
  returned : ofNames c issue names t h = (.ok report, h')
  turns : Course marks issue t h course h'
  requested : course.map Prod.fst = names
  tells : report.Tells course
  splits : names.Nodup → report.Splits names
  exit_zero_iff : ∀ env now a n h₀, HasRead env a n t h₀ c issue h →
    ((perform env now (.mark t.scope a n names) t h₀).1.ending = .exit 0 ↔
      ∀ p ∈ course, p.2 = .applied)
  exit_one_iff : ∀ env now a n h₀, HasRead env a n t h₀ c issue h →
    ((perform env now (.mark t.scope a n names) t h₀).1.ending = .exit 1 ↔
      ∃ p ∈ course, p.2 ≠ .applied)

/-- A request is accounted for when the names of all configured marks can be written out. When that of
one cannot, no mark is applied at all, whatever was requested. -/
theorem ofNames_accounts (c : Configuration) (issue : Issue) (names : List String) (t : Tracker)
    (h : Host) :
    ((∀ e ∈ c.marks, e.1.numberFault? .standard = none) →
      ∃ marks course report h', Account c issue names t h marks course report h') ∧
    ((∃ e ∈ c.marks, e.1.numberFault? .standard ≠ none) → ∃ fault,
      ofNames c issue names t h = (.error (.rejected (.badNumeral fault)), h) ∧
      ∀ env now a n h₀, HasRead env a n t h₀ c issue h →
        (perform env now (.mark t.scope a n names) t h₀).1.ending = .exit 1) := by
  rcases Blocks.ofMapping_cases c.marks with ⟨marks, hblocks, hkeys, -⟩ | ⟨e, he, fault, hfault, hblocks⟩
  · refine ⟨fun _ => ?_, fun ⟨e, he, hne⟩ => absurd (hkeys e he) hne⟩
    obtain ⟨course, h', hcourse, hnames, htells, hok⟩ := ofNames_course hblocks issue names t h
    have hclean := htells.isClean_iff
    refine ⟨marks, course, _, h', hblocks, hok, hcourse, hnames, htells, ?_, ?_, ?_⟩
    · intro hnodup
      rw [← hnames] at hnodup ⊢
      exact htells.splits hnodup
    · intro env now a n h₀ hread
      rw [perform_mark_ok hread hok, ← hclean]
      split_ifs with hall
      · exact iff_of_true rfl hall
      · exact iff_of_false (by rintro ⟨⟩) hall
    · intro env now a n h₀ hread
      rw [perform_mark_ok hread hok]
      have hproblem : (∃ p ∈ course, p.2 ≠ .applied) ↔ ¬(course.foldl note {}).isClean = true := by
        rw [hclean]
        push Not
        rfl
      rw [hproblem]
      split_ifs with hall
      · exact iff_of_false (by rintro ⟨⟩) (not_not_intro hall)
      · exact iff_of_true rfl hall
  · refine ⟨fun hall => ?_, fun _ => ?_⟩
    · rw [hall e he] at hfault
      cases hfault
    · have herror := ofNames_unnamed hblocks issue names t h
      exact ⟨fault, herror, fun env now a n h₀ hread => perform_mark_rejected hread herror now⟩

/-- A mark that can be applied, one that cannot be on every issue, and one that is no mapping. -/
def patchyText : String :=
  "mark_actions:\n  seen:\n    add_labels: [seen]\n  done:\n    set_state: closed\n  torn: []\n"

/-- A directory with a configuration file. -/
def patchyFiles : Console.Environment where
  files := [("marks.yml", .file (patchyText.toList.map Char.toNat))]

def patchyAccess : Console.Access := ⟨some "t", Configuration.defaultPath, some "marks.yml"⟩

theorem ofNames_accounts_patchyMarks : ∃ c issue h₁ marks course report h',
    HasRead patchyFiles patchyAccess 3 shakyTracker shakyHost c issue h₁ ∧
    (∀ e ∈ c.marks, e.1.numberFault? .standard = none) ∧
    Account c issue ["done", "ghost", "torn", "seen"] shakyTracker h₁ marks course report h' ∧
    (report.applied, report.unknown, keys report.invalid, keys report.failed) =
      (["seen"], ["ghost"], ["torn"], ["done"]) := by
  have hparts : (marking patchyFiles patchyAccess 3 ["done", "ghost", "torn", "seen"] shakyTracker
      shakyHost).1.toOption.map (fun r => (r.applied, r.unknown, keys r.invalid, keys r.failed)) =
      some (["seen"], ["ghost"], ["torn"], ["done"]) := by decide +kernel
  rcases hmarking : marking patchyFiles patchyAccess 3 ["done", "ghost", "torn", "seen"] shakyTracker
    shakyHost with ⟨e | report, h₂⟩
  · rw [hmarking] at hparts
    cases hparts
  · rw [hmarking] at hparts
    obtain ⟨c, h₀, hc, hrest⟩ := Op.bind_eq_ok.mp hmarking
    obtain ⟨issue, h₁, hissue, hok⟩ := Op.bind_eq_ok.mp hrest
    obtain ⟨haccount, hunnamed⟩ :=
      ofNames_accounts c issue ["done", "ghost", "torn", "seen"] shakyTracker h₁
    have hkeys : ∀ e ∈ c.marks, e.1.numberFault? .standard = none := by
      by_contra hkey
      push Not at hkey
      obtain ⟨fault, herror, -⟩ := hunnamed hkey
      rw [hok] at herror
      cases herror
    obtain ⟨marks, course, report', h', hall⟩ := haccount hkeys
    have hsame := hall.returned.symm.trans hok
    cases hsame
    exact ⟨c, issue, h₁, marks, course, report, h₂, ⟨rfl, h₀, hc, hissue⟩, hkeys, hall,
      Option.some.inj hparts⟩

def doneBlock : Value := .map [(.str (.ofString "set_state"), .str (.ofString "closed"))]

/-- The name of the first mark has 4301 digits. -/
def endlessMarks : Configuration where
  marks := [(.int (Nat.pow 10 4300 : Nat), .null), (.str (.ofString "done"), doneBlock)]

theorem ofNames_endlessMarks : ActionSet.parse "done" doneBlock = .ok { setState := some .closed } ∧
    ∃ e, (ofNames endlessMarks (markedIssue 2 "1").issue ["done"] shakyTracker shakyHost).1 =
      .error e := by
  refine ⟨rfl, Op.exists_eq_error ?_⟩
  decide +kernel

end MarkReport

end Triage
