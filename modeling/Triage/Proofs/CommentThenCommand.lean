import Mathlib
import Triage.Proofs.MarkOrder
import Triage.Proofs.NetEffects
import Triage.Proofs.Redelivery
import Triage.Proofs.TaskChecks

/-!
# Comments that refer and command

One comment may mark its issue as a duplicate and hold a command. The command is carried out with the
snapshot that came with the comment, which does not show the mark. Nearly everything comes out as if the
command saw the marked issue: only labels that are removed by a command are taken from those it sees.
-/

namespace Triage

/-- What action sets with one view of an issue make of it. -/
structure Turns (sets : List ActionSet) (seen : Disposition) (r r' : Record) : Prop where
  disposition : r'.disposition = settleAll (fun _ => seen) sets r.disposition
  body : r'.issue.body = r.issue.body

lemma turns_nil (seen : Disposition) (r : Record) : Turns [] seen r r := ⟨rfl, rfl⟩

lemma Turns.cons {a : ActionSet} {sets : List ActionSet} {seen : Disposition} {r r' r'' : Record}
    (hfirst : Turns [a] seen r r') (hrest : Turns sets seen r' r'') : Turns (a :: sets) seen r r'' where
  disposition := hrest.disposition.trans (congrArg _ hfirst.disposition)
  body := hrest.body.trans hfirst.body

/-- Views that show the same assignees lead to the same assignees. -/
lemma settleAll_assignees {seen seen' d e : Disposition} (hseen : seen.assignees = seen'.assignees)
    (sets : List ActionSet) (hd : d.assignees = e.assignees) :
    (settleAll (fun _ => seen) sets d).assignees = (settleAll (fun _ => seen') sets e).assignees := by
  induction sets generalizing d e with
  | nil => exact hd
  | cons a sets ih =>
    apply ih
    change d.assignees \ a.dropped seen.assignees ∪ _ = e.assignees \ a.dropped seen'.assignees ∪ _
    rw [hd, hseen]

/-- Of two views with the same assignees, only the labels can make a difference. -/
lemma Turns.agree {sets : List ActionSet} {seen seen' : Disposition} {r r₁ r₂ : Record}
    (h₁ : Turns sets seen r r₁) (h₂ : Turns sets seen' r r₂) (hseen : seen.assignees = seen'.assignees) :
    r₁.issue.body = r₂.issue.body ∧ r₁.disposition.assignees = r₂.disposition.assignees ∧
      r₁.disposition.state = r₂.disposition.state ∧ r₁.disposition.lock = r₂.disposition.lock ∧
      (r₁.disposition.labels = r₂.disposition.labels ↔
        ViewsMeet (fun _ => seen) (fun _ => seen') sets r.disposition) := by
  obtain ⟨hstate, hlock⟩ := settleAll_state_lock (fun _ => seen) (fun _ => seen') sets
    (rfl : r.disposition.state = _) rfl
  rw [h₁.disposition, h₂.disposition]
  exact ⟨h₁.body.trans h₂.body.symm, settleAll_assignees hseen sets rfl, hstate, hlock,
    labels_eq_iff_viewsMeet _ _ sets r.disposition⟩

lemma turns_bind {ε α β : Type} {x : Op ε α} {f : α → Op ε β} {sets : List ActionSet} {seen : Disposition}
    {n : Int} {r : Record} {t : Tracker} {h : Host}
    (hx : ∃ r', (x t h).2.record? n = some r' ∧ Turns sets seen r r')
    (hf : ∀ a h₁ r₁, h₁.record? n = some r₁ →
      ∃ r₂, (f a t h₁).2.record? n = some r₂ ∧ Turns [] seen r₁ r₂) :
    ∃ r', ((x >>= f) t h).2.record? n = some r' ∧ Turns sets seen r r' := by
  obtain ⟨r', hr', hturns⟩ := hx
  rcases hresult : x t h with ⟨e | a, h₁⟩
  · rw [hresult] at hr'
    rw [Op.bind_error hresult]
    exact ⟨r', hr', hturns⟩
  · rw [hresult] at hr'
    rw [Op.bind_ok hresult]
    obtain ⟨r₂, hr₂, hsame⟩ := hf a h₁ r' hr'
    exact ⟨r₂, hr₂, hsame.disposition.trans hturns.disposition, hsame.body.trans hturns.body⟩

/-- The action sets of marks that are applied in order. Those that are not configured or malformed are
passed over, and one whose block is out of all bounds stops the others. -/
def MarkReport.sets (marks : Blocks) : List String → List ActionSet
  | [] => []
  | name :: names =>
    match marks.mark? name with
    | .ok (some a) => a :: sets marks names
    | .ok none => sets marks names
    | .error (.configuration _) => sets marks names
    | .error _ => []

/-- The action set of a task that is tried, if there is such a task. -/
def Rule.tried (c : Configuration) (name : String) : List ActionSet :=
  (c.taskBlocks.toOption.bind fun tasks => (tasks.rule? name).toOption.join).toList.map (·.actions)

/-- The action sets that a command applies. -/
def Command.sets (c : Configuration) (command : Command) : List ActionSet :=
  if command.name = "checktask" then []
  else if command.name = "trytask" then Rule.tried c command.arguments
  else if command.name = "mark" then c.markBlocks.toOption.elim [] (MarkReport.sets · command.words)
  else []

lemma Command.trialReply_leaves (outcome : Except Failure (Option Execution)) (t : Tracker) (h : Host) :
    (trialReply outcome t h).2 = h := by
  unfold trialReply
  split <;> rfl

section Runs

variable {t : Tracker} {h : Host} {n : Int} {r s : Record} (hs : t.scope.fullName = t.home)
  (ht : ∀ log, t.fails log = none)

include hs ht

lemma ActionSet.execute_turns (hr : h.record? n = some r) (hn : s.number = n) (a : ActionSet) :
    ∃ h' r', a.execute s.issue t h = (.ok ⟨n, a.plan s.issue⟩, h') ∧ h'.record? n = some r' ∧
      Turns [a] s.disposition r r' := by
  obtain ⟨h', calls, hexecute, hadv, hd⟩ := execute_ok hs ht hr a hn
  have hr' := hadv.record? hr
  refine ⟨h', _, hexecute, hr', ?_, ?_⟩
  · rw [Host.disposition?, hr'] at hd
    exact Option.some.inj hd
  · rw [Record.only_of_eq (Host.record?_eq_some_iff.mp hr).2]
    exact congrArg (·.2.1) (Effect.authored_applyAll (a.plan s.issue) r)

lemma MarkReport.stepAll_turns (hn : s.number = n) (marks : Blocks) (names : List String)
    (hr : h.record? n = some r) (report : MarkReport) :
    ∃ outcome h' r', stepAll marks s.issue report names t h = (outcome, h') ∧ h'.record? n = some r' ∧
      Turns (sets marks names) s.disposition r r' := by
  induction names generalizing h r report with
  | nil => exact ⟨_, h, r, rfl, hr, turns_nil _ r⟩
  | cons name names ih =>
    rw [sets]
    cases hmark : marks.mark? name with
    | error failure =>
      cases failure with
      | configuration fault =>
        have hstep : step marks s.issue report name t h =
            (.ok { report with invalid := Entries.put name fault.message report.invalid }, h) := by
          rw [step, hmark]
          rfl
        obtain ⟨outcome, h', r', hrest, hlater⟩ := ih hr _
        exact ⟨outcome, h', r', (Op.bind_ok hstep _).trans hrest, hlater⟩
      | _ =>
        have hstep : ∃ e, step marks s.issue report name t h = (.error e, h) := by
          rw [step, hmark]
          exact ⟨_, rfl⟩
        obtain ⟨e, hstep⟩ := hstep
        exact ⟨.error e, h, r, Op.bind_error hstep _, hr, turns_nil _ r⟩
    | ok found =>
      cases found with
      | none =>
        have hstep : step marks s.issue report name t h =
            (.ok { report with unknown := report.unknown ++ [name] }, h) := by
          rw [step, hmark]
          rfl
        obtain ⟨outcome, h', r', hrest, hlater⟩ := ih hr _
        exact ⟨outcome, h', r', (Op.bind_ok hstep _).trans hrest, hlater⟩
      | some a =>
        obtain ⟨h₁, r₁, hexecute, hr₁, hfirst⟩ := ActionSet.execute_turns hs ht hr hn a
        have hstep := step_applied hmark hexecute report
        obtain ⟨outcome, h', r', hrest, hr', hlater⟩ := ih hr₁ _
        exact ⟨outcome, h', r', (Op.bind_ok hstep _).trans hrest, hr', hfirst.cons hlater⟩

lemma MarkReport.ofNames_turns (hr : h.record? n = some r) (hn : s.number = n) (c : Configuration)
    (names : List String) :
    ∃ r', (ofNames c s.issue names t h).2.record? n = some r' ∧
      Turns (c.markBlocks.toOption.elim [] (sets · names)) s.disposition r r' := by
  cases hblocks : c.markBlocks with
  | error e =>
    rw [ofNames_unnamed hblocks]
    exact ⟨r, hr, turns_nil _ r⟩
  | ok marks =>
    obtain ⟨outcome, h', r', hall, hr', hturns⟩ := stepAll_turns hs ht hn marks names hr {}
    rw [ofNames_eq hblocks, hall]
    exact ⟨r', hr', hturns⟩

lemma Rule.tryOn_turns (hr : h.record? n = some r) (hn : s.number = n) (c : Configuration) (name : String) :
    ∃ r', (tryOn c s.issue name t h).2.record? n = some r' ∧ Turns (tried c name) s.disposition r r' := by
  unfold tryOn tried
  cases c.taskBlocks with
  | error e => exact ⟨r, hr, turns_nil _ r⟩
  | ok tasks =>
    rw [Op.bind_ok (x := Op.ofExcept (.ok tasks)) rfl, Except.toOption, Option.bind_some]
    cases tasks.rule? name with
    | error e => exact ⟨r, hr, turns_nil _ r⟩
    | ok found =>
      cases found with
      | none => exact ⟨r, hr, turns_nil _ r⟩
      | some rule =>
        obtain ⟨h', r', hexecute, hr', hturns⟩ := ActionSet.execute_turns hs ht hr hn rule.actions
        have hlast := Op.bind_ok hexecute fun execution =>
          (return some execution : Op Failure (Option Execution))
        exact ⟨r', (congrArg (·.2.record? n) hlast).trans hr', hturns⟩

namespace Command

lemma answer_turns (hr : h.record? n = some r) (hn : s.number = n) (c : Configuration) (command : Command)
    (now : Moment) :
    ∃ r', (answer command c s.issue now t h).2.record? n = some r' ∧
      Turns (command.sets c) s.disposition r r' := by
  unfold answer sets
  split_ifs
  · obtain ⟨queries, hsearched⟩ := RuleCheck.all_searched c now s.issue.number command.words t h
    refine ⟨r, ?_, turns_nil _ r⟩
    rw [Op.bind_leaves fun _ _ _ => rfl, hsearched]
    exact hr
  · obtain ⟨r', hr', hturns⟩ := Rule.tryOn_turns hs ht hr hn c command.arguments
    refine ⟨r', ?_, hturns⟩
    rw [Op.bind_leaves fun outcome _ _ => trialReply_leaves outcome _ _]
    exact hr'
  · obtain ⟨r', hr', hturns⟩ := MarkReport.ofNames_turns hs ht hr hn c command.words
    refine ⟨r', ?_, hturns⟩
    rw [Op.bind_leaves fun _ _ _ => rfl]
    exact hr'
  · exact ⟨r, hr, turns_nil _ r⟩

/-- The answer to a command is posted, which leaves the disposition of the issue and its body. -/
lemma handle_turns (hr : h.record? n = some r) (hn : s.number = n) (c : Configuration) (body : Option String)
    (now : Moment) :
    ∃ r', (handle c s.issue body now t h).2.record? n = some r' ∧
      Turns ((parse? body).elim [] (sets c)) s.disposition r r' := by
  unfold handle
  cases parse? body with
  | none => exact ⟨r, hr, turns_nil _ r⟩
  | some command =>
    refine turns_bind (answer_turns hs ht hr hn c command now) fun reply h₁ r₁ hr₁ => ?_
    cases reply with
    | none => exact ⟨r₁, hr₁, turns_nil _ r₁⟩
    | some text =>
      obtain ⟨h₂, hcomment, hadv⟩ := Tracker.alter_ok hs hr₁ (c := .comment text) rfl
        (Tracker.spares_of_fails ht _) (.comment n)
      have hposted : ((do
          Tracker.comment s.issue.number text
          return some text : Op Failure (Option String)) t h₁).2 = h₂ := by
        have hnumber : s.issue.number = n := hn
        rw [Op.bind_leaves fun _ _ _ => rfl, hnumber, Tracker.comment, hcomment]
      have hr₂ := hadv.record? hr₁
      rw [Record.only_of_eq (Host.record?_eq_some_iff.mp hr₁).2] at hr₂
      exact ⟨r₁.after (.comment text), hposted ▸ hr₂, rfl, rfl⟩

end Command

end Runs

namespace Event

open Duplicate (Consequence)

/-- The first half of what is done when a comment is posted: its reference is looked at. -/
def refer (c : Configuration) (issue : Issue) (payload : Json) : Op Failure (Option Consequence) := do
  let body ← Op.ofExcept (commentBody payload)
  let previous ← Op.ofExcept (Payload.previousBody payload)
  handleComment c.duplicates .created issue body previous

/-- The second half: its command is carried out. -/
def command (c : Configuration) (issue : Issue) (payload : Json) (now : Moment) :
    Op Failure (Option String) := do
  let body ← Op.ofExcept (commentBody payload)
  handleCommand c issue body now

/-- Both halves, with the issue read anew between them. -/
def inTurn (c : Configuration) (issue : Issue) (payload : Json) (now : Moment) :
    Op Failure (Option String) := do
  let _ ← refer c issue payload
  let anew ← Tracker.getIssue issue.number
  command c anew payload now

/-- The action sets that a comment has applied when it is posted. -/
def sets (c : Configuration) (payload : Json) : List ActionSet :=
  match commentText payload with
  | .ok text => (Command.parse? text).elim [] (Command.sets c)
  | .error _ => []

/-- Whether an issue is marked with a label when a comment is posted. -/
def Marks (c : Configuration) (issue : Issue) (payload : Json) (t : Tracker) (h : Host) (label : String) :
    Prop :=
  ∃ s target, c.duplicates = some s ∧ s.label = label ∧
    (refer c issue payload t h).1 = .ok (some (.mark target))

/-- Whether removals come to the same with some labels in view as with the one label of a mark: where the
last action set that overwrites the labels does so by removal, every label that it keeps and that no action
set from there on adds is in view just when it is the label of the mark. -/
def RemovalsMeet (seen : Finset String) (label : String) (sets : List ActionSet) : Prop :=
  ∀ front a rest targets, sets = front ++ a :: rest → ActionSet.given a.replaceLabels = none →
    ActionSet.given a.removeLabels = some targets → (∀ b ∈ rest, ¬b.Overwrites) →
    ∀ l, l ∉ targets → (∀ b ∈ a :: rest, l ∉ b.addLabels.getD []) → (l ∈ seen ↔ l = label)

lemma viewsMeet_iff_removalsMeet (seen d : Disposition) (sets : List ActionSet) {seen' : Disposition}
    {label : String} (hseen' : seen'.labels = {label}) :
    ViewsMeet (fun _ => seen) (fun _ => seen') sets d ↔ RemovalsMeet seen.labels label sets := by
  unfold ViewsMeet RemovalsMeet
  simp only [hseen', Finset.mem_singleton]

/-- What became of an issue when the reference of a comment on it was looked at. -/
inductive Referred (c : Configuration) (r r' : Record) : Except Failure (Option Consequence) → Prop
  | nothing (h : r' = r) : Referred c r r' (.ok none)
  | stopped (e : Failure) : Referred c r r' (.error e)
  | marked {s : DuplicateSettings} {target : Nat} (hs : c.duplicates = some s)
      (h : r'.disposition = { r.disposition with labels := {s.label} }) :
      Referred c r r' (.ok (some (.mark target)))

variable {c : Configuration} {issue : Issue} {payload : Json} {event : String} {now : Moment}
  {t : Tracker} {h : Host} {n : Int} {r s : Record}

lemma handle_created (hkey : key event payload = .ok "issue_comment.created")
    (hissue : (do Issue.ofJson (← Payload.get "issue" payload)) = .ok issue) :
    (handle event payload c now t h).2 = ((do
      let _ ← refer c issue payload
      command c issue payload now : Op Failure (Option String)) t h).2 := by
  have hholds : Payload.holds "issue" payload = .ok true := by
    cases payload with
    | obj fields =>
      rw [Payload.holds]
      cases hget : Entries.get? ("issue" : CodeText) fields with
      | some value => rfl
      | none =>
        rw [Payload.get, hget] at hissue
        cases hissue
    | _ => cases hissue
  unfold handle
  rw [hkey, hholds, hissue]
  refine (Op.bind_leaves (x := react "issue_comment.created" c issue payload now) fun _ _ _ => rfl).trans ?_
  have hreact : react "issue_comment.created" c issue payload now = (do
      let body ← Op.ofExcept (commentBody payload)
      let previous ← Op.ofExcept (Payload.previousBody payload)
      let _ ← handleComment c.duplicates .created issue body previous
      let _ ← handleCommand c issue body now
      return true) := rfl
  rw [hreact]
  unfold refer command
  cases commentBody payload with
  | error e => rfl
  | ok body =>
    cases Payload.previousBody payload with
    | error e => rfl
    | ok previous =>
      change ((do
        let _ ← handleComment c.duplicates .created issue body previous
        let _ ← handleCommand c issue body now
        return true : Op Failure Bool) t h).2 = ((do
        let _ ← handleComment c.duplicates .created issue body previous
        handleCommand c issue body now : Op Failure (Option String)) t h).2
      rcases hfirst : handleComment c.duplicates .created issue body previous t h with ⟨e | referred, h₁⟩
      · rw [Op.bind_error hfirst, Op.bind_error hfirst]
      · rw [Op.bind_ok hfirst, Op.bind_ok hfirst]
        exact Op.bind_leaves fun _ _ _ => rfl

section Calm

variable (c) (payload) (now) (hs : t.scope.fullName = t.home) (ht : ∀ log, t.fails log = none)

include hs ht

lemma command_turns (hr : h.record? n = some r) (hn : s.number = n) :
    ∃ r', (command c s.issue payload now t h).2.record? n = some r' ∧
      Turns (sets c payload) s.disposition r r' := by
  unfold command sets commentText
  cases commentBody payload with
  | error e => exact ⟨r, hr, turns_nil _ r⟩
  | ok body =>
    change ∃ r', (handleCommand c s.issue body now t h).2.record? n = some r' ∧
      Turns (match Payload.bodyText body with
        | .ok text => (Command.parse? text).elim [] (Command.sets c)
        | .error _ => []) s.disposition r r'
    unfold handleCommand
    cases Payload.bodyText body with
    | error e => exact ⟨r, hr, turns_nil _ r⟩
    | ok text => exact Command.handle_turns hs ht hr hn c text now

/-- A mark is made whole, or its number cannot be stored and nothing is changed. -/
lemma perform_mark (hr : h.record? n = some r) (settings : DuplicateSettings) (target : Nat) :
    (∃ e h₁, Duplicate.perform settings n (.mark target) t h = (.error e, h₁) ∧ h₁.record? n = some r) ∨
      ∃ h₁ r₁, Duplicate.perform settings n (.mark target) t h = (.ok (), h₁) ∧ h₁.record? n = some r₁ ∧
        r₁.disposition = { r.disposition with labels := {settings.label} } := by
  have hn : r.number = n := (Host.record?_eq_some_iff.mp hr).2
  rcases Tracker.setMetadata_cases hs Duplicate.metadataKey (.int target) with
    ⟨e, h₁, herror, calls, hadv⟩ | ⟨-, body, h₁, -, -, hok, calls, hadv⟩
  · exact .inl ⟨e, h₁, Op.bind_error herror _, hadv.record? hr⟩
  · have hr₁ := hadv.record? hr
    rw [Record.only_of_eq hn] at hr₁
    obtain ⟨h₂, hlabels, hadv₂⟩ := Tracker.alter_ok hs hr₁ (c := .setLabels [settings.label]) rfl
      (Tracker.spares_of_fails ht _) (.replaceLabels n)
    have hr₂ := hadv₂.record? hr₁
    rw [Record.only_of_eq (Host.record?_eq_some_iff.mp hr₁).2] at hr₂
    refine .inr ⟨h₂, _, (Op.bind_ok hok _).trans hlabels, hr₂, ?_⟩
    rfl

lemma handleComment_cases (hr : h.record? issue.number = some r) {settings : DuplicateSettings}
    (hsettings : c.duplicates = some settings) (hopen : issue.isOpen = true) (text : Option String) :
    ∃ outcome h₁ r₁, Duplicate.handleComment (some settings) .created issue text none t h = (outcome, h₁) ∧
      h₁.record? issue.number = some r₁ ∧ Referred c r r₁ outcome := by
  unfold Duplicate.handleComment
  simp only [hopen, if_true]
  rw [Op.bind_ok (x := Op.digitLimit) rfl]
  have hconsequence : Duplicate.consequence t.digits .created text none =
      (Duplicate.reference t.digits text).map fun target => target.map .mark := by
    unfold Duplicate.consequence
    cases Duplicate.reference t.digits text <;> rfl
  rw [hconsequence]
  rcases Duplicate.reference t.digits text with fault | - | target
  · exact ⟨_, h, r, rfl, hr, .stopped _⟩
  · exact ⟨_, h, r, rfl, hr, .nothing rfl⟩
  · rcases perform_mark hs ht hr settings target with ⟨e, h₁, herror, hr₁⟩ | ⟨h₁, r₁, hok, hr₁, hd⟩
    · exact ⟨_, h₁, r, Op.bind_error herror _, hr₁, .stopped e⟩
    · exact ⟨_, h₁, r₁, (Op.bind_ok hok _).trans rfl, hr₁, .marked hsettings hd⟩

lemma refer_cases (hr : h.record? issue.number = some r) :
    ∃ outcome h₁ r₁, refer c issue payload t h = (outcome, h₁) ∧ h₁.record? issue.number = some r₁ ∧
      Referred c r r₁ outcome := by
  unfold refer
  cases commentBody payload with
  | error e => exact ⟨_, h, r, rfl, hr, .stopped e⟩
  | ok body =>
    cases Payload.previousBody payload with
    | error e => exact ⟨_, h, r, rfl, hr, .stopped e⟩
    | ok previous =>
      change ∃ outcome h₁ r₁, handleComment c.duplicates .created issue body previous t h = (outcome, h₁) ∧
        h₁.record? issue.number = some r₁ ∧ Referred c r r₁ outcome
      unfold handleComment Duplicate.isTracked
      cases hsettings : c.duplicates with
      | none => exact ⟨_, h, r, rfl, hr, .nothing rfl⟩
      | some settings =>
        by_cases hopen : issue.isOpen = true
        · simp only [hopen, Option.isSome_some, Bool.and_self, if_true]
          cases Payload.bodyText body with
          | error e => exact ⟨_, h, r, rfl, hr, .stopped e⟩
          | ok present => exact handleComment_cases c hs ht hr hsettings hopen present
        · simp only [hopen]
          exact ⟨_, h, r, rfl, hr, .nothing rfl⟩

/-- After the reference of a comment was looked at, its command is carried out on one issue with two views
of it, and only the labels in them can make a difference. -/
lemma both_agree {referred : Option Consequence} {h₁ : Host}
    (hkey : key event payload = .ok "issue_comment.created")
    (hissue : (do Issue.ofJson (← Payload.get "issue" payload)) = .ok issue)
    (hrefer : refer c issue payload t h = (.ok referred, h₁)) (hr₁ : h₁.record? issue.number = some r)
    (hassignees : issue.assigneeLogins.toFinset = r.disposition.assignees) :
    ∃ r₁ r₂, (handle event payload c now t h).2.record? issue.number = some r₁ ∧
      (inTurn c issue payload now t h).2.record? issue.number = some r₂ ∧
      r₁.issue.body = r₂.issue.body ∧
      r₁.disposition.assignees = r₂.disposition.assignees ∧
      r₁.disposition.state = r₂.disposition.state ∧ r₁.disposition.lock = r₂.disposition.lock ∧
      (r₁.disposition.labels = r₂.disposition.labels ↔ ViewsMeet
        (fun _ => ({ issue := issue } : Record).disposition) (fun _ => r.disposition)
        (sets c payload) r.disposition) := by
  obtain ⟨r₁, hstale, hturns₁⟩ := command_turns c payload now (s := { issue := issue }) hs ht hr₁ rfl
  have hread : (h₁.logged (.fetch issue.number)).record? issue.number = some r := hr₁
  have hn : r.number = issue.number := (Host.record?_eq_some_iff.mp hr₁).2
  obtain ⟨r₂, hanew, hturns₂⟩ := command_turns c payload now (s := r) hs ht hread hn
  refine ⟨r₁, r₂, ?_, ?_, hturns₁.agree hturns₂ hassignees⟩
  · rw [handle_created hkey hissue, Op.bind_ok hrefer]
    exact hstale
  · rw [inTurn, Op.bind_ok hrefer, Op.bind_ok (Tracker.getIssue_ok hs ht hr₁)]
    exact hanew

end Calm

/-- A comment that is posted with an up-to-date snapshot of its issue is handled as if its command were
carried out on the issue read anew, after its reference was looked at: the body of the issue, with the
metadata in it, the assignees, the state and the lock are the same. The labels are so too unless the issue
is marked and the command does not remove labels from those of the mark alone. -/
theorem handle_created_eq_inTurn_iff (event : String) (payload : Json) (c : Configuration) (now : Moment)
    (t : Tracker) (h : Host) (issue : Issue) (r : Record) (hs : t.scope.fullName = t.home)
    (ht : ∀ log, t.fails log = none) (hkey : key event payload = .ok "issue_comment.created")
    (hissue : (do Issue.ofJson (← Payload.get "issue" payload)) = .ok issue)
    (hr : h.record? issue.number = some r)
    (hlabels : issue.labelNames.toFinset = r.disposition.labels)
    (hassignees : issue.assigneeLogins.toFinset = r.disposition.assignees) :
    ∃ r₁ r₂, (handle event payload c now t h).2.record? issue.number = some r₁ ∧
      (inTurn c issue payload now t h).2.record? issue.number = some r₂ ∧
      r₁.issue.body = r₂.issue.body ∧
      r₁.disposition.assignees = r₂.disposition.assignees ∧
      r₁.disposition.state = r₂.disposition.state ∧ r₁.disposition.lock = r₂.disposition.lock ∧
      (r₁.disposition.labels = r₂.disposition.labels ↔ ∀ label, Marks c issue payload t h label →
        RemovalsMeet r.disposition.labels label (sets c payload)) := by
  obtain ⟨outcome, h₁, r₀, hrefer, hr₀, hreferred⟩ := refer_cases c payload hs ht hr
  have hmarks (label : String) (hmark : Marks c issue payload t h label) : ∃ s target,
      c.duplicates = some s ∧ s.label = label ∧ outcome = .ok (some (.mark target)) := by
    obtain ⟨s, target, hsettings, hlabel, hmarked⟩ := hmark
    rw [hrefer] at hmarked
    exact ⟨s, target, hsettings, hlabel, hmarked⟩
  cases hreferred with
  | stopped e =>
    refine ⟨r₀, r₀, ?_, ?_, rfl, rfl, rfl, rfl, iff_of_true rfl ?_⟩
    · rw [handle_created hkey hissue, Op.bind_error hrefer]
      exact hr₀
    · rw [inTurn, Op.bind_error hrefer]
      exact hr₀
    · intro label hmark
      obtain ⟨s, target, -, -, hmarked⟩ := hmarks label hmark
      cases hmarked
  | nothing hsame =>
    obtain rfl := hsame
    obtain ⟨r₁, r₂, hstale, hanew, hbody, hassigned, hstate, hlock, hlabeled⟩ :=
      both_agree c payload now hs ht hkey hissue hrefer hr₀ hassignees
    refine ⟨r₁, r₂, hstale, hanew, hbody, hassigned, hstate, hlock, iff_of_true (hlabeled.mpr ?_) ?_⟩
    · intro front a rest targets _ _ _ _ l _ _
      exact Finset.ext_iff.mp hlabels l
    · intro label hmark
      obtain ⟨s, target, -, -, hmarked⟩ := hmarks label hmark
      cases hmarked
  | @marked settings target hsettings hmarked =>
    have hview : issue.assigneeLogins.toFinset = r₀.disposition.assignees := by
      rw [hmarked]
      exact hassignees
    obtain ⟨r₁, r₂, hstale, hanew, hbody, hassigned, hstate, hlock, hlabeled⟩ :=
      both_agree c payload now hs ht hkey hissue hrefer hr₀ hview
    have hmeet := viewsMeet_iff_removalsMeet ({ issue := issue } : Record).disposition r₀.disposition
      (sets c payload) (congrArg Disposition.labels hmarked)
    refine ⟨r₁, r₂, hstale, hanew, hbody, hassigned, hstate, hlock, (hlabeled.trans hmeet).trans ?_⟩
    rw [← hlabels]
    constructor
    · intro hremovals label hmark
      obtain ⟨s, -, hsettings', rfl, -⟩ := hmarks label hmark
      rw [hsettings] at hsettings'
      obtain rfl := Option.some.inj hsettings'
      exact hremovals
    · intro hall
      refine hall settings.label ⟨settings, target, hsettings, rfl, ?_⟩
      rw [hrefer]

/-- The crowded issue as an event shows it. -/
def crowdedSnapshot : Issue where
  number := 4
  state := "open"
  labels := [⟨"stale", "", none⟩, ⟨"kept", "", none⟩, ⟨"bug", "", none⟩]
  assignees := [⟨"bob", none⟩, ⟨"ann", none⟩]

/-- The event that a comment was posted on the crowded issue. -/
def crowdedPayload (text : String) : Json :=
  .obj [("action", .str "created"),
    ("issue", .obj [("number", .int 4), ("state", .str "open"),
      ("labels", .arr [.obj [("name", .str "stale")], .obj [("name", .str "kept")],
        .obj [("name", .str "bug")]]),
      ("assignees", .arr [.obj [("login", .str "bob")], .obj [("login", .str "ann")]])]),
    ("comment", .obj [("body", .str text)])]

def trackedDesk : Configuration := { MarkReport.deskMarks with duplicates := some { label := "duplicate" } }

def takePayload : Json := crowdedPayload "Duplicate of #5\n/mark take"

def tidyPayload : Json := crowdedPayload "Duplicate of #5\n/mark tidy"

/-- The issue is marked and taken, whatever the command sees. -/
theorem handle_created_eq_inTurn_take : ∃ r₁ r₂,
    (handle "issue_comment" takePayload trackedDesk midnight quietTracker crowdedHost).2.record? 4 =
      some r₁ ∧
    (inTurn trackedDesk crowdedSnapshot takePayload midnight quietTracker crowdedHost).2.record? 4 =
      some r₂ ∧
    r₁.issue.body = r₂.issue.body ∧ r₁.disposition = r₂.disposition ∧
    r₁.disposition = ⟨{"duplicate", "taken"}, {"bob", "ann", "eve"}, "open", false, none⟩ := by
  obtain ⟨r₁, r₂, hstale, hanew, hbody, hassignees, hstate, hlock, hlabels⟩ :=
    handle_created_eq_inTurn_iff "issue_comment" takePayload trackedDesk midnight quietTracker crowdedHost
      crowdedSnapshot crowdedRecord rfl (fun _ => rfl) rfl rfl rfl rfl rfl
  have hsets : sets trackedDesk takePayload = [MarkReport.take] := by decide +kernel
  have hmeet (label : String) :
      RemovalsMeet crowdedRecord.disposition.labels label (sets trackedDesk takePayload) := by
    intro front a rest targets happlied _ hremove
    have ha : a ∈ sets trackedDesk takePayload := by simp [happlied]
    rw [hsets, List.mem_singleton] at ha
    rw [ha] at hremove
    cases hremove
  have hend : (handle "issue_comment" takePayload trackedDesk midnight quietTracker
      crowdedHost).2.disposition? 4 =
      some ⟨{"duplicate", "taken"}, {"bob", "ann", "eve"}, "open", false, none⟩ := by decide +kernel
  refine ⟨r₁, r₂, hstale, hanew, hbody, ?_, ?_⟩
  · ext1
    · exact hlabels.mpr fun label _ => hmeet label
    · exact hassignees
    · exact hstate
    · exact hlock
  · have hr₁ : (handle "issue_comment" takePayload trackedDesk midnight quietTracker
        crowdedHost).2.record? 4 = some r₁ := hstale
    rw [Host.disposition?, hr₁] at hend
    exact Option.some.inj hend

/-- Tidying brings back the labels that the mark of the same comment took off. -/
theorem handle_created_ne_inTurn_tidy :
    key "issue_comment" tidyPayload = .ok "issue_comment.created" ∧
      (do Issue.ofJson (← Payload.get "issue" tidyPayload)) = .ok crowdedSnapshot ∧
      (crowdedHost.record? 4).map (fun r => (r.issue.labelNames, r.issue.assigneeLogins)) =
        some (crowdedSnapshot.labelNames, crowdedSnapshot.assigneeLogins) ∧
      (handle "issue_comment" tidyPayload trackedDesk midnight quietTracker crowdedHost).2.disposition? 4 =
        some ⟨{"kept", "bug"}, ∅, "open", false, none⟩ ∧
      (inTurn trackedDesk crowdedSnapshot tidyPayload midnight quietTracker
        crowdedHost).2.disposition? 4 = some ⟨{"duplicate"}, ∅, "open", false, none⟩ := by
  refine ⟨rfl, rfl, rfl, ?_, ?_⟩
  · decide +kernel
  · decide +kernel

end Event

end Triage
