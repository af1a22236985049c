import Mathlib
import Triage.Proofs.CommandLines
import Triage.Proofs.Redelivery
import Triage.Proofs.TaskChecks

/-!
# Commands in the answers to commands

An answer quotes names, queries and messages, each behind some text of its own on the same line and
mostly between other text. So an answer is no reference to a duplicate, and it holds a command exactly
when one of the quoted texts breaks off its line and goes on with one in the next.
-/

namespace Triage

namespace MarkReport

variable {marks : Blocks} {issue : Issue} {names : List String} {report : MarkReport} {t : Tracker}
  {h h' : Host}

/-- The marks that a report finds fault with are among the names. -/
structure About (names : List String) (r : MarkReport) : Prop where
  unknown : ∀ name ∈ r.unknown, name ∈ names
  invalid : ∀ e ∈ r.invalid, e.1 ∈ names
  failed : ∀ e ∈ r.failed, e.1 ∈ names

lemma mem_of_mem_put {name message : String} {es : List (String × String)} (hname : name ∈ names)
    (hes : ∀ e ∈ es, e.1 ∈ names) : ∀ e ∈ Entries.put name message es, e.1 ∈ names := by
  intro e he
  rcases Entries.mem_put he with rfl | he
  · exact hname
  · exact hes e he

lemma About.step {name : String} {report' : MarkReport} (hreport : About names report)
    (hname : name ∈ names) (hstep : step marks issue report name t h = (.ok report', h')) :
    About names report' := by
  unfold MarkReport.step at hstep
  cases hmark : marks.mark? name with
  | error failure =>
    rw [hmark] at hstep
    cases failure with
    | configuration fault =>
      cases hstep
      exact { hreport with invalid := mem_of_mem_put hname hreport.invalid }
    | _ => cases hstep
  | ok found =>
    rw [hmark] at hstep
    cases found with
    | none =>
      cases hstep
      refine { hreport with unknown := ?_ }
      rw [List.forall_mem_append, List.forall_mem_singleton]
      exact ⟨hreport.unknown, hname⟩
    | some actions =>
      obtain ⟨outcome, h₁, -, hlast⟩ := Op.bind_eq_ok.mp hstep
      cases outcome with
      | ok execution =>
        cases hlast
        exact { hreport with }
      | error failure =>
        cases hlast
        exact { hreport with failed := mem_of_mem_put hname hreport.failed }

lemma About.stepAll {rest : List String} {report' : MarkReport} (hreport : About names report)
    (hrest : ∀ name ∈ rest, name ∈ names)
    (hall : stepAll marks issue report rest t h = (.ok report', h')) : About names report' := by
  induction rest generalizing report h with
  | nil =>
    cases hall
    exact hreport
  | cons name rest ih =>
    rw [List.forall_mem_cons] at hrest
    obtain ⟨next, h₁, hstep, hall⟩ := Op.bind_eq_ok.mp hall
    exact ih (hreport.step hrest.1 hstep) hrest.2 hall

theorem about_ofNames {c : Configuration} (hrun : ofNames c issue names t h = (.ok report, h')) :
    About names report := by
  obtain ⟨marks, h₁, -, hall⟩ := Op.bind_eq_ok.mp hrun
  have hempty : About names {} := ⟨by simp, by simp, by simp⟩
  exact hempty.stepAll (fun _ h => h) hall

end MarkReport

namespace Command

section Answers

/-- The texts that the row of a check quotes. -/
def quoted (check : RuleCheck) : List String :=
  check.name :: (check.error.toList ++ check.query.toList)

lemma guards_checkRow (check : RuleCheck) : Guards (checkRow check).toList := by
  unfold checkRow
  exact guards_append (guards_append (guards_append (by decide) _) _) _

lemma opensLater_row (name cells : String) : OpensLater ("| " ++ code name ++ " | " ++ cells).toList ↔
    OpensLater name.toList ∨ OpensLater cells.toList := by
  have hrow : "| " ++ code name ++ " | " ++ cells =
      ("| " ++ "\x60") ++ (name ++ (("\x60" ++ " | ") ++ cells)) := by
    simp only [code, String.append_assoc, -String.reduceAppend]
  rw [hrow]
  exact opensLater_between _ name _ cells (by decide) (by decide) (by decide)

lemma opensLater_checkRow {check : RuleCheck} (h : check.error = none ∨ check.query = none) :
    OpensLater (checkRow check).toList ↔ ∃ text ∈ quoted check, OpensLater text.toList := by
  obtain ⟨name, query, found, error⟩ := check
  simp only [checkRow, opensLater_row, quoted, List.exists_mem_cons_iff]
  refine or_congr_right ?_
  have hverdict : ∀ query, OpensLater (code query ++ " | " ++
      (if found = true then ":heavy_check_mark:" else ":x:") ++ " |").toList ↔ OpensLater query.toList := by
    intro query
    have hcells : code query ++ " | " ++ (if found = true then ":heavy_check_mark:" else ":x:") ++ " |" =
        "\x60" ++ (query ++ (("\x60" ++ " | ") ++
          ((if found = true then ":heavy_check_mark:" else ":x:") ++ " |"))) := by
      simp only [code, String.append_assoc, -String.reduceAppend]
    rw [hcells, opensLater_between _ query _ _ (by decide) (by decide) (by decide), or_iff_left]
    apply not_opensLater
    cases found <;> decide
  cases error with
  | none =>
    cases query with
    | none => simpa [RuleCheck.missing] using not_opensLater (by decide)
    | some query => simpa [RuleCheck.missing] using hverdict query
  | some error =>
    obtain rfl : query = none := by simpa using h
    -- an error without a text is passed over, and then there is no query either
    by_cases he : error = ""
    · have hnone := (hverdict "None").not.mpr (not_opensLater (by decide))
      simpa [RuleCheck.missing, Option.filter_some, he] using iff_of_false hnone not_opensLater_nil
    · have hcells : OpensLater (error ++ " | |").toList ↔ OpensLater error.toList := by
        rw [String.toList_append, opensLater_append (by decide)]
        exact or_iff_left (not_opensLater (by decide))
      simpa [Option.filter_some, he] using hcells

/-- The answer is the texts in such frames that a command in it is one in a later line of a text. -/
structure Frames (texts : List String) (reply : String) : Prop where
  guards : Guards reply.toList
  opensLater : OpensLater reply.toList ↔ ∃ text ∈ texts, OpensLater text.toList

lemma Frames.find?_eq_none_iff {texts : List String} {reply : String} (h : Frames texts reply) :
    find? reply = none ↔ ∀ text ∈ texts, ¬OpensLater text.toList := by
  rw [Command.find?_eq_none_iff, and_iff_right h.guards.not_opens, h.opensLater]
  simp only [not_exists, not_and]

/-- No answer begins like a reference. -/
lemma Frames.reference_eq {texts : List String} {reply : String} (h : Frames texts reply)
    (limit : DigitLimit) : Duplicate.reference limit (some reply) = .ok none := by
  have hguards := h.guards
  have hdrop : Text.dropLiteral? Duplicate.referenceLead reply.toList = none := by
    cases hreply : Text.dropLiteral? Duplicate.referenceLead reply.toList with
    | none => rfl
    | some rest =>
      rw [Text.eq_append_of_dropLiteral? hreply] at hguards
      exact absurd (guards_cons.mp hguards).2 (by decide)
  rw [Duplicate.reference, Duplicate.referenceIn, hdrop]

lemma frames_nil {reply : String} (hguard : Guards reply.toList) (hreply : '\n' ∉ reply.toList) :
    Frames [] reply :=
  ⟨hguard, by simpa using not_opensLater hreply⟩

/-- A message behind the beginning of a line. -/
lemma frames_message {lead : String} (hguard : Guards lead.toList) (hlead : '\n' ∉ lead.toList)
    (message : String) : Frames [message] (lead ++ message) := by
  refine ⟨guards_append hguard message, ?_⟩
  rw [String.toList_append, opensLater_append_right hlead]
  simp

lemma frames_checkRow {check : RuleCheck} (h : check.error = none ∨ check.query = none) :
    Frames (quoted check) (checkRow check) :=
  ⟨guards_checkRow check, opensLater_checkRow h⟩

lemma Frames.lines {texts more : List String} {row rest : String} (h : Frames texts row)
    (hrest : Frames more rest) : Frames (texts ++ more) (row ++ ("\n" ++ rest)) := by
  have hfeed : Guards ("\n" ++ rest).toList := guards_append (by decide) rest
  have hlater : OpensLater ("\n" ++ rest).toList ↔ OpensLater rest.toList := by
    rw [String.toList_append]
    refine opensLater_cons.trans (or_iff_right ?_)
    exact fun hopens => hrest.guards.not_opens hopens.2
  refine ⟨guards_append h.guards _, ?_⟩
  rw [String.toList_append, opensLater_append hfeed, hlater, h.opensLater, hrest.opensLater]
  simp only [List.mem_append, or_and_right, exists_or]

lemma frames_join {texts : List (List String)} {rows : List String} (h : List.Forall₂ Frames texts rows)
    (hne : rows ≠ []) : Frames texts.flatten (Text.join "\n" rows) := by
  induction h with
  | nil => exact absurd rfl hne
  | cons hrow hrows ih =>
    cases hrows with
    | nil => simpa [Text.join] using hrow
    | cons _ _ =>
      rw [Text.join_cons_cons, List.flatten_cons]
      exact hrow.lines (ih (List.cons_ne_nil _ _))

/-- A table of checks is its two head lines and a row for each check. -/
lemma frames_checkTable {checks : List RuleCheck}
    (h : ∀ check ∈ checks, check.error = none ∨ check.query = none) :
    Frames (checks.flatMap quoted) (checkTable checks) := by
  cases hchecks : checks with
  | nil => exact frames_nil (by decide) (by decide)
  | cons check rest =>
    have hrows : List.Forall₂ Frames (checks.map quoted) (checks.map checkRow) := by
      rw [List.forall₂_map_left_iff, List.forall₂_map_right_iff, List.forall₂_same]
      exact fun check hcheck => frames_checkRow (h check hcheck)
    have hhead : Frames [] "| Task | Query | Found |" := frames_nil (by decide) (by decide)
    have hrule : Frames [] "| - | - | - |" := frames_nil (by decide) (by decide)
    have htable : checkTable checks = "| Task | Query | Found |" ++ ("\n" ++ ("| - | - | - |" ++ ("\n" ++
        Text.join "\n" (checks.map checkRow)))) := by
      rw [hchecks]
      simp [checkTable, ← String.append_assoc]
    rw [← hchecks, htable]
    exact hhead.lines (hrule.lines (frames_join hrows (by simp [hchecks])))

/-- A trial of a task quotes at most the fault of the task. -/
lemma frames_trialReply {outcome : Except Failure (Option Execution)} {reply : String} {t : Tracker}
    {h h₁ : Host} (hreply : trialReply outcome t h = (.ok (some reply), h₁)) :
    (outcome = .ok none ∧ Frames [] reply) ∨
      ∃ fault, outcome = .error (.configuration fault) ∧ Frames [fault.message] reply := by
  cases outcome with
  | ok found =>
    cases found with
    | none =>
      cases hreply
      exact .inl ⟨rfl, frames_nil (by decide) (by decide)⟩
    | some execution => cases hreply
  | error failure =>
    cases failure with
    | configuration fault =>
      cases hreply
      exact .inr ⟨fault, rfl, frames_message (by decide) (by decide) _⟩
    | _ => cases hreply

/-- Of the problem with a mark only the message matters. -/
lemma frames_marks {middle : String} {es : List (String × String)} (hmiddle : '\n' ∉ middle.toList)
    (hes : ∀ e ∈ es, '\n' ∉ e.1.toList) : List.Forall₂ Frames (es.map fun e => [e.2])
      (es.map fun e => code "/mark" ++ middle ++ code e.1 ++ ": " ++ e.2) := by
  rw [List.forall₂_map_left_iff, List.forall₂_map_right_iff, List.forall₂_same]
  intro e he
  apply frames_message
  · exact guards_append (guards_append (guards_append (by decide) _) _) _
  · simp [code, hmiddle, hes e he]

lemma frames_unknown {unknown : List String} (h : ∀ name ∈ unknown, '\n' ∉ name.toList) :
    Frames [] (code "/mark" ++ " couldn't find these keys in configuration: " ++
      Text.join ", " (unknown.map code)) := by
  have hjoin : '\n' ∉ (Text.join ", " (unknown.map code)).toList := by
    apply Text.notMem_join (by decide)
    rw [List.forall_mem_map]
    intro name hname
    simpa [code] using h name hname
  apply frames_nil
  · exact guards_append (guards_append (by decide) _) _
  · simp [code, hjoin]

lemma frames_markProblems {report : MarkReport} {names : List String} (habout : report.About names)
    (hnames : ∀ name ∈ names, '\n' ∉ name.toList) (hne : markProblems report ≠ []) :
    Frames (report.invalid.map Prod.snd ++ report.failed.map Prod.snd)
      (Text.join "\n" (markProblems report)) := by
  have hinvalid : List.Forall₂ Frames _ (report.invalid.map fun e =>
      code "/mark" ++ " couldn't use " ++ code e.1 ++ ": " ++ e.2) :=
    frames_marks (by decide) fun e he => hnames e.1 (habout.invalid e he)
  have hfailed : List.Forall₂ Frames _ (report.failed.map fun e =>
      code "/mark" ++ " couldn't apply " ++ code e.1 ++ ": " ++ e.2) :=
    frames_marks (by decide) fun e he => hnames e.1 (habout.failed e he)
  have hflat : ∀ es : List (String × String), (es.map fun e => [e.2]).flatten = es.map Prod.snd := by
    intro es
    rw [← List.flatMap_def, ← List.map_eq_flatMap]
  have hunknown : ∃ silent : List (List String), silent.flatten = [] ∧ List.Forall₂ Frames silent
      (if report.unknown.isEmpty then [] else [code "/mark" ++
        " couldn't find these keys in configuration: " ++ Text.join ", " (report.unknown.map code)]) := by
    by_cases hempty : report.unknown.isEmpty = true
    · rw [if_pos hempty]
      exact ⟨[], rfl, .nil⟩
    · rw [if_neg hempty]
      have hplain := frames_unknown fun name hname => hnames name (habout.unknown name hname)
      exact ⟨[[]], rfl, .cons hplain .nil⟩
  obtain ⟨silent, hsilent, hunknown⟩ := hunknown
  have hall : List.Forall₂ Frames _ (markProblems report) :=
    List.rel_append (List.rel_append hunknown hinvalid) hfailed
  have hframes := frames_join hall hne
  rwa [List.flatten_append, List.flatten_append, hsilent, hflat, hflat, List.nil_append] at hframes

end Answers

section Runs

variable {c : Configuration} {issue : Issue} {now : Moment} {t : Tracker} {h h' : Host} {command : Command}
  {reply : String}

/-- The texts that the answer to a command quotes, apart from the names of marks, which are words. -/
inductive Quotes (c : Configuration) (issue : Issue) (now : Moment) (t : Tracker) (h : Host)
    (command : Command) : List String → Prop where
  | checks {checks : List RuleCheck} {h₁ : Host} : command.name = "checktask" →
      RuleCheck.all c now issue.number command.words t h = (.ok checks, h₁) →
      Quotes c issue now t h command (checks.flatMap quoted)
  | absent {h₁ : Host} : command.name = "trytask" →
      Rule.tryOn c issue command.arguments t h = (.ok none, h₁) → Quotes c issue now t h command []
  | trial {fault : ConfigurationFault} {h₁ : Host} : command.name = "trytask" →
      Rule.tryOn c issue command.arguments t h = (.error (.configuration fault), h₁) →
      Quotes c issue now t h command [fault.message]
  | marks {report : MarkReport} {h₁ : Host} : command.name = "mark" →
      MarkReport.ofNames c issue command.words t h = (.ok report, h₁) →
      Quotes c issue now t h command (report.invalid.map Prod.snd ++ report.failed.map Prod.snd)

lemma notMem_of_mem_words {name : String} (h : name ∈ command.words) : '\n' ∉ name.toList := by
  obtain ⟨w, hw, rfl⟩ := List.mem_map.mp h
  rw [String.toList_ofList]
  exact Text.notMem_of_mem_fieldsBy hw (by decide)

lemma frames_of_answer (hanswer : answer command c issue now t h = (.ok (some reply), h')) :
    ∃ texts, Quotes c issue now t h command texts ∧ Frames texts reply := by
  unfold answer at hanswer
  split_ifs at hanswer with hcheck htry hmark
  · obtain ⟨checks, h₁, hall, hlast⟩ := Op.bind_eq_ok.mp hanswer
    obtain ⟨tasks, h₂, htasks, -⟩ := Op.bind_eq_ok.mp hall
    have hblocks : c.taskBlocks = .ok tasks := congrArg Prod.fst htasks
    cases hlast
    exact ⟨_, .checks hcheck hall, frames_checkTable (RuleCheck.all_told hblocks hall).1⟩
  · obtain ⟨outcome, h₁, hattempt, hreply⟩ := Op.bind_eq_ok.mp hanswer
    have htrial : Rule.tryOn c issue command.arguments t h = (outcome, h₁) := by
      cases hattempt
      rfl
    rcases frames_trialReply hreply with ⟨rfl, hframes⟩ | ⟨fault, rfl, hframes⟩
    · exact ⟨_, .absent htry htrial, hframes⟩
    · exact ⟨_, .trial htry htrial, hframes⟩
  · obtain ⟨report, h₁, hrun, hlast⟩ := Op.bind_eq_ok.mp hanswer
    refine ⟨_, .marks hmark hrun, ?_⟩
    cases hproblems : markProblems report with
    | nil =>
      simp only [hproblems] at hlast
      cases hlast
    | cons problem problems =>
      have hframes := frames_markProblems (MarkReport.about_ofNames hrun)
        (fun name hname => notMem_of_mem_words hname) (by simp [hproblems])
      simp only [hproblems] at hlast hframes
      cases hlast
      exact hframes
  · cases hanswer

end Runs

end Command

namespace Event

variable {c : Configuration} {t : Tracker} {payload : Json}

/-- A text that refers to nothing calls for nothing when it is posted. -/
lemma handleComment_plain {issue : Issue} {body previous : Json} {text : String}
    (htext : Payload.bodyText body = .ok (some text))
    (hreference : ∀ limit, Duplicate.reference limit (some text) = .ok none) (h : Host) :
    (handleComment c.duplicates .created issue body previous t h).2 = h := by
  unfold handleComment
  by_cases htracked : Duplicate.isTracked c.duplicates issue = true
  · rw [if_pos htracked, htext]
    change (Duplicate.handleComment c.duplicates .created issue (some text) none t h).2 = h
    cases c.duplicates with
    | none => rfl
    | some s =>
      have hnone : Duplicate.consequence t.digits .created (some text) none = .ok none := by
        rw [Duplicate.consequence, hreference]
        rfl
      unfold Duplicate.handleComment
      by_cases hopen : issue.isOpen = true
      · simp only [hopen, if_true]
        rw [Op.bind_ok (x := Op.digitLimit) rfl, hnone]
        rfl
      · simp only [hopen]
        rfl
  · rw [if_neg htracked]
    rfl

/-- A comment that refers to no duplicate and holds no command is passed over when it is posted. -/
lemma handle_plain {event text : String} (hkey : key event payload = .ok "issue_comment.created")
    (htext : commentText payload = .ok (some text))
    (hreference : ∀ limit, Duplicate.reference limit (some text) = .ok none)
    (hcommand : Command.parse? (some text) = none) (now : Moment) (h : Host) :
    (handle event payload c now t h).2 = h := by
  unfold handle
  rw [hkey]
  cases Payload.holds "issue" payload with
  | error e => rfl
  | ok concernsIssue =>
    cases concernsIssue with
    | false => rfl
    | true =>
      cases (do Issue.ofJson (← Payload.get "issue" payload) : Except Failure Issue) with
      | error e => rfl
      | ok issue =>
        refine (Op.bind_leaves (x := react "issue_comment.created" c issue payload now)
          fun _ _ _ => rfl).trans ?_
        cases hbody : commentBody payload with
        | error e =>
          rw [commentText, hbody] at htext
          cases htext
        | ok body =>
          rw [commentText, hbody] at htext
          have hreact : react "issue_comment.created" c issue payload now = (do
              let body ← Op.ofExcept (commentBody payload)
              let previous ← Op.ofExcept (Payload.previousBody payload)
              let _ ← handleComment c.duplicates .created issue body previous
              let _ ← handleCommand c issue body now
              return true) := rfl
          rw [hreact, hbody]
          cases Payload.previousBody payload with
          | error e => rfl
          | ok previous =>
            refine (Op.bind_leaves (x := handleComment c.duplicates .created issue body previous) ?_).trans
              (handleComment_plain htext hreference h)
            intro _ t h
            refine (Op.bind_leaves fun _ _ _ => rfl).trans (handleCommand_leaves ?_ now t h)
            intro text' htext'
            obtain rfl : some text = text' := Except.ok.inj (htext.symm.trans htext')
            exact hcommand

open Command (OpensLater Quotes)

/-- An answer that is posted refers to no duplicate. It holds a command exactly when one of the texts that
it quotes goes on with one in a later line. Otherwise it is passed over when it comes back as a comment,
whatever the configuration and the host are by then. -/
theorem answer_is_plain_iff (c : Configuration) (issue : Issue) (body : Option String) (now : Moment)
    (t : Tracker) (h h' : Host) (reply : String)
    (hposted : Command.handle c issue body now t h = (.ok (some reply), h')) :
    ∃ command texts, Command.parse? body = some command ∧ Quotes c issue now t h command texts ∧
      (∀ limit, Duplicate.reference limit (some reply) = .ok none) ∧
      (Command.parse? (some reply) = none ↔ ∀ text ∈ texts, ¬OpensLater text.toList) ∧
      (Command.parse? (some reply) = none → ∀ event payload c' later t' h₀,
        key event payload = .ok "issue_comment.created" → commentText payload = .ok (some reply) →
        (handle event payload c' later t' h₀).2 = h₀) := by
  unfold Command.handle at hposted
  cases hcommand : Command.parse? body with
  | none =>
    rw [hcommand] at hposted
    cases hposted
  | some command =>
    rw [hcommand] at hposted
    obtain ⟨answered, h₁, hanswer, hposted⟩ := Op.bind_eq_ok.mp hposted
    cases answered with
    | none => cases hposted
    | some text =>
      obtain ⟨-, h₂, -, hlast⟩ := Op.bind_eq_ok.mp hposted
      cases hlast
      obtain ⟨texts, hquotes, hframes⟩ := Command.frames_of_answer hanswer
      refine ⟨command, texts, rfl, hquotes, hframes.reference_eq, hframes.find?_eq_none_iff, ?_⟩
      intro hplain event payload c' later t' h₀ hkey htext
      exact handle_plain hkey htext hframes.reference_eq hplain later h₀

/-- The event that a comment was posted. -/
def postedPayload (text : String) : Json :=
  .obj [("action", .str "created"),
    ("issue", .obj [("number", .int 1), ("title", .str "Crash"), ("state", .str "open")]),
    ("comment", .obj [("body", .str text)])]

lemma commentText_postedPayload {text : String} (hne : text ≠ "") :
    commentText (postedPayload text) = .ok (some text) := by
  have hbody : commentText (postedPayload text) = Payload.bodyText (.str text) := rfl
  have htruthy : (Json.str text).truthy = true := by
    simp [Json.truthy, CodeText.isEmpty, CodeText.ofString, CodeText.ofList, hne]
  rw [hbody, Payload.bodyText, if_pos htruthy]
  simp

open Sweep (presentDay deskTracker deskHost patchyTasks)

def deskIssue : Issue := { number := 1, state := "open" }

def freshTable : String :=
  "| Task | Query | Found |\n| - | - | - |\n| \x60fresh\x60 | \x60repo:acme/desk state:open\x60 | :heavy_check_mark: |"

theorem answer_is_plain_iff_freshTable : ∃ h',
    Command.handle patchyTasks deskIssue (some "/checktask fresh") presentDay deskTracker deskHost =
      (.ok (some freshTable), h') ∧
    (∀ limit, Duplicate.reference limit (some freshTable) = .ok none) ∧
    ∀ c later t h₀, (handle "issue_comment" (postedPayload freshTable) c later t h₀).2 = h₀ := by
  have hposted : (Command.handle patchyTasks deskIssue (some "/checktask fresh") presentDay deskTracker
      deskHost).1 = .ok (some freshTable) := Op.eq_ok_of_toOption (by decide +kernel)
  rcases hrun : Command.handle patchyTasks deskIssue (some "/checktask fresh") presentDay deskTracker
    deskHost with ⟨outcome, h'⟩
  rw [hrun] at hposted
  obtain rfl : outcome = .ok (some freshTable) := hposted
  obtain ⟨command, texts, -, -, hreference, -, hpassed⟩ := answer_is_plain_iff _ _ _ _ _ _ _ _ hrun
  refine ⟨h', rfl, hreference, ?_⟩
  intro c later t h₀
  have hkey : key "issue_comment" (postedPayload freshTable) = .ok "issue_comment.created" := rfl
  have hne : freshTable ≠ "" := by decide +kernel
  exact hpassed (by decide +kernel) _ _ c later t h₀ hkey (commentText_postedPayload hne)

/-- The name of the one task goes on with a command in its second line. -/
def splitNameText : String :=
  "scheduled_tasks:\n  \"stale\\n/mark done\\nx\":\n    if_state: closed\nmark_actions:\n  done:\n    set_state: closed\n"

def splitTable : String :=
  "| Task | Query | Found |\n| - | - | - |\n| \x60stale\n/mark done\nx\x60 | \x60repo:acme/desk state:closed\x60 | :heavy_check_mark: |"

theorem answer_splitNameText : ∃ c, Configuration.load (some splitNameText) = .ok c ∧
    (Command.handle c deskIssue (some "/checktask") presentDay deskTracker deskHost).1 =
      .ok (some splitTable) ∧
    Command.parse? (some splitTable) = some ⟨"mark", "done"⟩ ∧
    (handle "issue_comment" (postedPayload splitTable) c presentDay deskTracker deskHost).2.records.map
      (·.issue.state) = ["closed"] := by
  have hall : (Configuration.load (some splitNameText)).toOption.map (fun c =>
      ((Command.handle c deskIssue (some "/checktask") presentDay deskTracker deskHost).1.toOption,
        (handle "issue_comment" (postedPayload splitTable) c presentDay deskTracker deskHost).2.records.map
          (·.issue.state))) = some (some (some splitTable), ["closed"]) := by decide +kernel
  have hcommand : Command.parse? (some splitTable) = some ⟨"mark", "done"⟩ := by decide +kernel
  obtain ⟨c, hload, hc⟩ := Option.map_eq_some_iff.mp hall
  obtain ⟨hposted, hclosed⟩ := Prod.mk.inj hc
  exact ⟨c, Op.eq_ok_of_toOption hload, Op.eq_ok_of_toOption hposted, hcommand, hclosed⟩

end Event

end Triage
