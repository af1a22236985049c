import Mathlib
import Triage.Event
import Triage.Proofs.MarkEffects

/-!
# Deliveries that come twice

What is done for an event is one of four things: nothing, the labels of an issue are replaced, the
consequence of a comment is performed, or duplicates follow. Each of them is done for good the first
time, for a reason of its own, so a delivery that comes twice leaves the issues as one that comes once.
-/

namespace Triage.Event

open Duplicate (Alike Cascade Consequence IsMarked)

/-- The body of the comment that an event is about, and its text. -/
def commentBody (payload : Json) : Except Failure Json := do
  let comment ← Payload.get "comment" payload
  return (← Payload.get? "body" comment).getD .null

def commentText (payload : Json) : Except Failure (Option String) := do
  Payload.bodyText (← commentBody payload)

/-- If an event says that a comment was created, there is no command in the comment. -/
def HasNoCommand (event : String) (payload : Json) : Prop :=
  ∀ key, Event.key event payload = .ok key → commentAction? key = some .created →
    ∀ text, commentText payload = .ok text → Command.parse? text = none

/-- What is done for an event, whatever the host and the time. -/
inductive Effect (c : Configuration) (t : Tracker) (handled : Moment → Host → Host) : Prop
  | nothing (h : ∀ now h, handled now h = h)
  | labels (n : Int) (labels : List String)
      (h : ∀ now h, handled now h = (Tracker.replaceLabels n labels t h).2)
  | mark (s : DuplicateSettings) (n : Int) (consequence : Consequence)
      (hwritable : consequence.IsWritable t.digits)
      (h : ∀ now h, handled now h = (Duplicate.perform s n consequence t h).2)
  | cascade (s : DuplicateSettings) (kind : Cascade) (issue : Issue) (hs : c.duplicates = some s)
      (h : ∀ now h, handled now h = (kind.run (some s) issue t h).2)

variable {c : Configuration} {t : Tracker} {issue : Issue} {payload : Json}

lemma Effect.congr {handled handled' : Moment → Host → Host} (he : Effect c t handled)
    (h : ∀ now h, handled' now h = handled now h) : Effect c t handled' := by
  obtain rfl : handled' = handled := by
    funext now host
    exact h now host
  exact he

lemma remove_effect (attached : String) :
    Effect c t fun _ h => (PeerLabels.remove c.peerLabels issue attached t h).2 := by
  unfold PeerLabels.remove
  cases if c.peerLabels then PeerLabels.change? issue attached else none with
  | none => exact .nothing fun _ _ => rfl
  | some labels => exact .labels issue.number labels fun _ _ => Op.bind_leaves fun _ _ _ => rfl

lemma handleLabel_effect : Effect c t fun _ h => (handleLabel c issue payload t h).2 := by
  unfold handleLabel
  cases (do Payload.get "name" (← Payload.get "label" payload) : Except Failure Json) with
  | error e => exact .nothing fun _ _ => rfl
  | ok name =>
    cases name with
    | str attached =>
      have hremove (h : Host) : ((do
          let _ ← PeerLabels.remove c.peerLabels issue attached.string
          return () : Op Failure Unit) t h).2 =
          (PeerLabels.remove c.peerLabels issue attached.string t h).2 :=
        Op.bind_leaves fun _ _ _ => rfl
      exact (remove_effect attached.string).congr fun _ h => hremove h
    | _ => exact .nothing fun _ _ => by cases c.peerLabels <;> rfl

lemma run_effect (kind : Cascade) : Effect c t fun _ h => (kind.run c.duplicates issue t h).2 := by
  cases hs : c.duplicates with
  | none => exact .nothing fun _ _ => rfl
  | some s => exact .cascade s kind issue hs fun _ _ => rfl

lemma handleComment_effect (action : Duplicate.CommentAction) (issue : Issue) (body previous : Json) :
    Effect c t fun _ h => (handleComment c.duplicates action issue body previous t h).2 := by
  unfold handleComment
  cases hs : c.duplicates with
  | none => exact .nothing fun _ _ => rfl
  | some s =>
    cases Duplicate.isTracked (some s) issue with
    | false => exact .nothing fun _ _ => rfl
    | true =>
      cases Payload.bodyText body with
      | error e => exact .nothing fun _ _ => rfl
      | ok present =>
        cases if action = .edited then Payload.bodyText previous else .ok none with
        | error e => exact .nothing fun _ _ => rfl
        | ok former =>
          let d : Duplicate.Delivery := ⟨action, issue, present, former⟩
          rcases d.handle_effect s t.digits with hnothing | ⟨consequence, hwritable, hperform⟩
          · exact .nothing fun _ h => hnothing t h rfl
          · exact .mark s issue.number consequence hwritable fun _ h => hperform t h rfl

/-- A comment without a command is not answered. -/
lemma handleCommand_leaves {body : Json}
    (hcommand : ∀ text, Payload.bodyText body = .ok text → Command.parse? text = none) (now : Moment)
    (t : Tracker) (h : Host) : (handleCommand c issue body now t h).2 = h := by
  unfold handleCommand
  cases htext : Payload.bodyText body with
  | error e => rfl
  | ok text =>
    have hnone : Command.handle c issue text now = return none := by
      rw [Command.handle, hcommand text htext]
    exact congrArg (fun answer : Op Failure (Option String) => (answer t h).2) hnone

lemma react_effect {key : String} (issue : Issue)
    (hcommand : commentAction? key = some .created → ∀ text, commentText payload = .ok text →
      Command.parse? text = none) :
    Effect c t fun now h => (react key c issue payload now t h).2 := by
  unfold react
  split_ifs
  · exact handleLabel_effect.congr fun _ _ => Op.bind_leaves fun _ _ _ => rfl
  · exact (run_effect .close).congr fun _ _ => Op.bind_leaves fun _ _ _ => rfl
  · exact (run_effect .reopen).congr fun _ _ => Op.bind_leaves fun _ _ _ => rfl
  · cases haction : commentAction? key with
    | none => exact .nothing fun _ _ => rfl
    | some action =>
      change Effect c t fun now h => ((do
        let body ← Op.ofExcept (commentBody payload)
        let previous ← Op.ofExcept (Payload.previousBody payload)
        let _ ← handleComment c.duplicates action issue body previous
        if action = .created then do
          let _ ← handleCommand c issue body now
          return true
        else return true : Op Failure Bool) t h).2
      cases hbody : commentBody payload with
      | error e => exact .nothing fun _ _ => rfl
      | ok body =>
        cases Payload.previousBody payload with
        | error e => exact .nothing fun _ _ => rfl
        | ok previous =>
          refine (handleComment_effect action issue body previous).congr fun now h => ?_
          refine Op.bind_leaves (x := handleComment c.duplicates action issue body previous)
            fun _ t h => ?_
          by_cases hcreated : action = .created
          · rw [if_pos hcreated]
            refine (Op.bind_leaves fun _ _ _ => rfl).trans (handleCommand_leaves (fun text htext => ?_) ..)
            refine hcommand (hcreated ▸ haction) text ?_
            rw [commentText, hbody]
            exact htext
          · rw [if_neg hcreated]
            rfl

lemma handle_effect {event : String} (hcommand : HasNoCommand event payload) :
    Effect c t fun now h => (handle event payload c now t h).2 := by
  unfold handle
  cases hkey : key event payload with
  | error e => exact .nothing fun _ _ => rfl
  | ok key =>
    cases Payload.holds "issue" payload with
    | error e => exact .nothing fun _ _ => rfl
    | ok concernsIssue =>
      cases concernsIssue with
      | false => exact .nothing fun _ _ => rfl
      | true =>
        cases (do Issue.ofJson (← Payload.get "issue" payload) : Except Failure Issue) with
        | error e => exact .nothing fun _ _ => rfl
        | ok issue =>
          refine (react_effect issue (hcommand key hkey)).congr fun now _ => ?_
          exact Op.bind_leaves (x := react key c issue payload now) fun _ _ _ => rfl

section Twice

variable {h : Host} (hscope : t.scope.fullName = t.home) (hcalm : ∀ log, t.fails log = none)

include hscope hcalm

lemma replaceLabels_twice (n : Int) (labels : List String) :
    let once := (Tracker.replaceLabels n labels t h).2
    List.Forall₂ (Alike t.digits) once.records (Tracker.replaceLabels n labels t once).2.records := by
  intro once
  have hcalmed (h : Host) : h.Leaves (Tracker.replaceLabels n labels t h).2
      (Record.only n (Record.after (.setLabels labels))) :=
    Tracker.alter_calm hscope hcalm (.replaceLabels n) fun _ => ⟨_, rfl⟩
  have hagain : Record.after (.setLabels labels) ∘ Record.after (.setLabels labels) =
      Record.after (.setLabels labels) := rfl
  refine (hcalmed h).forall₂ ((hcalmed h).trans (hcalmed once)) fun r _ => ?_
  rw [Record.only_comp (Record.number_after _), hagain]
  exact Duplicate.alike_refl t.digits _

lemma perform_twice {s : DuplicateSettings} {n : Int} {consequence : Consequence}
    (hwritable : consequence.IsWritable t.digits)
    (hbodies : ∀ r ∈ h.records, IsMarked t.digits r.issue.body) :
    let once := (Duplicate.perform s n consequence t h).2
    List.Forall₂ (Alike t.digits) once.records
      (Duplicate.perform s n consequence t once).2.records := by
  intro once
  have hcalmed (h : Host) := Duplicate.perform_calm (s := s) (h := h) (n := n) hscope hcalm consequence
  refine (hcalmed h).forall₂ ((hcalmed h).trans (hcalmed once)) fun r hr => ?_
  exact Duplicate.performed_only_again hwritable (hbodies r hr) (.inr (.inr rfl))

lemma run_twice {s : DuplicateSettings} (kind : Cascade) (issue : Issue)
    (hfind : ∀ h, Cascade.FindsExactly t h (kind.query s.label t.scope) kind.source.text s.label) :
    let once := (kind.run (some s) issue t h).2
    List.Forall₂ (Alike t.digits) once.records (kind.run (some s) issue t once).2.records := by
  intro once
  cases henabled : kind.isEnabled s with
  | false =>
    rw [Cascade.run_disabled henabled]
    exact List.forall₂_same.mpr fun r _ => Duplicate.alike_refl t.digits r
  | true =>
    obtain ⟨numbers, f, hleft, hf, -, -, hall⟩ :=
      Cascade.run_leaves issue hscope henabled (hfind h)
    obtain ⟨more, g, hrest, -, hnone, hsub, -⟩ :=
      Cascade.run_leaves issue hscope henabled (hfind once)
    -- all that would follow has followed, so the second time nobody does
    have hmore : more = [] := by
      refine List.eq_nil_iff_forall_not_mem.mpr fun k hk => ?_
      obtain ⟨hnot, hnext⟩ := (Cascade.mem_next_left hf hleft hfind issue.number k).mp (hsub k hk)
      rw [← hall hcalm] at hnext
      exact hnot hnext
    rw [hnone hmore] at hrest
    exact hleft.forall₂ (hleft.trans hrest) fun r _ => Duplicate.alike_refl t.digits (f r)

end Twice

/-- Where no call fails and searches find what they ask for, a delivery without a command that comes a
second time leaves the issues as they are, but for line feeds in front of metadata. -/
theorem handle_twice (event : String) (payload : Json) (c : Configuration) (now later : Moment)
    (t : Tracker) (h : Host) (hscope : t.scope.fullName = t.home) (hcalm : ∀ log, t.fails log = none)
    (hfind : ∀ s, c.duplicates = some s → ∀ (kind : Cascade) (h : Host),
      Cascade.FindsExactly t h (kind.query s.label t.scope) kind.source.text s.label)
    (hbodies : ∀ r ∈ h.records, IsMarked t.digits r.issue.body)
    (hcommand : HasNoCommand event payload) :
    let once := (handle event payload c now t h).2
    List.Forall₂ (Alike t.digits) once.records (handle event payload c later t once).2.records := by
  intro once
  cases handle_effect (c := c) (t := t) hcommand with
  | nothing hnothing =>
    rw [hnothing later once]
    exact List.forall₂_same.mpr fun r _ => Duplicate.alike_refl t.digits r
  | labels n labels hlabels =>
    rw [hlabels later once, show once = _ from hlabels now h]
    exact replaceLabels_twice hscope hcalm n labels
  | mark s n consequence hwritable hmark =>
    rw [hmark later once, show once = _ from hmark now h]
    exact perform_twice hscope hcalm hwritable hbodies
  | cascade s kind issue hs hcascade =>
    rw [hcascade later once, show once = _ from hcascade now h]
    exact run_twice hscope hcalm kind issue (hfind s hs kind)

def twinConfiguration : Configuration := { duplicates := some ⟨"duplicate", true, true⟩ }

/-- The event that the issue was closed which the twins duplicate. -/
def closedPayload : Json :=
  .obj [("action", .str "closed"),
    ("issue", .obj [("number", .int 1), ("title", .str "Crash"), ("state", .str "closed")])]

/-- The event about a comment on one of the twins. -/
def commentPayload : Json :=
  .obj [("action", .str "created"),
    ("issue", .obj [("number", .int 2), ("title", .str "Crash"), ("state", .str "open")]),
    ("comment", .obj [("body", .str "Duplicate of #3")])]

def midnight : Moment := ⟨0, none, Moment.maxTicks_pos⟩

/-- The twins are closed and reported once, and the mark of a comment is made once. -/
theorem handle_twice_twins :
    let closed := (handle "issues" closedPayload twinConfiguration midnight Duplicate.searchTracker
      Duplicate.twinHost).2
    let marked := (handle "issue_comment" commentPayload twinConfiguration midnight
      Duplicate.searchTracker Duplicate.twinHost).2
    closed.records.map (·.issue.state) = ["closed", "closed", "closed"] ∧
      closed.records.map (·.posted.length) = [1, 0, 0] ∧
      List.Forall₂ (Alike .standard) closed.records
        (handle "issues" closedPayload twinConfiguration midnight Duplicate.searchTracker
          closed).2.records ∧
      marked.records.map (·.issue.body) ≠ Duplicate.twinHost.records.map (·.issue.body) ∧
      List.Forall₂ (Alike .standard) marked.records
        (handle "issue_comment" commentPayload twinConfiguration midnight Duplicate.searchTracker
          marked).2.records := by
  have hfind : ∀ s, twinConfiguration.duplicates = some s → ∀ (kind : Cascade) (h : Host),
      Cascade.FindsExactly Duplicate.searchTracker h (kind.query s.label Duplicate.searchTracker.scope)
        kind.source.text s.label := by
    rintro s ⟨⟩ kind h
    exact Duplicate.finds_searchTracker kind h
  have hclosed : HasNoCommand "issues" closedPayload := by
    rintro key ⟨⟩ hcreated
    exact absurd hcreated (by decide +kernel)
  have hcomment : HasNoCommand "issue_comment" commentPayload := by
    rintro key - - text ⟨⟩
    decide +kernel
  refine ⟨by decide +kernel, by decide +kernel, ?_, by decide +kernel, ?_⟩
  · exact handle_twice "issues" closedPayload twinConfiguration midnight midnight
      Duplicate.searchTracker Duplicate.twinHost rfl (fun _ => rfl) hfind Duplicate.isMarked_twins hclosed
  · exact handle_twice "issue_comment" commentPayload twinConfiguration midnight midnight
      Duplicate.searchTracker Duplicate.twinHost rfl (fun _ => rfl) hfind Duplicate.isMarked_twins hcomment

end Triage.Event
