import Mathlib
import Triage.Duplicate.Cascade
import Triage.Proofs.NamedIssues
import Triage.Proofs.TrackerCalls

/-!
# Which issues follow

A cascade looks at every candidate that its search finds, whatever happens to the others. A candidate
follows exactly when its stored target reads as the changed issue and none of the calls about it fails,
and no other issue is touched except by the comment that names those that followed, and nobody else.
-/

namespace Triage.Duplicate.Cascade

variable {c : Cascade} {t : Tracker} {h : Host} {n : Int}

/-- Whether the stored target of an issue reads as a number. -/
def refersTo (limit : DigitLimit) (n : Int) (i : Issue) : Bool :=
  match Metadata.get limit i.body metadataKey with
  | .ok (some value) => Json.toInteger limit value = .integer n
  | _ => false

/-- Whether a candidate follows, when these calls are made after a log. -/
def follows (t : Tracker) (n : Int) (log calls : List Call) (i : Issue) : Bool :=
  refersTo t.digits n i && t.spares i.number log calls

/-- A record after the issues with the given numbers were set to the goal of the cascade. -/
def settled (c : Cascade) (numbers : List Int) (r : Record) : Record :=
  if r.number ∈ numbers then r.after (.setState c.goal.text) else r

/-- Duplicates of an issue that was closed are closed, and those of one that was reopened are reopened. -/
lemma states_eq (c : Cascade) :
    (c.source.text, c.goal.text) = if c = .close then ("open", "closed") else ("closed", "open") := by
  cases c <;> rfl

lemma settled_nil : c.settled [] = id := by
  funext r
  exact if_neg List.not_mem_nil

lemma settled_singleton (k : Int) :
    c.settled [k] = Record.only k (Record.after (.setState c.goal.text)) := by
  funext r
  simp only [settled, Record.only, List.mem_singleton]

lemma settled_append (first rest : List Int) :
    c.settled (first ++ rest) = c.settled rest ∘ c.settled first := by
  funext r
  rw [Function.comp_apply]
  by_cases hf : r.number ∈ first
  · have hfirst : c.settled first r = r.after (.setState c.goal.text) := if_pos hf
    have hall : c.settled (first ++ rest) r = r.after (.setState c.goal.text) :=
      if_pos (List.mem_append_left rest hf)
    rw [hall, hfirst, settled]
    split_ifs
    · rfl
    · rfl
  · have hfirst : c.settled first r = r := if_neg hf
    rw [hfirst]
    simp only [settled, List.mem_append, hf, false_or]

lemma settled_body (numbers : List Int) (r : Record) :
    (c.settled numbers r).issue.body = r.issue.body := by
  unfold settled
  split_ifs <;> rfl

lemma followers_cons (x : Except Failure (Option Int)) (xs : List (Except Failure (Option Int))) :
    followers (x :: xs) = followers [x] ++ followers xs :=
  List.filterMap_append (l := [x])

/-- What one candidate's turn comes to: the calls it made are about it, it follows or not as the calls
decide, and no other record changes. -/
structure Turn (c : Cascade) (t : Tracker) (h h' : Host) (n : Int) (i : Issue) (calls : List Call)
    (outcome : Except Failure (Option Int)) : Prop where
  about : ∀ d ∈ calls, d.issue? = some i.number
  decided : followers [outcome] = if follows t n h.log calls i then [i.number] else []
  advances : h.Advances h' calls (c.settled (followers [outcome]))

lemma turn_of_not {h' : Host} {i : Issue} {calls : List Call} {outcome : Except Failure (Option Int)}
    (hcalls : ∀ d ∈ calls, d.issue? = some i.number) (hnone : followers [outcome] = [])
    (hnot : follows t n h.log calls i = false) (hadv : h.Advances h' calls id) :
    Turn c t h h' n i calls outcome := by
  refine ⟨hcalls, by rw [hnone, hnot]; rfl, ?_⟩
  rw [hnone, settled_nil]
  exact hadv

lemma target?_eq {limit : DigitLimit} {i : Issue} {stored : Option Json}
    (hget : Metadata.get limit i.body metadataKey = .ok stored) :
    target? limit stored = .ok (some n) ↔ refersTo limit n i = true := by
  rw [refersTo, hget]
  cases stored with
  | none => simp [target?]
  | some value =>
    simp only [target?, Option.map_some]
    cases Json.toInteger limit value <;> simp

section Follow

variable {i : Issue} {r : Record} (hs : t.scope.fullName = t.home) (hr : h.record? i.number = some r)
  (hbody : r.issue.body = i.body) (hfetch : t.fails (h.log ++ [.fetch i.number]) = none)

include hs hr hbody hfetch

lemma follow_fetched :
    c.follow n i t h =
      match Metadata.get t.digits i.body metadataKey with
      | .error fault => (.error (.rejected (.badNumeral fault)), h.logged (.fetch i.number))
      | .ok stored =>
        match target? t.digits stored with
        | .error e => (.error e, h.logged (.fetch i.number))
        | .ok target =>
          if target = some n then
            (do Tracker.setState i.number c.goal.text; return some i.number : Op Failure (Option Int)) t
              (h.logged (.fetch i.number))
          else (.ok none, h.logged (.fetch i.number)) := by
  have hread := Tracker.getMetadata_eq hs hr hfetch metadataKey
  rw [hbody] at hread
  cases hget : Metadata.get t.digits i.body metadataKey with
  | error fault =>
    rw [hget] at hread
    exact Op.bind_error hread _
  | ok stored =>
    rw [hget] at hread
    refine (Op.bind_ok hread _).trans ((Op.bind_ok (x := Op.digitLimit) rfl _).trans ?_)
    rw [Op.bind_apply, Op.ofExcept]
    dsimp only
    cases target? t.digits stored with
    | error e => rfl
    | ok target =>
      dsimp only
      by_cases htarget : target = some n
      · rw [if_pos htarget, if_pos htarget]
      · rw [if_neg htarget, if_neg htarget]
        rfl

lemma follow_unrelated (href : refersTo t.digits n i = false) :
    ∃ outcome, c.follow n i t h = (outcome, h.logged (.fetch i.number)) ∧
      followers [outcome] = [] := by
  rw [follow_fetched hs hr hbody hfetch]
  cases hget : Metadata.get t.digits i.body metadataKey with
  | error fault => exact ⟨_, rfl, rfl⟩
  | ok stored =>
    have htarget : target? t.digits stored ≠ .ok (some n) := by
      rw [ne_eq, target?_eq hget, href]
      exact Bool.false_ne_true
    cases hread : target? t.digits stored with
    | error e => exact ⟨.error e, by simp only [hread], rfl⟩
    | ok target =>
      have hne : target ≠ some n := by
        rintro rfl
        exact htarget hread
      exact ⟨.ok none, by simp only [hread, hne, if_false], rfl⟩

lemma follow_related (href : refersTo t.digits n i = true) :
    c.follow n i t h =
      (do Tracker.setState i.number c.goal.text; return some i.number : Op Failure (Option Int)) t
        (h.logged (.fetch i.number)) := by
  rw [follow_fetched hs hr hbody hfetch]
  cases hget : Metadata.get t.digits i.body metadataKey with
  | error fault => simp [refersTo, hget] at href
  | ok stored =>
    rw [← target?_eq hget] at href
    simp only [href, if_true]

end Follow

/-- Every candidate has its turn, with or without a failure. -/
theorem follow_turn (hs : t.scope.fullName = t.home) {i : Issue} {r : Record}
    (hr : h.record? i.number = some r) (hbody : r.issue.body = i.body) :
    ∃ outcome h' calls, c.follow n i t h = (outcome, h') ∧ Turn c t h h' n i calls outcome := by
  have hlogged := Host.advances_logged h (.fetch i.number)
  have habout : ∀ d ∈ [Call.fetch i.number], d.issue? = some i.number := by simp [Call.issue?]
  cases hfetch : t.fails (h.log ++ [.fetch i.number]) with
  | some fault =>
    -- the candidate cannot be read
    obtain ⟨e, he⟩ := Tracker.recordFor_error (h := h) hfetch (.readMetadata i.number)
    refine ⟨.error e, _, _, Op.bind_error (Op.bind_error he _) _, turn_of_not habout rfl ?_ hlogged⟩
    simp [follows, Tracker.spares, Call.issue?, hfetch]
  | none =>
    cases href : refersTo t.digits n i with
    | false =>
      obtain ⟨outcome, hrun, hnone⟩ := follow_unrelated (c := c) hs hr hbody hfetch href
      refine ⟨outcome, _, _, hrun, turn_of_not habout hnone ?_ hlogged⟩
      rw [follows, href, Bool.false_and]
    | true =>
      have hr' : (h.logged (.fetch i.number)).record? i.number = some r := hr
      have hrun := follow_related (c := c) hs hr hbody hfetch href
      let calls : List Call := [.fetch i.number, .change i.number (.setState c.goal.text)]
      cases hset : t.spares i.number (h.logged (.fetch i.number)).log calls with
      | true =>
        obtain ⟨h', hok, hadv⟩ := Tracker.alter_ok hs hr' rfl hset (.setState i.number c.goal.text)
        have hfollows : follows t n h.log (.fetch i.number :: calls) i = true := by
          rw [follows, href, Bool.true_and]
          exact (Tracker.spares_cons rfl _ _).mpr ⟨hfetch, hset⟩
        refine ⟨.ok (some i.number), h', .fetch i.number :: calls,
          hrun.trans ((Op.bind_ok hok _).trans rfl), by simp [calls, Call.issue?], ?_, ?_⟩
        · rw [hfollows]
          rfl
        · have hone : followers [.ok (some i.number)] = [i.number] := rfl
          rw [hone, settled_singleton]
          exact hlogged.trans hadv
      | false =>
        -- it refers to the changed issue, but cannot be set to the goal
        obtain ⟨e, h', made, herror, hadv, hmade, hfailed⟩ :=
          Tracker.alter_error hs hr' hset (.setState i.number c.goal.text)
        refine ⟨.error e, h', .fetch i.number :: made, hrun.trans (Op.bind_error herror _),
          turn_of_not ?_ rfl ?_ (hlogged.trans hadv)⟩
        · exact List.forall_mem_cons.mpr ⟨rfl, hmade⟩
        · have hcalls : t.spares i.number h.log (.fetch i.number :: made) = false := by
            rw [Bool.eq_false_iff]
            intro hall
            rw [Tracker.spares_cons rfl] at hall
            exact absurd (hfailed.symm.trans hall.2) Bool.false_ne_true
          rw [follows, hcalls, Bool.and_false]

lemma follows_append_left {i : Issue} {rest : List Call}
    (hrest : ∀ d ∈ rest, d.issue? ≠ some i.number) (log calls : List Call) :
    follows t n log (calls ++ rest) i = follows t n log calls i := by
  rw [follows, follows, Tracker.spares_append, Tracker.spares_of_ne _ hrest, Bool.and_true]

lemma follows_append_right {i : Issue} {calls : List Call}
    (hcalls : ∀ d ∈ calls, d.issue? ≠ some i.number) (log rest : List Call) :
    follows t n log (calls ++ rest) i = follows t n (log ++ calls) rest i := by
  rw [follows, follows, Tracker.spares_append, Tracker.spares_of_ne _ hcalls, Bool.true_and]

/-- A turn leaves the others in the repository, with the targets that they store. -/
lemma known_of_advances {h' : Host} {calls : List Call} {numbers : List Int}
    (hadv : h.Advances h' calls (c.settled numbers)) {candidates : List Issue}
    (hknown : ∀ i ∈ candidates, ∃ r, h.record? i.number = some r ∧ r.issue.body = i.body) :
    ∀ i ∈ candidates, ∃ r, h'.record? i.number = some r ∧ r.issue.body = i.body := by
  intro i hi
  obtain ⟨r, hr, hbody⟩ := hknown i hi
  exact ⟨_, hadv.record? hr, (settled_body _ r).trans hbody⟩

/-- All candidates have their turns, and each of them follows or not on its own. -/
theorem each_follow (hs : t.scope.fullName = t.home) {candidates : List Issue}
    (hnodup : (candidates.map (·.number)).Nodup)
    (hknown : ∀ i ∈ candidates, ∃ r, h.record? i.number = some r ∧ r.issue.body = i.body) :
    ∃ outcomes h' calls,
      Step.each (fun i => (c.follow n i).attempt) candidates t h = (outcomes, h') ∧
      (∀ d ∈ calls, ∃ i ∈ candidates, d.issue? = some i.number) ∧
      followers outcomes = (candidates.filter (follows t n h.log calls)).map (·.number) ∧
      h.Advances h' calls (c.settled (followers outcomes)) := by
  induction candidates generalizing h with
  | nil =>
    refine ⟨[], h, [], rfl, by simp, rfl, ?_⟩
    rw [show followers [] = [] from rfl, settled_nil]
    exact Host.advances_refl h
  | cons i rest ih =>
    rw [List.map_cons, List.nodup_cons] at hnodup
    obtain ⟨r, hr, hbody⟩ := hknown i List.mem_cons_self
    obtain ⟨outcome, h₁, first, hrun, hturn⟩ := follow_turn (c := c) (n := n) hs hr hbody
    have hknown₁ := known_of_advances hturn.advances fun j hj => hknown j (List.mem_cons_of_mem i hj)
    obtain ⟨outcomes, h₂, later, hruns, habout, hfollowers, hadv⟩ := ih hnodup.2 hknown₁
    have hne : ∀ j ∈ rest, j.number ≠ i.number := fun j hj hji =>
      hnodup.1 (List.mem_map.mpr ⟨j, hj, hji⟩)
    -- the calls about one candidate do not decide about another
    have hlater : ∀ d ∈ later, d.issue? ≠ some i.number := by
      intro d hd heq
      obtain ⟨j, hj, hdj⟩ := habout d hd
      exact hne j hj (Option.some.inj (hdj.symm.trans heq))
    have hrest : rest.filter (follows t n h.log (first ++ later)) =
        rest.filter (follows t n h₁.log later) := by
      refine List.filter_congr fun j hj => ?_
      rw [hturn.advances.log]
      refine follows_append_right (fun d hd heq => hne j hj ?_) h.log later
      exact Option.some.inj (heq.symm.trans (hturn.about d hd))
    refine ⟨outcome :: outcomes, h₂, first ++ later, ?_, ?_, ?_, ?_⟩
    · exact Op.each_attempt_cons hrun hruns
    · intro d hd
      rcases List.mem_append.mp hd with hd | hd
      · exact ⟨i, List.mem_cons_self, hturn.about d hd⟩
      · obtain ⟨j, hj, hdj⟩ := habout d hd
        exact ⟨j, List.mem_cons_of_mem i hj, hdj⟩
    · rw [followers_cons, hturn.decided, hfollowers, List.filter_cons, hrest,
        follows_append_left hlater]
      split_ifs
      · rfl
      · rfl
    · rw [followers_cons, settled_append]
      exact hturn.advances.trans hadv

/-- What a cascade takes for granted of the search: it finds, each once, the issues that are no pull
requests, are in a state and have a label. -/
structure FindsExactly (t : Tracker) (h : Host) (query state label : String) : Prop where
  nodup : (t.find query h.issues).Nodup
  mem_iff : ∀ i, i ∈ t.find query h.issues ↔
    i ∈ h.issues ∧ i.isPullRequest = false ∧ i.state = state ∧ label ∈ i.labelNames

lemma exists_record_of_mem_issues {i : Issue} (hi : i ∈ h.issues) :
    ∃ r, h.record? i.number = some r ∧ r.issue = i := by
  obtain ⟨r, hr, rfl⟩ := List.mem_map.mp hi
  exact ⟨r, Host.record?_eq_some_iff.mpr ⟨hr, rfl⟩, rfl⟩

lemma FindsExactly.nodup_numbers {query state label : String}
    (hf : FindsExactly t h query state label) :
    ((t.find query h.issues).map (·.number)).Nodup := by
  refine hf.nodup.map_on fun i hi j hj hij => ?_
  obtain ⟨r, hr, rfl⟩ := exists_record_of_mem_issues ((hf.mem_iff i).mp hi).1
  obtain ⟨u, hu, rfl⟩ := exists_record_of_mem_issues ((hf.mem_iff j).mp hj).1
  rw [hij, hu] at hr
  rw [Option.some.inj hr]

/-- The calls that report the followers on the changed issue. -/
def report (c : Cascade) (n : Int) (changed : List Int) : List Call :=
  [.fetch n, .change n (.comment (c.summary changed))]

/-- A full account of a run: which calls it made, which issues followed, and what became of the
records. -/
structure Account (c : Cascade) (s : DuplicateSettings) (t : Tracker) (h : Host) (issue : Issue)
    (query : String) (calls : List Call) (changed : List Int) : Prop where
  states : (c.source.text, c.goal.text) = if c = .close then ("open", "closed") else ("closed", "open")
  /-- Between the search and the report, all calls are about candidates. -/
  about : ∀ d ∈ calls, ∃ i ∈ t.find query h.issues, d.issue? = some i.number
  /-- The followers stand in the order of the search. -/
  order : changed = ((t.find query h.issues).filter
    (follows t issue.number (h.log ++ [.search query]) calls)).map (·.number)
  exact : ∀ k, k ∈ changed ↔ ∃ i ∈ h.issues, i.number = k ∧ i.isPullRequest = false ∧
    i.state = c.source.text ∧ s.label ∈ i.labelNames ∧
    refersTo t.digits issue.number i = true ∧
    t.spares k (h.log ++ [.search query]) calls = true
  /-- The report names the followers, in their order. -/
  named : namedIssues (c.summary changed) = changed
  /-- Without followers there is no report, and nothing changes. -/
  unchanged : changed = [] → ∃ h', c.run (some s) issue t h = (.ok [], h') ∧
    h'.log = h.log ++ .search query :: calls ∧ h'.records = h.records
  /-- Followers are set to the goal, and the changed issue gets the report. -/
  reported : changed ≠ [] →
    t.spares issue.number (h.log ++ .search query :: calls) (c.report issue.number changed) = true →
    ∃ h', c.run (some s) issue t h = (.ok changed, h') ∧
      h'.log = h.log ++ .search query :: calls ++ c.report issue.number changed ∧
      h'.records = h.records.map
        (Record.only issue.number (Record.after (.comment (c.summary changed))) ∘ c.settled changed)
  /-- When the report fails, the followers have still followed. -/
  unreported : changed ≠ [] →
    t.spares issue.number (h.log ++ .search query :: calls) (c.report issue.number changed) = false →
    ∃ e h' made, c.run (some s) issue t h = (.error e, h') ∧
      h'.log = h.log ++ .search query :: calls ++ made ∧
      h'.records = h.records.map (c.settled changed)

/-- The run after its candidates had their turns. -/
lemma run_eq {s : DuplicateSettings} {issue : Issue} {h₁ : Host}
    {outcomes : List (Except Failure (Option Int))} (henabled : c.isEnabled s = true)
    (hsearch : t.fails (h.log ++ [.search (c.query s.label t.scope)]) = none)
    (heach : Step.each (fun i => (c.follow issue.number i).attempt)
      (t.find (c.query s.label t.scope) h.issues) t (h.logged (.search (c.query s.label t.scope))) =
        (outcomes, h₁)) :
    c.run (some s) issue t h =
      (if followers outcomes = [] then return []
      else do
        Tracker.comment issue.number (c.summary (followers outcomes))
        return followers outcomes : Op Failure (List Int)) t h₁ := by
  have hstep : (Op.ofStep (Step.each (fun i => (c.follow issue.number i).attempt)
      (t.find (c.query s.label t.scope) h.issues)) : Op Failure _) t
        (h.logged (.search (c.query s.label t.scope))) = (.ok outcomes, h₁) := by
    rw [Op.ofStep, heach]
  simp only [run, henabled, if_true]
  refine (Op.bind_ok (x := Op.scope) rfl _).trans ?_
  exact (Op.bind_ok (Tracker.searchIssues_ok hsearch) _).trans (Op.bind_ok hstep _)

/-- An enabled cascade on an issue that exists, when its search does not fail. -/
theorem run_exact (c : Cascade) (s : DuplicateSettings) (t : Tracker) (h : Host) (issue : Issue)
    (henabled : c.isEnabled s = true) (hscope : t.scope.fullName = t.home)
    (hknown : issue.number ∈ h.records.map Record.number)
    (hfind : FindsExactly t h (c.query s.label t.scope) c.source.text s.label)
    (hsearch : t.fails (h.log ++ [.search (c.query s.label t.scope)]) = none) :
    ∃ calls changed, Account c s t h issue (c.query s.label t.scope) calls changed := by
  have hlogged := Host.advances_logged h (.search (c.query s.label t.scope))
  have hcandidates : ∀ i ∈ t.find (c.query s.label t.scope) h.issues,
      ∃ r, (h.logged (.search (c.query s.label t.scope))).record? i.number = some r ∧
        r.issue.body = i.body := by
    intro i hi
    obtain ⟨r, hr, rfl⟩ := exists_record_of_mem_issues ((hfind.mem_iff i).mp hi).1
    exact ⟨r, hr, rfl⟩
  obtain ⟨outcomes, h₁, calls, heach, habout, hfollowers, hadv⟩ :=
    each_follow (c := c) (n := issue.number) hscope hfind.nodup_numbers hcandidates
  have hrun := run_eq henabled hsearch heach
  have hturns := hlogged.trans hadv
  have hlog : h₁.log = h.log ++ .search (c.query s.label t.scope) :: calls := hturns.log
  obtain ⟨trigger, htrigger, hnumber⟩ := List.mem_map.mp hknown
  have hr : h.record? issue.number = some trigger := Host.record?_eq_some_iff.mpr ⟨htrigger, hnumber⟩
  have hr₁ := hturns.record? hr
  refine ⟨calls, followers outcomes, c.states_eq, habout, hfollowers, fun k => ?_, c.namedIssues_summary _,
    fun hnone => ?_, fun hsome hspares => ?_, fun hsome hspares => ?_⟩
  · rw [hfollowers, List.mem_map]
    constructor
    · rintro ⟨i, hi, rfl⟩
      obtain ⟨hfound, hfollows⟩ := List.mem_filter.mp hi
      obtain ⟨hmem, hpull, hstate, hlabel⟩ := (hfind.mem_iff i).mp hfound
      rw [follows, Bool.and_eq_true] at hfollows
      exact ⟨i, hmem, rfl, hpull, hstate, hlabel, hfollows.1, hfollows.2⟩
    · rintro ⟨i, hmem, rfl, hpull, hstate, hlabel, href, hspares⟩
      refine ⟨i, List.mem_filter.mpr ⟨(hfind.mem_iff i).mpr ⟨hmem, hpull, hstate, hlabel⟩, ?_⟩, rfl⟩
      rw [follows, Bool.and_eq_true]
      exact ⟨href, hspares⟩
  · rw [hnone, settled_nil] at hturns
    rw [hrun, if_pos hnone]
    exact ⟨h₁, rfl, hlog, hturns.records.trans (List.map_id _)⟩
  · rw [← hlog] at hspares ⊢
    obtain ⟨h₂, hcomment, hadv₂⟩ := Tracker.alter_ok hscope hr₁ rfl hspares (.comment issue.number)
    rw [hrun, if_neg hsome]
    refine ⟨h₂, (Op.bind_ok hcomment _).trans rfl, hadv₂.log, ?_⟩
    rw [hadv₂.records, hturns.records, List.map_map]
    rfl
  · rw [← hlog] at hspares ⊢
    obtain ⟨e, h₂, made, herror, hadv₂, -⟩ :=
      Tracker.alter_error hscope hr₁ hspares (.comment issue.number)
    rw [hrun, if_neg hsome]
    refine ⟨e, h₂, made, Op.bind_error herror _, hadv₂.log, ?_⟩
    rw [hadv₂.records, List.map_id, hturns.records]
    rfl

/-- A tracker with a search of its own for open issues with one label, where closing issue 3 fails. -/
def shakyTracker : Tracker where
  scope := ⟨"acme", "desk"⟩
  home := "acme/desk"
  find _ issues := issues.filter fun i =>
    !i.isPullRequest && i.state == "open" && decide ("duplicate" ∈ i.labelNames)
  fails log :=
    if log.getLast? = some (.change 3 (.setState "closed")) then some (.unreachable "reset") else none

def markedIssue (n : Int) (stored : String) : Record where
  issue := {
    number := n
    body := some ("<!-- ladybug = \x7b\"duplicateOf\": " ++ stored ++ "\x7d -->")
    state := "open"
    labels := [.named "duplicate"] }

/-- Issue 1 was closed. The others refer to it by a number, by a number, by a text and not at all. -/
def shakyHost : Host where
  records := [{ issue := { number := 1, state := "closed" } }, markedIssue 2 "1", markedIssue 3 "1",
    markedIssue 4 "\" 1 \"", markedIssue 5 "[1]"]
  distinct := by decide

/-- One failure does not keep the others back, and the comment on issue 1 says who followed. -/
theorem run_exact_with_failure :
    (∃ calls changed, Account .close ⟨"duplicate", true, true⟩ shakyTracker shakyHost
      { number := 1, state := "closed" } (Cascade.close.query "duplicate" shakyTracker.scope) calls
      changed) ∧
    (Cascade.close.run (some ⟨"duplicate", true, true⟩) { number := 1, state := "closed" } shakyTracker
      shakyHost).1.toOption = some [2, 4] ∧
    (Cascade.close.run (some ⟨"duplicate", true, true⟩) { number := 1, state := "closed" } shakyTracker
      shakyHost).2.records.map (fun r => (r.issue.state, r.posted)) =
        [("closed", ["Closed other issues that were marked as duplicates of this one: #2, #4"]),
          ("closed", []), ("open", []), ("closed", []), ("open", [])] := by
  have hfind : FindsExactly shakyTracker shakyHost (Cascade.close.query "duplicate" shakyTracker.scope)
      "open" "duplicate" := by
    constructor
    · refine List.Nodup.of_map (·.number) ?_
      decide +kernel
    · intro i
      simp [shakyTracker, List.mem_filter, and_assoc]
  refine ⟨run_exact .close ⟨"duplicate", true, true⟩ shakyTracker shakyHost _ rfl rfl ?_ hfind rfl, ?_, ?_⟩
  · decide
  · decide +kernel
  · decide +kernel

end Triage.Duplicate.Cascade
