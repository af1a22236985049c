import Mathlib
import Triage.Proofs.CascadeExactness

/-!
# Cascades that set off cascades

An issue that follows another one is changed itself, so its own duplicates follow as soon as the event
about it is delivered. Where no call fails, the deliveries that one event sets off carry the change to
every issue that a chain of stored targets links to the first one, to each of them once, in whatever
order they are handled, and each of them is named in one comment. A cycle of targets does not keep the
deliveries going, because an issue that followed is no candidate any more.
-/

namespace Triage.Duplicate.Cascade

/-- A handled delivery: the issue that its event is about, and the issues that followed. -/
structure Delivery where
  trigger : Int
  followed : List Int

/-- All issues that followed, in the order in which they did. -/
def followedIn (ds : List Delivery) : List Int := ds.flatMap (·.followed)

/-- The comments that deliveries leave on one issue. -/
def remarks (c : Cascade) (n : Int) (ds : List Delivery) : List String :=
  (ds.filter fun d => d.trigger = n ∧ d.followed ≠ []).map fun d => c.summary d.followed

/-- The comment that one delivery leaves, if it leaves any. -/
def remark (c : Cascade) (d : Delivery) : List String :=
  if d.followed = [] then [] else [c.summary d.followed]

/-- A record after comments were posted on its issue. -/
def commented (texts : List String) (r : Record) : Record :=
  { r with
    issue := { r.issue with comments := r.issue.comments + texts.length }
    posted := r.posted ++ texts }

/-- A record after deliveries: its issue has the goal as its state if it is among those that followed,
and the comments about the followers of its own. -/
def carried (c : Cascade) (ds : List Delivery) (r : Record) : Record :=
  commented (c.remarks r.number ds) (c.settled (followedIn ds) r)

/-- All comments that were posted on the issues of a host. -/
def commentsOf (h : Host) : List String := h.records.flatMap (·.posted)

/-- In how many comments an issue is named. -/
def commentsNaming (h : Host) (j : Int) : ℕ :=
  (commentsOf h).countP fun text => decide (j ∈ namedIssues text)

/-- Whether an issue may follow. -/
def IsCandidate (c : Cascade) (s : DuplicateSettings) (h : Host) (i : Issue) : Prop :=
  i ∈ h.issues ∧ i.isPullRequest = false ∧ i.state = c.source.text ∧ s.label ∈ i.labelNames

/-- The least set of candidates that refer to an issue or to one of themselves. -/
inductive Reached (c : Cascade) (s : DuplicateSettings) (limit : DigitLimit) (h : Host) (n : Int) :
    Int → Prop
  | direct {i : Issue} (hi : c.IsCandidate s h i) (href : refersTo limit n i = true) :
      Reached c s limit h n i.number
  | onward {k : Int} {i : Issue} (hk : Reached c s limit h n k) (hi : c.IsCandidate s h i)
      (href : refersTo limit k i = true) : Reached c s limit h n i.number

/-- The deliveries that still have to be made, by the issue they are about, and the host. -/
structure Backlog where
  pending : Multiset Int
  host : Host

/-- Any of the pending deliveries is handled, with any snapshot of its issue. There will be a delivery
for every issue that followed. -/
inductive Handles (c : Cascade) (s : DuplicateSettings) (t : Tracker) :
    Backlog → Delivery → Backlog → Prop
  | intro (issue : Issue) (rest : Multiset Int) {h h' : Host} {followed : List Int}
      (hrun : c.run (some s) issue t h = (.ok followed, h')) :
      Handles c s t ⟨issue.number ::ₘ rest, h⟩ ⟨issue.number, followed⟩ ⟨rest + followed, h'⟩

/-- Deliveries handled one after another. -/
inductive Drains (c : Cascade) (s : DuplicateSettings) (t : Tracker) (start : Backlog) :
    List Delivery → Backlog → Prop
  | start : Drains c s t start [] start
  | snoc {ds : List Delivery} {d : Delivery} {b b' : Backlog} (hds : Drains c s t start ds b)
      (hd : Handles c s t b d b') : Drains c s t start (ds ++ [d]) b'

variable {c : Cascade} {s : DuplicateSettings} {t : Tracker} {h : Host} {n : Int}

lemma followedIn_append (ds es : List Delivery) :
    followedIn (ds ++ es) = followedIn ds ++ followedIn es :=
  List.flatMap_append

lemma followedIn_singleton (d : Delivery) : followedIn [d] = d.followed :=
  List.flatMap_singleton ..

lemma remarks_singleton (k : Int) (d : Delivery) :
    c.remarks k [d] = if k = d.trigger then c.remark d else [] := by
  unfold remarks remark
  by_cases hk : k = d.trigger
  · by_cases hnone : d.followed = []
    · simp [hnone]
    · simp [hk, hnone]
  · simp [hk, Ne.symm hk]

lemma commented_nil (r : Record) : commented [] r = r := by
  simp [commented]

lemma commented_append (first rest : List String) (r : Record) :
    commented (first ++ rest) r = commented rest (commented first r) := by
  simp [commented, add_assoc]

lemma settled_commented (numbers : List Int) (texts : List String) (r : Record) :
    c.settled numbers (commented texts r) = commented texts (c.settled numbers r) := by
  have hnumber : (commented texts r).number = r.number := rfl
  unfold settled
  rw [hnumber]
  split_ifs
  · rfl
  · rfl

lemma number_settled (numbers : List Int) (r : Record) : (c.settled numbers r).number = r.number := by
  unfold settled
  split_ifs
  · rfl
  · rfl

lemma number_carried (ds : List Delivery) (r : Record) : (c.carried ds r).number = r.number :=
  number_settled _ r

lemma carried_append (ds es : List Delivery) :
    c.carried (ds ++ es) = c.carried es ∘ c.carried ds := by
  funext r
  have hremarks : c.remarks r.number (ds ++ es) = c.remarks r.number ds ++ c.remarks r.number es := by
    unfold remarks
    rw [List.filter_append, List.map_append]
  have hlater : c.carried es (c.carried ds r) =
      commented (c.remarks r.number es) (c.settled (followedIn es) (c.carried ds r)) := by
    rw [carried, number_carried]
  rw [Function.comp_apply, hlater, carried, carried, hremarks, followedIn_append, settled_append,
    commented_append, settled_commented, Function.comp_apply]

lemma carried_nil : c.carried [] = id := by
  funext r
  exact (commented_nil _).trans (congrFun settled_nil r)

lemma carried_without_followers : c.carried [⟨n, []⟩] = id := by
  funext r
  have hremark : c.remark ⟨n, []⟩ = [] := rfl
  rw [carried, remarks_singleton, hremark, ite_self, commented_nil]
  exact congrFun settled_nil r

lemma carried_with_followers {followed : List Int} (hsome : followed ≠ []) :
    c.carried [⟨n, followed⟩] =
      Record.only n (Record.after (.comment (c.summary followed))) ∘ c.settled followed := by
  funext r
  have hremark : c.remark ⟨n, followed⟩ = [c.summary followed] := if_neg hsome
  rw [carried, remarks_singleton, hremark, followedIn_singleton, Function.comp_apply]
  by_cases hn : r.number = n
  · rw [if_pos hn, Record.only_of_eq ((number_settled _ r).trans hn)]
    rfl
  · rw [if_neg hn, commented_nil, Record.only_of_ne ((number_settled _ r).trans_ne hn)]

lemma posted_carried (d : Delivery) (r : Record) :
    (c.carried [d] r).posted = r.posted ++ if r.number = d.trigger then c.remark d else [] := by
  have hsettled : (c.settled (followedIn [d]) r).posted = r.posted := by
    unfold settled
    split_ifs
    · rfl
    · rfl
  rw [← remarks_singleton, ← hsettled]
  rfl

/-- When comments are added to one issue, these are added to all. -/
lemma perm_comments {f : Record → Record} {more : List String} {records : List Record}
    (hnodup : (records.map Record.number).Nodup) (hn : n ∈ records.map Record.number)
    (hf : ∀ r, (f r).posted = r.posted ++ if r.number = n then more else []) :
    ((records.map f).flatMap (·.posted)).Perm (records.flatMap (·.posted) ++ more) := by
  induction records with
  | nil => cases hn
  | cons r records ih =>
    rw [List.map_cons, List.nodup_cons] at hnodup
    rw [List.map_cons, List.flatMap_cons, List.flatMap_cons, hf, List.append_assoc, List.append_assoc]
    apply List.Perm.append_left
    by_cases hr : r.number = n
    · have hothers : (records.map f).flatMap (·.posted) = records.flatMap (·.posted) := by
        rw [List.flatMap_map]
        apply List.flatMap_congr
        intro u hu
        have hne : u.number ≠ n := fun heq => hnodup.1 (List.mem_map.mpr ⟨u, hu, heq.trans hr.symm⟩)
        rw [hf, if_neg hne, List.append_nil]
      rw [if_pos hr, hothers]
      exact List.perm_append_comm
    · rw [if_neg hr, List.nil_append]
      exact ih hnodup.2 ((List.mem_cons.mp hn).resolve_left (Ne.symm hr))

/-- A delivery leaves every issue that followed in one more comment. -/
lemma commentsNaming_carried {h' : Host} {d : Delivery} (hrecords : h'.records = h.records.map (c.carried [d]))
    (hknown : d.trigger ∈ h.records.map Record.number) (hnodup : d.followed.Nodup) (j : Int) :
    commentsNaming h' j = commentsNaming h j + d.followed.count j := by
  have hperm := perm_comments h.distinct hknown (c.posted_carried d)
  rw [← hrecords] at hperm
  unfold commentsNaming commentsOf
  rw [hperm.countP_eq, List.countP_append, hnodup.count, remark]
  by_cases hnone : d.followed = []
  · simp [hnone]
  · rw [if_neg hnone, List.countP_singleton, c.namedIssues_summary]
    simp only [decide_eq_true_eq]

/-- The calls of a candidate's turn when none of them fails. -/
def visit (c : Cascade) (limit : DigitLimit) (n : Int) (i : Issue) : List Call :=
  .fetch i.number ::
    if refersTo limit n i then [.fetch i.number, .change i.number (.setState c.goal.text)] else []

/-- The issues that follow when no call fails. -/
def next (c : Cascade) (s : DuplicateSettings) (t : Tracker) (h : Host) (n : Int) : List Int :=
  ((t.find (c.query s.label t.scope) h.issues).filter (refersTo t.digits n)).map (·.number)

/-- The calls of a run in which none fails. -/
def calls (c : Cascade) (s : DuplicateSettings) (t : Tracker) (h : Host) (n : Int) : List Call :=
  .search (c.query s.label t.scope) ::
    ((t.find (c.query s.label t.scope) h.issues).flatMap (c.visit t.digits n) ++
      if c.next s t h n = [] then [] else c.report n (c.next s t h n))

section Calm

variable (hcalm : ∀ log, t.fails log = none) (hscope : t.scope.fullName = t.home)

include hcalm hscope

lemma follow_calm {i : Issue} {r : Record} (hr : h.record? i.number = some r)
    (hbody : r.issue.body = i.body) :
    ∃ outcome h', c.follow n i t h = (outcome, h') ∧
      followers [outcome] = (if refersTo t.digits n i then [i.number] else []) ∧
      h.Advances h' (c.visit t.digits n i) (c.settled (followers [outcome])) := by
  have hlogged := Host.advances_logged h (.fetch i.number)
  cases href : refersTo t.digits n i with
  | false =>
    obtain ⟨outcome, hrun, hnone⟩ := follow_unrelated (c := c) hscope hr hbody (hcalm _) href
    refine ⟨outcome, _, hrun, hnone, ?_⟩
    rw [visit, href, hnone, settled_nil]
    exact hlogged
  | true =>
    have hr' : (h.logged (.fetch i.number)).record? i.number = some r := hr
    obtain ⟨h', hset, hadv⟩ := Tracker.alter_ok (c := .setState c.goal.text) hscope hr' rfl
      (Tracker.spares_of_fails hcalm _) (.setState i.number c.goal.text)
    have hrun := follow_related (c := c) hscope hr hbody (hcalm _) href
    refine ⟨.ok (some i.number), h', hrun.trans ((Op.bind_ok hset _).trans rfl), rfl, ?_⟩
    have hone : followers [.ok (some i.number)] = [i.number] := rfl
    rw [visit, href, hone, settled_singleton]
    exact hlogged.trans hadv

lemma each_calm {candidates : List Issue}
    (hknown : ∀ i ∈ candidates, ∃ r, h.record? i.number = some r ∧ r.issue.body = i.body) :
    ∃ outcomes h',
      Step.each (fun i => (c.follow n i).attempt) candidates t h = (outcomes, h') ∧
      followers outcomes = (candidates.filter (refersTo t.digits n)).map (·.number) ∧
      h.Advances h' (candidates.flatMap (c.visit t.digits n)) (c.settled (followers outcomes)) := by
  induction candidates generalizing h with
  | nil =>
    refine ⟨[], h, rfl, rfl, ?_⟩
    rw [show followers [] = [] from rfl, settled_nil]
    exact Host.advances_refl h
  | cons i rest ih =>
    obtain ⟨r, hr, hbody⟩ := hknown i List.mem_cons_self
    obtain ⟨outcome, h₁, hrun, hdecided, hadv⟩ := follow_calm (c := c) (n := n) hcalm hscope hr hbody
    have hknown₁ := known_of_advances hadv fun j hj => hknown j (List.mem_cons_of_mem i hj)
    obtain ⟨outcomes, h₂, hruns, hfollowers, hlater⟩ := ih hknown₁
    refine ⟨outcome :: outcomes, h₂, Op.each_attempt_cons hrun hruns, ?_, ?_⟩
    · rw [followers_cons, hdecided, hfollowers, List.filter_cons]
      split_ifs
      · rfl
      · rfl
    · rw [followers_cons, settled_append]
      exact hadv.trans hlater

theorem run_calm {issue : Issue} (henabled : c.isEnabled s = true)
    (hknown : issue.number ∈ h.records.map Record.number)
    (hfind : FindsExactly t h (c.query s.label t.scope) c.source.text s.label) :
    ∃ h', c.run (some s) issue t h = (.ok (c.next s t h issue.number), h') ∧
      h.Advances h' (c.calls s t h issue.number)
        (c.carried [⟨issue.number, c.next s t h issue.number⟩]) := by
  have hlogged := Host.advances_logged h (.search (c.query s.label t.scope))
  have hcandidates : ∀ i ∈ t.find (c.query s.label t.scope) h.issues,
      ∃ r, (h.logged (.search (c.query s.label t.scope))).record? i.number = some r ∧
        r.issue.body = i.body := by
    intro i hi
    obtain ⟨r, hr, rfl⟩ := exists_record_of_mem_issues ((hfind.mem_iff i).mp hi).1
    exact ⟨r, hr, rfl⟩
  obtain ⟨outcomes, h₁, heach, hfollowers, hadv⟩ :=
    each_calm (c := c) (n := issue.number) hcalm hscope hcandidates
  have hnext : followers outcomes = c.next s t h issue.number := hfollowers
  have hrun := run_eq henabled (hcalm _) heach
  have hturns := hlogged.trans hadv
  rw [hnext] at hrun hturns
  obtain ⟨r, hr, hnumber⟩ := List.mem_map.mp hknown
  have hr₁ := hturns.record? (Host.record?_eq_some_iff.mpr ⟨hr, hnumber⟩)
  rw [hrun]
  unfold calls
  by_cases hnone : c.next s t h issue.number = []
  · rw [if_pos hnone, if_pos hnone, hnone, carried_without_followers, List.append_nil]
    rw [hnone, settled_nil] at hturns
    exact ⟨h₁, rfl, hturns⟩
  · obtain ⟨h₂, hcomment, hadv₂⟩ := Tracker.alter_ok
      (c := .comment (c.summary (c.next s t h issue.number))) hscope hr₁ rfl
      (Tracker.spares_of_fails hcalm _) (.comment issue.number)
    rw [if_neg hnone, if_neg hnone, carried_with_followers hnone]
    exact ⟨h₂, (Op.bind_ok hcomment _).trans rfl, hturns.trans hadv₂⟩

end Calm

/-- A run sets each issue that follows to the goal once, and no other issue. -/
lemma count_calls (j : Int) :
    (c.calls s t h n).count (.change j (.setState c.goal.text)) = (c.next s t h n).count j := by
  have hvisits (found : List Issue) :
      (found.flatMap (c.visit t.digits n)).count (.change j (.setState c.goal.text)) =
        ((found.filter (refersTo t.digits n)).map (·.number)).count j := by
    induction found with
    | nil => rfl
    | cons i found ih =>
      rw [List.flatMap_cons, List.count_append, ih, visit, List.filter_cons]
      split_ifs with href
      · simp [List.count_cons, add_comm]
      · simp
  have hreport : (if c.next s t h n = [] then [] else c.report n (c.next s t h n)).count
      (.change j (.setState c.goal.text)) = 0 := by
    split_ifs
    · rfl
    · simp [report]
  have hsearch : (Call.search (c.query s.label t.scope) == .change j (.setState c.goal.text)) = false :=
    rfl
  rw [calls, List.count_cons, hsearch, List.count_append, hvisits, hreport]
  rfl

lemma goal_ne_source (c : Cascade) : c.goal.text ≠ c.source.text := by
  cases c <;> decide

lemma refersTo_congr {limit : DigitLimit} {i j : Issue} (hbody : i.body = j.body) :
    refersTo limit n i = refersTo limit n j := by
  unfold refersTo
  rw [hbody]

/-- Whether a function of records sets some issues to the goal and otherwise only posts comments. -/
def Moves (c : Cascade) (numbers : List Int) (f : Record → Record) : Prop :=
  ∀ r, ∃ texts, f r = commented texts (c.settled numbers r)

section Followed

variable {h' : Host} {numbers : List Int} {f : Record → Record} (hf : c.Moves numbers f)

include hf

lemma number_followed (r : Record) : (f r).number = r.number := by
  obtain ⟨texts, htexts⟩ := hf r
  rw [htexts]
  exact number_settled numbers r

lemma refersTo_followed (limit : DigitLimit) (n : Int) (r : Record) :
    refersTo limit n (f r).issue = refersTo limit n r.issue := by
  obtain ⟨texts, htexts⟩ := hf r
  rw [htexts]
  exact refersTo_congr (settled_body numbers r)

variable (hrecords : h'.records = h.records.map f)

include hrecords

/-- When some issues have followed and comments were posted, the candidates left are those that have
not followed. -/
lemma candidate_followed {r : Record} (hr : r ∈ h.records) :
    c.IsCandidate s h' (f r).issue ↔ r.number ∉ numbers ∧ c.IsCandidate s h r.issue := by
  have hmem : r.issue ∈ h.issues := List.mem_map_of_mem hr
  have hmem' : (f r).issue ∈ h'.issues := by
    unfold Host.issues
    rw [hrecords]
    exact List.mem_map_of_mem (List.mem_map_of_mem hr)
  obtain ⟨texts, htexts⟩ := hf r
  unfold IsCandidate
  by_cases hin : r.number ∈ numbers
  · have hstate : (f r).issue.state ≠ c.source.text := by
      have hgoal : (f r).issue.state = c.goal.text := by
        rw [htexts, settled, if_pos hin]
        rfl
      rw [hgoal]
      exact goal_ne_source c
    exact iff_of_false (fun hi => hstate hi.2.2.1) (fun hi => hi.1 hin)
  · rw [settled, if_neg hin] at htexts
    rw [htexts] at hmem' ⊢
    exact ⟨fun hi => ⟨hin, hmem, hi.2⟩, fun hi => ⟨hmem', hi.2.2⟩⟩

lemma mem_next (hfind : FindsExactly t h' (c.query s.label t.scope) c.source.text s.label) (k j : Int) :
    j ∈ c.next s t h' k ↔ j ∉ numbers ∧
      ∃ i, c.IsCandidate s h i ∧ i.number = j ∧ refersTo t.digits k i = true := by
  unfold next
  rw [List.mem_map]
  constructor
  · rintro ⟨i, hi, rfl⟩
    obtain ⟨hfound, href⟩ := List.mem_filter.mp hi
    have hcandidate : c.IsCandidate s h' i := (hfind.mem_iff i).mp hfound
    obtain ⟨u, hu, rfl⟩ := List.mem_map.mp hcandidate.1
    rw [hrecords] at hu
    obtain ⟨r, hr, rfl⟩ := List.mem_map.mp hu
    obtain ⟨hnot, hi⟩ := (candidate_followed hf hrecords hr).mp hcandidate
    have hnumber : (f r).issue.number = r.issue.number := number_followed hf r
    rw [refersTo_followed hf] at href
    rw [hnumber]
    exact ⟨hnot, r.issue, hi, rfl, href⟩
  · rintro ⟨hnot, i, hi, rfl, href⟩
    obtain ⟨r, hr, rfl⟩ := List.mem_map.mp hi.1
    rw [← refersTo_followed hf] at href
    have hcandidate := (candidate_followed hf hrecords hr).mpr ⟨hnot, hi⟩
    refine ⟨(f r).issue, List.mem_filter.mpr ⟨?_, href⟩, number_followed hf r⟩
    exact (hfind.mem_iff _).mpr hcandidate

end Followed

/-- What holds after any deliveries: no issue followed twice, those that followed are reached, each of
them has had its delivery or still waits for it, and a handled delivery has left out nobody. -/
structure Progress (c : Cascade) (s : DuplicateSettings) (t : Tracker) (h : Host) (n : Int)
    (ds : List Delivery) (b : Backlog) : Prop where
  nodup : (followedIn ds).Nodup
  reached : ∀ j ∈ followedIn ds, Reached c s t.digits h n j
  delivered : b.pending + (ds.map (·.trigger) : List Int) = n ::ₘ (followedIn ds : Multiset Int)
  covered : ∀ d ∈ ds, ∀ i, c.IsCandidate s h i → refersTo t.digits d.trigger i = true →
    i.number ∈ followedIn ds
  records : b.host.records = h.records.map (c.carried ds)
  sets : ∀ j, b.host.log.count (.change j (.setState c.goal.text)) =
    h.log.count (.change j (.setState c.goal.text)) + (followedIn ds).count j
  named : ∀ j, commentsNaming b.host j = commentsNaming h j + (followedIn ds).count j

lemma progress_start : Progress c s t h n [] ⟨{n}, h⟩ where
  nodup := List.nodup_nil
  reached := by simp [followedIn]
  delivered := rfl
  covered := by simp
  records := by rw [carried_nil, List.map_id]
  sets j := rfl
  named j := rfl

lemma Reached.mem_numbers {limit : DigitLimit} {j : Int} (hj : Reached c s limit h n j) :
    j ∈ h.records.map Record.number := by
  have hcandidate {i : Issue} (hi : c.IsCandidate s h i) : i.number ∈ h.records.map Record.number := by
    obtain ⟨r, hr, rfl⟩ := List.mem_map.mp hi.1
    exact List.mem_map_of_mem hr
  cases hj with
  | direct hi href => exact hcandidate hi
  | onward hk hi href => exact hcandidate hi

lemma Reached.of_trigger {limit : DigitLimit} {k : Int} {i : Issue}
    (hk : k = n ∨ Reached c s limit h n k) (hi : c.IsCandidate s h i)
    (href : refersTo limit k i = true) : Reached c s limit h n i.number := by
  rcases hk with rfl | hk
  · exact .direct hi href
  · exact .onward hk hi href

section Deliveries

variable {ds : List Delivery} {d : Delivery} {b b' : Backlog}

lemma Progress.pending (hp : Progress c s t h n ds b) {k : Int} (hk : k ∈ b.pending) :
    k = n ∨ Reached c s t.digits h n k := by
  have hmem : k ∈ b.pending + (ds.map (·.trigger) : List Int) := Multiset.mem_add.mpr (.inl hk)
  rw [hp.delivered, Multiset.mem_cons] at hmem
  exact hmem.imp_right (hp.reached k)

variable (henabled : c.isEnabled s = true) (hscope : t.scope.fullName = t.home)
  (hcalm : ∀ log, t.fails log = none)
  (hfind : ∀ h', FindsExactly t h' (c.query s.label t.scope) c.source.text s.label)
  (hknown : n ∈ h.records.map Record.number)

include hknown in
lemma Progress.mem_numbers (hp : Progress c s t h n ds b) {k : Int} (hk : k ∈ b.pending) :
    k ∈ b.host.records.map Record.number := by
  have hnumbers : b.host.records.map Record.number = h.records.map Record.number := by
    rw [hp.records, List.map_map]
    exact List.map_congr_left fun r _ => number_carried ds r
  rw [hnumbers]
  rcases hp.pending hk with heq | hreached
  · rw [heq]
    exact hknown
  · exact hreached.mem_numbers

include henabled hscope hcalm hfind hknown

/-- Every pending delivery can be handled, with any snapshot of its issue. -/
lemma Progress.handle (hp : Progress c s t h n ds b) {issue : Issue} (hi : issue.number ∈ b.pending) :
    ∃ h', c.run (some s) issue t b.host = (.ok (c.next s t b.host issue.number), h') ∧
      b.host.Advances h' (c.calls s t b.host issue.number)
        (c.carried [⟨issue.number, c.next s t b.host issue.number⟩]) :=
  run_calm hcalm hscope henabled (hp.mem_numbers hknown hi) (hfind b.host)

theorem Progress.step (hp : Progress c s t h n ds b) (hd : Handles c s t b d b') :
    Progress c s t h n (ds ++ [d]) b' := by
  cases hd with
  | @intro issue rest h₁ h₂ followed hrun =>
    have hpending : issue.number ∈ issue.number ::ₘ rest := Multiset.mem_cons_self _ _
    obtain ⟨h', hok, hadv⟩ := hp.handle henabled hscope hcalm hfind hknown hpending
    rw [hrun, Prod.mk.injEq, Except.ok.injEq] at hok
    obtain ⟨rfl, rfl⟩ := hok
    have hnext := mem_next (fun _ => ⟨_, rfl⟩) hp.records (hfind h₁) issue.number
    have hfollowed : followedIn (ds ++ [⟨issue.number, c.next s t h₁ issue.number⟩]) =
        followedIn ds ++ c.next s t h₁ issue.number := by
      rw [followedIn_append, followedIn_singleton]
    have hnodup : (c.next s t h₁ issue.number).Nodup :=
      (hfind h₁).nodup_numbers.sublist (List.filter_sublist.map _)
    refine ⟨?_, ?_, ?_, ?_, ?_, ?_, ?_⟩
    · rw [hfollowed, List.nodup_append']
      exact ⟨hp.nodup, hnodup, fun j hj hj' => ((hnext j).mp hj').1 hj⟩
    · rw [hfollowed]
      intro j hj
      rcases List.mem_append.mp hj with hj | hj
      · exact hp.reached j hj
      · obtain ⟨-, i, hi, rfl, href⟩ := (hnext j).mp hj
        exact .of_trigger (hp.pending hpending) hi href
    · have hdelivered := hp.delivered
      rw [hfollowed, List.map_append, ← Multiset.coe_add, ← Multiset.coe_add, ← Multiset.cons_add,
        ← hdelivered]
      simp only [List.map_cons, List.map_nil, Multiset.coe_singleton, ← Multiset.singleton_add]
      abel
    · intro e he i hi href
      rw [hfollowed, List.mem_append]
      rcases List.mem_append.mp he with he | he
      · exact .inl (hp.covered e he i hi href)
      · obtain rfl := List.mem_singleton.mp he
        by_cases hin : i.number ∈ followedIn ds
        · exact .inl hin
        · exact .inr ((hnext i.number).mpr ⟨hin, i, hi, rfl, href⟩)
    · rw [hadv.records, hp.records, List.map_map, carried_append]
    · intro j
      rw [hadv.log, List.count_append, hp.sets, count_calls, hfollowed, List.count_append, add_assoc]
    · intro j
      have hnaming := commentsNaming_carried hadv.records (hp.mem_numbers hknown hpending) hnodup j
      rw [hnaming, hp.named, hfollowed, List.count_append, add_assoc]

theorem progress_of_drains (hds : Drains c s t ⟨{n}, h⟩ ds b) : Progress c s t h n ds b := by
  induction hds with
  | start => exact progress_start
  | snoc _ hd ih => exact ih.step henabled hscope hcalm hfind hknown hd

end Deliveries

lemma countP_followed {ds : List Delivery} (hnodup : (followedIn ds).Nodup) (j : Int) :
    ds.countP (fun d => decide (j ∈ d.followed)) = (followedIn ds).count j := by
  induction ds with
  | nil => rfl
  | cons d ds ih =>
    have hcons : followedIn (d :: ds) = d.followed ++ followedIn ds := rfl
    rw [hcons, List.nodup_append'] at hnodup
    rw [hcons, List.countP_cons, List.count_append, ih hnodup.2.1, hnodup.1.count, add_comm]
    simp only [decide_eq_true_eq]

/-- What deliveries come to when none is pending any more and these numbers are reached: there was one
delivery for the first issue and one for each issue reached. Each of the latter followed in one delivery,
was set to the goal once, and is named in one comment more than before. No other issue is, and nothing else
was changed. -/
structure Closure (c : Cascade) (reached : Finset Int) (h h' : Host) (ds : List Delivery) : Prop where
  states : (c.source.text, c.goal.text) = if c = .close then ("open", "closed") else ("closed", "open")
  deliveries : ds.length = 1 + reached.card
  followed : ∀ j, ds.countP (fun d => decide (j ∈ d.followed)) = if j ∈ reached then 1 else 0
  named : ∀ j, commentsNaming h' j = commentsNaming h j + if j ∈ reached then 1 else 0
  sets : ∀ j, h'.log.count (.change j (.setState c.goal.text)) =
    h.log.count (.change j (.setState c.goal.text)) + if j ∈ reached then 1 else 0
  records : h'.records = h.records.map fun r =>
    commented (c.remarks r.number ds)
      (if r.number ∈ reached then r.after (.setState c.goal.text) else r)

section Progress

variable {ds : List Delivery} {b : Backlog} {reached : Finset Int}

lemma Progress.card_add_length (hp : Progress c s t h n ds b) :
    b.pending.card + ds.length = 1 + (followedIn ds).length := by
  have hcard := congrArg Multiset.card hp.delivered
  rw [Multiset.card_add, Multiset.card_cons, Multiset.coe_card, Multiset.coe_card,
    List.length_map] at hcard
  omega

lemma Progress.length_le (hp : Progress c s t h n ds b)
    (hreached : ∀ j, j ∈ reached ↔ Reached c s t.digits h n j) :
    (followedIn ds).length ≤ reached.card := by
  rw [← List.toFinset_card_of_nodup hp.nodup]
  refine Finset.card_le_card fun j hj => ?_
  rw [hreached]
  exact hp.reached j (List.mem_toFinset.mp hj)

/-- When nothing is pending, whoever is reached has followed: by induction on the chain, since every
trigger of the chain has had its delivery. -/
lemma Progress.mem_followed (hp : Progress c s t h n ds b) (hnone : b.pending = 0) {j : Int}
    (hj : Reached c s t.digits h n j) : j ∈ followedIn ds := by
  have hdelivered := hp.delivered
  rw [hnone, zero_add] at hdelivered
  have hturn {k : Int} (hk : k = n ∨ k ∈ followedIn ds) : ∃ d ∈ ds, d.trigger = k := by
    rw [← Multiset.mem_coe, ← Multiset.mem_cons, ← hdelivered, Multiset.mem_coe] at hk
    exact List.mem_map.mp hk
  induction hj with
  | direct hi href =>
    obtain ⟨d, hd, rfl⟩ := hturn (.inl rfl)
    exact hp.covered d hd _ hi href
  | onward _ hi href ih =>
    obtain ⟨d, hd, rfl⟩ := hturn (.inr ih)
    exact hp.covered d hd _ hi href

theorem Progress.closure (hp : Progress c s t h n ds b) (hnone : b.pending = 0)
    (hreached : ∀ j, j ∈ reached ↔ Reached c s t.digits h n j) :
    Closure c reached h b.host ds := by
  have hmem (j : Int) : j ∈ followedIn ds ↔ j ∈ reached := by
    rw [hreached]
    exact ⟨hp.reached j, hp.mem_followed hnone⟩
  have hcount (j : Int) : (followedIn ds).count j = if j ∈ reached then 1 else 0 := by
    rw [hp.nodup.count]
    simp only [hmem]
  refine ⟨c.states_eq, ?_, fun j => ?_, fun j => ?_, fun j => ?_, ?_⟩
  · have hsame : (followedIn ds).toFinset = reached := by
      ext j
      rw [List.mem_toFinset, hmem]
    have hlength := hp.card_add_length
    rw [hnone, Multiset.card_zero, zero_add] at hlength
    rw [hlength, ← List.toFinset_card_of_nodup hp.nodup, hsame]
  · rw [countP_followed hp.nodup, hcount]
  · rw [hp.named, hcount]
  · rw [hp.sets, hcount]
  · rw [hp.records]
    refine List.map_congr_left fun r _ => ?_
    unfold carried settled
    simp only [hmem]

end Progress

section Drained

variable (henabled : c.isEnabled s = true) (hscope : t.scope.fullName = t.home)
  (hcalm : ∀ log, t.fails log = none)
  (hfind : ∀ h', FindsExactly t h' (c.query s.label t.scope) c.source.text s.label)
  (hknown : n ∈ h.records.map Record.number)

include henabled hscope hcalm hfind hknown

/-- Handling deliveries goes on until none is pending, by induction on how many there may still be. -/
lemma exists_drained {reached : Finset Int}
    (hreached : ∀ j, j ∈ reached ↔ Reached c s t.digits h n j) (left : ℕ) {ds : List Delivery}
    {b : Backlog} (hds : Drains c s t ⟨{n}, h⟩ ds b) (hleft : 1 + reached.card ≤ ds.length + left) :
    ∃ es b', Drains c s t ⟨{n}, h⟩ (ds ++ es) b' ∧ b'.pending = 0 := by
  have hp := progress_of_drains henabled hscope hcalm hfind hknown hds
  induction left generalizing ds b with
  | zero =>
    have hcard := hp.card_add_length
    have hle := hp.length_le hreached
    refine ⟨[], b, ?_, Multiset.card_eq_zero.mp (by omega)⟩
    rw [List.append_nil]
    exact hds
  | succ left ih =>
    rcases b.pending.empty_or_exists_mem with hnone | ⟨k, hk⟩
    · refine ⟨[], b, ?_, hnone⟩
      rw [List.append_nil]
      exact hds
    · let issue : Issue := { number := k, state := c.goal.text }
      have hi : issue.number ∈ b.pending := hk
      obtain ⟨rest, hrest⟩ := Multiset.exists_cons_of_mem hi
      obtain ⟨h', hrun, -⟩ := hp.handle henabled hscope hcalm hfind hknown hi
      have hb : b = ⟨issue.number ::ₘ rest, b.host⟩ := by rw [← hrest]
      have hhandles : Handles c s t b ⟨k, c.next s t b.host k⟩ ⟨rest + c.next s t b.host k, h'⟩ := by
        rw [hb]
        exact .intro issue rest hrun
      have hsnoc := hds.snoc hhandles
      obtain ⟨es, b', hes, hnone⟩ := ih hsnoc
        (by rw [List.length_append, List.length_singleton]; omega)
        (progress_of_drains henabled hscope hcalm hfind hknown hsnoc)
      refine ⟨⟨k, c.next s t b.host k⟩ :: es, b', ?_, hnone⟩
      rw [List.append_cons]
      exact hes

end Drained

/-- From one pending event about an issue that exists, when no call fails and searches find what they
ask for: the deliveries may be handled in any order, they come to an end, and what they come to is the
closure. -/
theorem drains_closure (c : Cascade) (s : DuplicateSettings) (t : Tracker) (h : Host) (n : Int)
    (henabled : c.isEnabled s = true) (hscope : t.scope.fullName = t.home)
    (hcalm : ∀ log, t.fails log = none)
    (hfind : ∀ h', FindsExactly t h' (c.query s.label t.scope) c.source.text s.label)
    (hknown : n ∈ h.records.map Record.number) :
    ∃ reached : Finset Int, (∀ j, j ∈ reached ↔ Reached c s t.digits h n j) ∧
      ∀ ds b, Drains c s t ⟨{n}, h⟩ ds b →
        ds.length ≤ 1 + reached.card ∧
        (∀ issue : Issue, issue.number ∈ b.pending →
          ∃ followed h', c.run (some s) issue t b.host = (.ok followed, h')) ∧
        (∃ es b', Drains c s t ⟨{n}, h⟩ (ds ++ es) b' ∧ b'.pending = 0) ∧
        (b.pending = 0 → Closure c reached h b.host ds) := by
  classical
  let reached := (h.records.map Record.number).toFinset.filter fun j => Reached c s t.digits h n j
  have hreached (j : Int) : j ∈ reached ↔ Reached c s t.digits h n j := by
    rw [Finset.mem_filter, List.mem_toFinset, and_iff_right_iff_imp]
    exact Reached.mem_numbers
  refine ⟨reached, hreached, fun ds b hds => ?_⟩
  have hp := progress_of_drains henabled hscope hcalm hfind hknown hds
  have hcard := hp.card_add_length
  have hle := hp.length_le hreached
  refine ⟨by omega, fun issue hi => ?_, ?_, fun hnone => hp.closure hnone hreached⟩
  · obtain ⟨h', hrun, -⟩ := hp.handle henabled hscope hcalm hfind hknown hi
    exact ⟨_, h', hrun⟩
  · exact exists_drained henabled hscope hcalm hfind hknown hreached (1 + reached.card) hds (by omega)

def calmTracker : Tracker := { shakyTracker with fails := fun _ => none }

/-- Issue 1 was closed. Issues 2 and 3 lead back to it in a cycle, and issue 4 refers to itself. -/
def cyclicHost : Host where
  records := [{ issue := { (markedIssue 1 "3").issue with state := "closed" } }, markedIssue 2 "1",
    markedIssue 3 "\" 2 \"", markedIssue 4 "4"]
  distinct := by decide

/-- The cycle comes to an end after three deliveries, and each issue that followed is named once. -/
theorem drains_closure_of_cycle :
    Reached .close ⟨"duplicate", true, true⟩ calmTracker.digits cyclicHost 1 3 ∧
    (∃ reached : Finset Int,
      (∀ j, j ∈ reached ↔
        Reached .close ⟨"duplicate", true, true⟩ calmTracker.digits cyclicHost 1 j) ∧
      ∀ ds b, Drains .close ⟨"duplicate", true, true⟩ calmTracker ⟨{1}, cyclicHost⟩ ds b →
        ds.length ≤ 1 + reached.card ∧
        (∀ issue : Issue, issue.number ∈ b.pending → ∃ followed h',
          Cascade.close.run (some ⟨"duplicate", true, true⟩) issue calmTracker b.host =
            (.ok followed, h')) ∧
        (∃ es b', Drains .close ⟨"duplicate", true, true⟩ calmTracker ⟨{1}, cyclicHost⟩ (ds ++ es) b' ∧
          b'.pending = 0) ∧
        (b.pending = 0 → Closure .close reached cyclicHost b.host ds)) ∧
    ∃ b, Drains .close ⟨"duplicate", true, true⟩ calmTracker ⟨{1}, cyclicHost⟩
        [⟨1, [2]⟩, ⟨2, [3]⟩, ⟨3, []⟩] b ∧ b.pending = 0 ∧
      b.host.records.map (fun r => (r.issue.state, r.posted)) =
        [("closed", ["Closed other issues that were marked as duplicates of this one: #2"]),
          ("closed", ["Closed other issues that were marked as duplicates of this one: #3"]),
          ("closed", []), ("open", [])] := by
  have hfind (h' : Host) : FindsExactly calmTracker h'
      (Cascade.close.query "duplicate" calmTracker.scope) "open" "duplicate" := by
    constructor
    · have hdistinct : (h'.issues.map (·.number)).Nodup := by
        unfold Host.issues
        rw [List.map_map]
        exact h'.distinct
      exact hdistinct.of_map.filter _
    · intro i
      simp [calmTracker, shakyTracker, List.mem_filter, and_assoc]
  refine ⟨?_, drains_closure .close ⟨"duplicate", true, true⟩ calmTracker cyclicHost 1 rfl rfl
    (fun _ => rfl) hfind (by decide), ?_⟩
  · have htwo : Reached .close ⟨"duplicate", true, true⟩ calmTracker.digits cyclicHost 1 2 :=
      .direct (i := (markedIssue 2 "1").issue) ⟨.tail _ (.head _), rfl, rfl, .head _⟩ (by decide +kernel)
    exact .onward (i := (markedIssue 3 "\" 2 \"").issue) htwo
      ⟨.tail _ (.tail _ (.head _)), rfl, rfl, .head _⟩ (by decide +kernel)
  · let turn (n : Int) (h : Host) :=
      Cascade.close.run (some ⟨"duplicate", true, true⟩) { number := n, state := "closed" } calmTracker h
    have hrun (n : Int) (h : Host) (followed : List Int) (hok : (turn n h).1.toOption = some followed) :
        turn n h = (.ok followed, (turn n h).2) := Prod.ext (Op.eq_ok_of_toOption hok) rfl
    have hfirst := Handles.intro (c := .close) _ 0 (hrun 1 cyclicHost [2] (by decide +kernel))
    have hsecond := Handles.intro (c := .close) _ 0 (hrun 2 (turn 1 cyclicHost).2 [3] (by decide +kernel))
    have hthird := Handles.intro (c := .close) _ 0
      (hrun 3 (turn 2 (turn 1 cyclicHost).2).2 [] (by decide +kernel))
    exact ⟨_, ((Drains.start.snoc hfirst).snoc hsecond).snoc hthird, rfl, by decide +kernel⟩

end Triage.Duplicate.Cascade
