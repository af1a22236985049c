import Mathlib
import Triage.Proofs.IssueLocality
import Triage.Proofs.MarkOrder
import Triage.Rule.Sweep

/-!
# Schedules of a sweep and what they are to one issue

The searches of a sweep and the effects on the issues they find may come in any order. To one issue such a
schedule is a course: the searches show it as it is then, effects on other issues do not matter, and what
is left to do on it was planned from the snapshots that were taken. Removing labels overwrites those there
are with what is left of the snapshot. So an issue keeps a label through a course when the overwrites to
come show it, and gets one back when an effect that attaches it follows each of them.
-/

namespace Triage

open ActionSet (given)

namespace Sweep

/-- What is left of a task that is under way: its search, or some of the effects that were planned from
the snapshot of one issue it found. -/
inductive Strand where
  | search (query : String) (actions : ActionSet)
  | effects (snapshot : Issue) (rest : List Effect)

/-- What happens to issues in a sweep. -/
inductive Move where
  | found (actions : ActionSet) (issues : List Issue)
  | performed (snapshot : Issue) (effect : Effect)

/-- One step of a strand, with what happens in it and what is left to do. A call that fails is the end
of its strand. -/
def Strand.advance : Strand → Step (List Move × List Strand)
  | .search query actions => do
    match ← (Tracker.searchIssues query).attempt with
    | .ok issues =>
      return ([.found actions issues], issues.map fun i => .effects i (actions.plan i))
    | .error _ => return ([], [])
  | .effects _ [] => return ([], [])
  | .effects i (e :: es) => do
    match ← (e.perform i.number).attempt with
    | .ok () => return ([.performed i e], [.effects i es])
    | .error _ => return ([], [])

/-- The ways in which strands come to their end, with a step of any of them at a time. -/
inductive Schedule (t : Tracker) : List Strand → Host → List Move → Host → Prop where
  | done (h : Host) : Schedule t [] h [] h
  | step {before after next : List Strand} {s : Strand} {h h₁ h₂ : Host} {moves trace : List Move} :
      s.advance t h = ((moves, next), h₁) → Schedule t (before ++ next ++ after) h₁ trace h₂ →
      Schedule t (before ++ s :: after) h (moves ++ trace) h₂

/-- The tasks of a configuration that get as far as a search, in their order. -/
def searches (c : Configuration) (scope : Repository) (now : Moment) : List (String × ActionSet) :=
  match c.taskBlocks with
  | .error _ => []
  | .ok tasks => tasks.names.filterMap fun name => (compile tasks name scope now).toOption.join

/-- The strands of a sweep that has not begun. -/
def strands (c : Configuration) (scope : Repository) (now : Moment) : List Strand :=
  (searches c scope now).map fun p => .search p.1 p.2

/-- The action sets whose search would find an issue now. -/
def matching (c : Configuration) (now : Moment) (t : Tracker) (h : Host) (n : Int) : List ActionSet :=
  ((searches c t.scope now).filter fun p => n ∈ (t.find p.1 h.issues).map (·.number)).map (·.2)

/-- Whether a search for an action set found an issue. -/
def Matched (n : Int) (a : ActionSet) (trace : List Move) : Prop :=
  ∃ issues, .found a issues ∈ trace ∧ n ∈ issues.map (·.number)

namespace Move

/-- What a move does to the disposition of one issue. -/
def act (n : Int) (d : Disposition) : Move → Disposition
  | .found _ _ => d
  | .performed i e => if i.number = n then Effect.act d e else d

def Overwrites (n : Int) (m : Move) : Prop :=
  ∃ i labels, m = .performed i (.replaceLabels labels) ∧ i.number = n

def Attaches (n : Int) (l : String) (m : Move) : Prop :=
  ∃ i labels, m = .performed i (.addLabels labels) ∧ i.number = n ∧ l ∈ labels

/-- Whether a move gives an issue a label: it attaches it, or it overwrites the labels and was planned
from a snapshot that shows it. -/
def Gives (n : Int) (l : String) (m : Move) : Prop :=
  m.Attaches n l ∨
    ∃ i labels, m = .performed i (.replaceLabels labels) ∧ i.number = n ∧ l ∈ i.labelNames

end Move

/-- Whether some move gives an issue a label and none overwrites its labels later. -/
def Prevails (n : Int) (l : String) (trace : List Move) : Prop :=
  ∃ front m rest, trace = front ++ m :: rest ∧ m.Gives n l ∧ ∀ k ∈ rest, ¬k.Overwrites n

/-- Whether what is left to do on an issue has a property. -/
def Strand.Holds (n : Int) (P : Issue → List Effect → Prop) : Strand → Prop
  | .search _ _ => True
  | .effects i rest => i.number = n → P i rest

/-- What a schedule without failed calls is to one issue. Its searches show it as it is, and effects on
other issues do not matter. -/
inductive Course (n : Int) : List Strand → Record → List Move → Record → Prop where
  | done (r : Record) : Course n [] r [] r
  | found {before after : List Strand} {query : String} {a : ActionSet} {issues : List Issue}
      {r r' : Record} {trace : List Move} : (∀ i ∈ issues, i.number = n → i = r.issue) →
      Course n (before ++ (issues.map fun i => .effects i (a.plan i)) ++ after) r trace r' →
      Course n (before ++ .search query a :: after) r (.found a issues :: trace) r'
  | ended {before after : List Strand} {i : Issue} {rest : List Effect} {r r' : Record}
      {trace : List Move} : rest = [] ∨ i.number ≠ n → Course n (before ++ after) r trace r' →
      Course n (before ++ .effects i rest :: after) r trace r'
  | performed {before after : List Strand} {i : Issue} {e : Effect} {es : List Effect}
      {r r₁ r' : Record} {trace : List Move} :
      r₁.disposition = Move.act n r.disposition (.performed i e) →
      Course n (before ++ .effects i es :: after) r₁ trace r' →
      Course n (before ++ .effects i (e :: es) :: after) r (.performed i e :: trace) r'

section Advance

variable {t : Tracker} {h : Host} {n : Int} {r : Record} (hs : t.scope.fullName = t.home)
  (ht : ∀ log, t.fails log = none)

include hs ht in
lemma perform_ok (hr : h.record? n = some r) (e : Effect) :
    ∃ h₁ r₁, e.perform n t h = (.ok (), h₁) ∧ h₁.record? n = some r₁ ∧
      r₁.disposition = Effect.act r.disposition e := by
  obtain ⟨h₁, calls, hall, hadv⟩ := Effect.performAll_ok hs ht hr [e]
  have hr₁ := hadv.record? hr
  rw [Record.only_of_eq (Host.record?_eq_some_iff.mp hr).2] at hr₁
  have hone : Effect.performAll n [e] = e.perform n := bind_pure (e.perform n)
  rw [hone] at hall
  exact ⟨h₁, _, hall, hr₁, Effect.disposition_applyAll [e] r⟩

include ht in
lemma advance_search (query : String) (a : ActionSet) :
    Strand.advance (.search query a) t h =
      (([.found a (t.find query h.issues)],
        (t.find query h.issues).map fun i => .effects i (a.plan i)), h.logged (.search query)) := by
  have hsearch : (Tracker.searchIssues query).attempt t h =
      (.ok (t.find query h.issues), h.logged (.search query)) := Tracker.searchIssues_ok (ht _)
  rw [Strand.advance, Step.bind_apply, hsearch]
  rfl

lemma advance_effects {i : Issue} {e : Effect} (es : List Effect) {outcome : Except Failure Unit}
    {h₁ : Host} (hperform : e.perform i.number t h = (outcome, h₁)) :
    Strand.advance (.effects i (e :: es)) t h =
      (match outcome with
        | .ok () => ([.performed i e], [.effects i es])
        | .error _ => ([], []), h₁) := by
  have hattempt : (e.perform i.number).attempt t h = (outcome, h₁) := hperform
  rw [Strand.advance, Step.bind_apply, hattempt]
  cases outcome <;> rfl

include hs ht in
/-- No failed call: what a schedule is to an issue that the host has. -/
theorem Schedule.course (hfind : ∀ query issues, t.find query issues ⊆ issues)
    {strands : List Strand} {trace : List Move} {h' : Host} (hsched : Schedule t strands h trace h')
    (hr : h.record? n = some r) :
    ∃ r', h'.record? n = some r' ∧ Course n strands r trace r' := by
  induction hsched generalizing r with
  | done h => exact ⟨r, hr, .done r⟩
  | @step before after next s h h₁ h₂ moves trace hstep hrest ih =>
    match s with
    | .search query a =>
      rw [advance_search ht] at hstep
      obtain ⟨hnext, rfl⟩ := Prod.mk.inj hstep
      obtain ⟨rfl, rfl⟩ := Prod.mk.inj hnext
      obtain ⟨r', hr', hcourse⟩ := ih (r := r) hr
      refine ⟨r', hr', .found (fun i hi hn => ?_) hcourse⟩
      obtain ⟨s, hmem, rfl⟩ := List.mem_map.mp (hfind query h.issues hi)
      exact congrArg Record.issue
        (Option.some.inj ((Host.record?_eq_some_iff.mpr ⟨hmem, hn⟩).symm.trans hr))
    | .effects i [] =>
      obtain ⟨hnext, rfl⟩ := Prod.mk.inj hstep
      obtain ⟨rfl, rfl⟩ := Prod.mk.inj hnext
      rw [List.append_nil] at ih
      obtain ⟨r', hr', hcourse⟩ := ih hr
      exact ⟨r', hr', .ended (.inl rfl) hcourse⟩
    | .effects i (e :: es) =>
      rcases hperform : e.perform i.number t h with ⟨outcome, hafter⟩
      rw [advance_effects es hperform] at hstep
      obtain ⟨hnext, rfl⟩ := Prod.mk.inj hstep
      by_cases hn : i.number = n
      · obtain ⟨h₁', r₁, hok, hr₁, hd⟩ := perform_ok hs ht hr e
        rw [hn, hok] at hperform
        obtain ⟨rfl, rfl⟩ := Prod.mk.inj hperform
        obtain ⟨rfl, rfl⟩ := Prod.mk.inj hnext
        rw [List.append_assoc, List.singleton_append] at ih
        obtain ⟨r', hr', hcourse⟩ := ih hr₁
        exact ⟨r', hr', .performed (by rw [Move.act, if_pos hn, hd]) hcourse⟩
      · have hframe := (Effect.isLocal_perform i.number e).frame (Ne.symm hn) t h
        rw [hperform] at hframe
        obtain ⟨r', hr', hcourse⟩ := ih (hframe.record.symm.trans hr)
        cases outcome with
        | ok _ =>
          obtain ⟨rfl, rfl⟩ := Prod.mk.inj hnext
          rw [List.append_assoc, List.singleton_append] at hcourse
          exact ⟨r', hr', .performed (by rw [Move.act, if_neg hn]) hcourse⟩
        | error _ =>
          obtain ⟨rfl, rfl⟩ := Prod.mk.inj hnext
          rw [List.append_nil] at hcourse
          exact ⟨r', hr', .ended (.inr hn) hcourse⟩

end Advance

section Trace

variable {n : Int} {l : String} {d : Disposition}

lemma mem_labels_act (m : Move)
    (hm : ∀ i labels, m = .performed i (.replaceLabels labels) → i.number = n →
      (l ∈ labels ↔ l ∈ i.labelNames)) :
    l ∈ (m.act n d).labels ↔ m.Gives n l ∨ ¬m.Overwrites n ∧ l ∈ d.labels := by
  unfold Move.Gives Move.Attaches Move.Overwrites
  match m with
  | .found _ _ => simp [Move.act]
  | .performed i (.replaceLabels labels) =>
    have hlabels := hm i labels rfl
    by_cases hn : i.number = n
    · simp [Move.act, Effect.act, hn, hlabels hn]
    · simp [Move.act, hn]
  | .performed i (.addLabels labels) =>
    by_cases hn : i.number = n
    · simp [Move.act, Effect.act, hn, or_comm]
    · simp [Move.act, hn]
  | .performed i (.comment _) | .performed i (.setState _) | .performed i .unlock
  | .performed i (.lock _) | .performed i (.unassign _) | .performed i (.assign _) =>
    by_cases hn : i.number = n <;> simp [Move.act, Effect.act, hn]

/-- Whether some element has one property and those after it lack another, for a list with one more
element. -/
lemma exists_split_concat {α : Type} (G O : α → Prop) (as : List α) (x : α) :
    (∃ front a rest, as ++ [x] = front ++ a :: rest ∧ G a ∧ ∀ b ∈ rest, ¬O b) ↔
      G x ∨ ¬O x ∧ ∃ front a rest, as = front ++ a :: rest ∧ G a ∧ ∀ b ∈ rest, ¬O b := by
  constructor
  · rintro ⟨front, a, rest, heq, ha, hrest⟩
    rcases List.eq_nil_or_concat rest with rfl | ⟨rest, y, rfl⟩
    · obtain ⟨-, hx⟩ := List.append_inj' heq rfl
      rw [(List.cons.inj hx).1]
      exact .inl ha
    · rw [List.concat_eq_append, ← List.cons_append, ← List.append_assoc] at heq
      obtain ⟨rfl, hx⟩ := List.append_inj' heq rfl
      obtain rfl := (List.cons.inj hx).1
      rw [List.concat_eq_append, List.forall_mem_append] at hrest
      exact .inr ⟨hrest.2 x List.mem_cons_self, front, a, rest, rfl, ha, hrest.1⟩
  · rintro (hx | ⟨hnot, front, a, rest, rfl, ha, hrest⟩)
    · exact ⟨as, x, [], rfl, hx, fun b hb => absurd hb List.not_mem_nil⟩
    · refine ⟨front, a, rest ++ [x], by rw [List.append_assoc, List.cons_append], ha, ?_⟩
      rw [List.forall_mem_append, List.forall_mem_singleton]
      exact ⟨hrest, hnot⟩

lemma prevails_concat (trace : List Move) (m : Move) :
    Prevails n l (trace ++ [m]) ↔ m.Gives n l ∨ ¬m.Overwrites n ∧ Prevails n l trace :=
  exists_split_concat (Move.Gives n l) (Move.Overwrites n) trace m

/-- Marks that see an issue without a label leave it with that label when some mark attaches it and none
overwrites the labels later. -/
lemma mem_labels_settleAll {marks : List ActionSet} (hl : l ∉ d.labels)
    (hreplace : ∀ a ∈ marks, given a.replaceLabels = none) :
    l ∈ (settleAll (fun _ => d) marks d).labels ↔
      ∃ front a rest, marks = front ++ a :: rest ∧ l ∈ a.addLabels.getD [] ∧
        ∀ b ∈ rest, ¬b.Overwrites := by
  induction marks using List.reverseRecOn with
  | nil => simp [settleAll, hl]
  | append_singleton marks a ih =>
    rw [List.forall_mem_append, List.forall_mem_singleton] at hreplace
    have hlast : l ∈ (settleAll (fun _ => d) (marks ++ [a]) d).labels ↔
        l ∈ a.relabel d.labels (settleAll (fun _ => d) marks d).labels := by
      rw [settleAll, List.foldl_concat]
      rfl
    have hrelabel (labels : Finset String) : l ∈ a.relabel d.labels labels ↔
        l ∈ a.addLabels.getD [] ∨ ¬a.Overwrites ∧ l ∈ labels := by
      unfold ActionSet.relabel ActionSet.Overwrites
      rw [hreplace.2]
      cases given a.removeLabels <;> simp [hl, or_comm]
    rw [hlast, hrelabel, ih hreplace.1, exists_split_concat (fun b => l ∈ b.addLabels.getD [])
      ActionSet.Overwrites]

/-- Where no overwrite tells a label from its snapshot, the label is there in the end when some move has
given it for good, or when it was there and nothing has overwritten the labels. -/
theorem mem_labels_foldl (trace : List Move)
    (htrace : ∀ i labels, .performed i (.replaceLabels labels) ∈ trace → i.number = n →
      (l ∈ labels ↔ l ∈ i.labelNames)) :
    l ∈ (trace.foldl (Move.act n) d).labels ↔
      Prevails n l trace ∨ (∀ m ∈ trace, ¬m.Overwrites n) ∧ l ∈ d.labels := by
  induction trace using List.reverseRecOn with
  | nil => simp [Prevails]
  | append_singleton trace m ih =>
    have hlast := mem_labels_act (d := trace.foldl (Move.act n) d) m fun i labels hm =>
      htrace i labels (by rw [hm]; exact List.mem_concat_self)
    have hfront := ih fun i labels hm => htrace i labels (List.mem_append_left [m] hm)
    rw [List.foldl_concat, hlast, hfront, prevails_concat, List.forall_mem_append,
      List.forall_mem_singleton]
    tauto

end Trace

section Plan

variable {a : ActionSet} {l : String}

lemma lockEffect_ne (change : LockChange) (labels : List String) :
    ActionSet.lockEffect change ≠ .replaceLabels labels := by
  cases change <;> rintro ⟨⟩

lemma replaceLabels_mem_plan (hreplace : given a.replaceLabels = none) {i : Issue} {labels : List String}
    (h : .replaceLabels labels ∈ a.plan i) :
    ∃ targets, given a.removeLabels = some targets ∧ labels = Labels.without i.labelNames targets := by
  simpa [ActionSet.plan, lockEffect_ne, hreplace, eq_comm] using h

lemma addLabels_mem_plan (hl : l ∈ a.addLabels.getD []) (i : Issue) :
    ∃ names, .addLabels names ∈ a.plan i ∧ l ∈ names := by
  cases hadd : a.addLabels with
  | none => simp [hadd] at hl
  | some names =>
    rw [hadd, Option.getD_some] at hl
    have hgiven : given a.addLabels = some names := by
      rw [hadd, given, Option.filter_some, if_pos (by simpa using List.ne_nil_of_mem hl)]
    exact ⟨names, by simp [ActionSet.plan, hgiven], hl⟩

lemma replaceLabels_notMem_tail (hreplace : given a.replaceLabels = none) {targets : List String}
    (htargets : given a.removeLabels = some targets) (i : Issue) (labels : List String) :
    .replaceLabels labels ∉ (a.plan i).tail := by
  simp [ActionSet.plan, lockEffect_ne, htargets, hreplace]

end Plan

section Course

variable {n : Int} {l : String} {strands : List Strand} {r r' : Record} {trace : List Move}

theorem Course.disposition (h : Course n strands r trace r') :
    r'.disposition = trace.foldl (Move.act n) r.disposition := by
  induction h with
  | done r => rfl
  | found _ _ ih => exact ih
  | ended _ _ ih => exact ih
  | performed hact _ ih => rw [ih, hact, List.foldl_cons]

/-- What holds of the strands of an issue after a step, when it held before and holds of those that took
the place of the one that made the step. -/
lemma holds_next {P : Issue → List Effect → Prop} {before next after : List Strand} {s : Strand}
    (h : ∀ u ∈ before ++ s :: after, u.Holds n P) (hnext : ∀ u ∈ next, u.Holds n P) :
    ∀ u ∈ before ++ next ++ after, u.Holds n P := by
  rw [List.forall_mem_append, List.forall_mem_cons] at h
  rw [List.forall_mem_append, List.forall_mem_append]
  exact ⟨⟨h.1, hnext⟩, h.2.2⟩

lemma holds_ended {P : Issue → List Effect → Prop} {before after : List Strand} {s : Strand}
    (h : ∀ u ∈ before ++ s :: after, u.Holds n P) : ∀ u ∈ before ++ after, u.Holds n P := by
  have hnone : ∀ u ∈ ([] : List Strand), u.Holds n P := fun u hu => absurd hu List.not_mem_nil
  have hnext := holds_next h hnone
  rwa [List.append_nil] at hnext

lemma holds_tail {P : Issue → List Effect → Prop} {before after : List Strand} {i : Issue} {e : Effect}
    {es : List Effect} (h : ∀ u ∈ before ++ .effects i (e :: es) :: after, u.Holds n P)
    (htail : P i (e :: es) → P i es) : ∀ u ∈ before ++ .effects i es :: after, u.Holds n P := by
  have hhead := h (.effects i (e :: es)) (List.mem_append_right _ List.mem_cons_self)
  have hone : ∀ u ∈ [Strand.effects i es], u.Holds n P :=
    List.forall_mem_singleton.mpr (htail ∘ hhead)
  have hnext := holds_next h hone
  rwa [List.append_assoc, List.singleton_append] at hnext

lemma holds_plans {P : Issue → List Effect → Prop} (a : ActionSet) (issues : List Issue)
    (h : ∀ i ∈ issues, i.number = n → P i (a.plan i)) :
    ∀ u ∈ issues.map fun i => Strand.effects i (a.plan i), u.Holds n P := by
  intro u hu
  obtain ⟨i, hi, rfl⟩ := List.mem_map.mp hu
  exact h i hi

/-- Whether every overwrite that is left writes a label just when its snapshot shows it. -/
def Mirrors (l : String) (i : Issue) (rest : List Effect) : Prop :=
  ∀ labels, .replaceLabels labels ∈ rest → (l ∈ labels ↔ l ∈ i.labelNames)

/-- Whether every overwrite that is left is followed by an effect that attaches a label. -/
def Restores (l : String) (rest : List Effect) : Prop :=
  ∀ front labels back, rest = front ++ .replaceLabels labels :: back →
    ∃ names, .addLabels names ∈ back ∧ l ∈ names

lemma mirrors_plan {a : ActionSet} (hreplace : given a.replaceLabels = none)
    (hremove : l ∉ a.removeLabels.getD []) (i : Issue) : Mirrors l i (a.plan i) := by
  intro labels hmem
  obtain ⟨targets, htargets, rfl⟩ := replaceLabels_mem_plan hreplace hmem
  rw [ActionSet.eq_some_of_given htargets, Option.getD_some] at hremove
  rw [Labels.mem_without, and_iff_left hremove]

lemma restores_plan {a : ActionSet} (hreplace : given a.replaceLabels = none)
    (hadd : given a.removeLabels ≠ none → l ∈ a.addLabels.getD []) (i : Issue) :
    Restores l (a.plan i) := by
  intro front labels back heq
  have hmem : .replaceLabels labels ∈ a.plan i := heq ▸ List.mem_append_right _ List.mem_cons_self
  obtain ⟨targets, htargets, -⟩ := replaceLabels_mem_plan hreplace hmem
  cases front with
  | nil =>
    obtain ⟨names, hnames, hl⟩ := addLabels_mem_plan (hadd (by simp [htargets])) i
    rw [heq, List.nil_append, List.mem_cons] at hnames
    exact ⟨names, hnames.resolve_left (by rintro ⟨⟩), hl⟩
  | cons e front =>
    have htail := replaceLabels_notMem_tail hreplace htargets i labels
    rw [heq, List.cons_append, List.tail_cons] at htail
    exact absurd (List.mem_append_right _ List.mem_cons_self) htail

lemma Matched.cons {a : ActionSet} (m : Move) (h : Matched n a trace) : Matched n a (m :: trace) := by
  obtain ⟨issues, hmem, hn⟩ := h
  exact ⟨issues, List.mem_cons_of_mem m hmem, hn⟩

lemma matched_found {a : ActionSet} {i : Issue} {issues : List Issue} (hi : i ∈ issues)
    (hn : i.number = n) : Matched n a (.found a issues :: trace) :=
  ⟨issues, List.mem_cons_self, List.mem_map.mpr ⟨i, hi, hn⟩⟩

/-- Where no matching task decides about a label, all overwrites follow their snapshots. -/
theorem Course.mirrors (h : Course n strands r trace r')
    (hstrands : ∀ s ∈ strands, s.Holds n (Mirrors l))
    (hmatched : ∀ a, Matched n a trace →
      given a.replaceLabels = none ∧ l ∉ a.removeLabels.getD []) :
    ∀ i labels, .performed i (.replaceLabels labels) ∈ trace → i.number = n →
      (l ∈ labels ↔ l ∈ i.labelNames) := by
  induction h with
  | done r => exact fun i labels hmem => absurd hmem List.not_mem_nil
  | @found _ _ _ a issues _ _ _ _ _ ih =>
    have hplans := holds_plans a issues (P := Mirrors l) fun i hi hn =>
      mirrors_plan (hmatched a (matched_found hi hn)).1 (hmatched a (matched_found hi hn)).2 i
    intro i labels hmem
    exact ih (holds_next hstrands hplans) (fun b hb => hmatched b (hb.cons _)) i labels
      ((List.mem_cons.mp hmem).resolve_left (by rintro ⟨⟩))
  | ended _ _ ih => exact ih (holds_ended hstrands) hmatched
  | @performed _ _ i' e es _ _ _ _ _ _ ih =>
    have htail := holds_tail hstrands fun hall labels hmem => hall labels (List.mem_cons_of_mem e hmem)
    have hhead := hstrands (.effects i' (e :: es)) (List.mem_append_right _ List.mem_cons_self)
    intro i labels hmem hn
    rcases List.mem_cons.mp hmem with heq | hmem
    · obtain ⟨rfl, rfl⟩ := Move.performed.inj heq
      exact hhead hn labels List.mem_cons_self
    · exact ih htail (fun b hb => hmatched b (hb.cons _)) i labels hmem hn

/-- A label that an issue carries stays when the overwrites to come show it and no matching task takes
it off. -/
theorem Course.carried (h : Course n strands r trace r')
    (hstrands : ∀ s ∈ strands, s.Holds n fun i rest => Mirrors l i rest ∧ l ∈ i.labelNames)
    (hmatched : ∀ a, Matched n a trace →
      given a.replaceLabels = none ∧ l ∉ a.removeLabels.getD [])
    (hl : l ∈ r.disposition.labels) : l ∈ r'.disposition.labels := by
  induction h with
  | done r => exact hl
  | @found _ _ _ a issues _ _ _ hissues _ ih =>
    have hplans := holds_plans a issues
      (P := fun i rest => Mirrors l i rest ∧ l ∈ i.labelNames) fun i hi hn => by
        obtain ⟨hreplace, hremove⟩ := hmatched a (matched_found hi hn)
        refine ⟨mirrors_plan hreplace hremove i, ?_⟩
        rw [hissues i hi hn]
        exact List.mem_toFinset.mp hl
    exact ih (holds_next hstrands hplans) (fun b hb => hmatched b (hb.cons _)) hl
  | ended _ _ ih => exact ih (holds_ended hstrands) hmatched hl
  | @performed _ _ i e es _ r₁ _ _ hact _ ih =>
    have htail := holds_tail hstrands fun hall =>
      ⟨fun labels hmem => hall.1 labels (List.mem_cons_of_mem e hmem), hall.2⟩
    have hhead := hstrands (.effects i (e :: es)) (List.mem_append_right _ List.mem_cons_self)
    refine ih htail (fun b hb => hmatched b (hb.cons _)) ?_
    rw [hact, mem_labels_act]
    · by_cases hover : (Move.performed i e).Overwrites n
      · obtain ⟨i', labels, heq, hn⟩ := hover
        obtain ⟨rfl, rfl⟩ := Move.performed.inj heq
        exact .inl (.inr ⟨i, labels, rfl, hn, (hhead hn).2⟩)
      · exact .inr ⟨hover, hl⟩
    · intro i' labels heq hn
      obtain ⟨rfl, rfl⟩ := Move.performed.inj heq
      exact (hhead hn).1 labels List.mem_cons_self

/-- A label that is there or will be attached. -/
inductive Due (n : Int) (l : String) (strands : List Strand) (r : Record) (trace : List Move) : Prop where
  | there : l ∈ r.disposition.labels → Due n l strands r trace
  | planned {i : Issue} {rest : List Effect} {names : List String} : .effects i rest ∈ strands →
      i.number = n → .addLabels names ∈ rest → l ∈ names → Due n l strands r trace
  | matched {a : ActionSet} : Matched n a trace → l ∈ a.addLabels.getD [] → Due n l strands r trace

lemma Due.of_performed {i : Issue} {e : Effect} (hdue : Due n l strands r (.performed i e :: trace)) :
    Due n l strands r trace := by
  rcases hdue with hthere | ⟨hmem, hn, hadds, hl⟩ | ⟨⟨issues, hmem, hn⟩, hl⟩
  · exact .there hthere
  · exact .planned hmem hn hadds hl
  · exact .matched ⟨issues, (List.mem_cons.mp hmem).resolve_left (by rintro ⟨⟩), hn⟩ hl

lemma mem_around {α : Type} {before after : List α} {x y : α} (h : x ∈ before ++ y :: after) :
    x = y ∨ ∀ next, x ∈ before ++ next ++ after := by
  rcases List.mem_append.mp h with h | h
  · exact .inr fun next => List.mem_append_left _ (List.mem_append_left _ h)
  · exact (List.mem_cons.mp h).imp_right fun h next => List.mem_append_right _ h

/-- Every schedule leaves an issue with a label that some matching task attaches, when each of them that
removes labels attaches it too. -/
theorem Course.restored (h : Course n strands r trace r')
    (hstrands : ∀ s ∈ strands, s.Holds n fun _ rest => Restores l rest)
    (hmatched : ∀ a, Matched n a trace → given a.replaceLabels = none ∧
      (given a.removeLabels ≠ none → l ∈ a.addLabels.getD []))
    (hdue : Due n l strands r trace) : l ∈ r'.disposition.labels := by
  induction h with
  | done r =>
    rcases hdue with hthere | ⟨hmem, -⟩ | ⟨⟨_, hmem, -⟩, -⟩
    · exact hthere
    · exact absurd hmem List.not_mem_nil
    · exact absurd hmem List.not_mem_nil
  | @found _ _ _ a issues _ _ _ _ _ ih =>
    have hplans := holds_plans a issues
      (P := fun _ rest => Restores l rest) fun i hi hn =>
        restores_plan (hmatched a (matched_found hi hn)).1 (hmatched a (matched_found hi hn)).2 i
    refine ih (holds_next hstrands hplans) (fun b hb => hmatched b (hb.cons _)) ?_
    rcases hdue with hthere | ⟨hmem, hn, hadds, hl⟩ | ⟨⟨issues', hmem, hn⟩, hl⟩
    · exact .there hthere
    · exact .planned ((mem_around hmem).resolve_left (by rintro ⟨⟩) _) hn hadds hl
    · rcases List.mem_cons.mp hmem with heq | hmem
      · obtain ⟨rfl, rfl⟩ := Move.found.inj heq
        obtain ⟨i, hi, hn⟩ := List.mem_map.mp hn
        obtain ⟨names, hadds, hl⟩ := addLabels_mem_plan hl i
        refine .planned (List.mem_append_left _ (List.mem_append_right _ ?_)) hn hadds hl
        exact List.mem_map_of_mem hi
      · exact .matched ⟨issues', hmem, hn⟩ hl
  | @ended before after i rest _ _ _ hend _ ih =>
    refine ih (holds_ended hstrands) hmatched ?_
    rcases hdue with hthere | ⟨hmem, hn, hadds, hl⟩ | ⟨hmatch, hl⟩
    · exact .there hthere
    · rcases mem_around hmem with heq | hmem
      · obtain ⟨rfl, rfl⟩ := Strand.effects.inj heq
        rcases hend with rfl | hne
        · exact absurd hadds List.not_mem_nil
        · exact absurd hn hne
      · exact .planned (by simpa using hmem []) hn hadds hl
    · exact .matched hmatch hl
  | @performed before after i e es r r₁ _ _ hact _ ih =>
    have htail := holds_tail hstrands fun hall front labels back heq =>
      hall (e :: front) labels back (by rw [heq, List.cons_append])
    have hhead := hstrands (.effects i (e :: es)) (List.mem_append_right _ List.mem_cons_self)
    have hself : .effects i es ∈ before ++ .effects i es :: after :=
      List.mem_append_right _ List.mem_cons_self
    refine ih htail (fun b hb => hmatched b (hb.cons _)) ?_
    -- an overwrite leaves the label to the effect that follows it in the strand
    by_cases hover : (Move.performed i e).Overwrites n
    · obtain ⟨i', labels, heq, hn⟩ := hover
      obtain ⟨rfl, rfl⟩ := Move.performed.inj heq
      obtain ⟨names, hadds, hl⟩ := hhead hn [] labels es rfl
      exact .planned hself hn hadds hl
    have hlabels : l ∈ r₁.disposition.labels ↔
        (Move.performed i e).Gives n l ∨ l ∈ r.disposition.labels := by
      rw [hact, mem_labels_act, and_iff_right hover]
      exact fun i' labels heq hn => absurd ⟨i', labels, heq, hn⟩ hover
    rcases hdue.of_performed with hthere | ⟨hmem, hn, hadds, hl⟩ | ⟨hmatch, hl⟩
    · exact .there (hlabels.mpr (.inr hthere))
    · rcases mem_around hmem with heq | hmem
      · obtain ⟨rfl, rfl⟩ := Strand.effects.inj heq
        rcases List.mem_cons.mp hadds with rfl | hadds
        · exact .there (hlabels.mpr (.inl (.inl ⟨_, _, rfl, hn, hl⟩)))
        · exact .planned hself hn hadds hl
      · exact .planned (by simpa using hmem [.effects i es]) hn hadds hl
    · exact .matched hmatch hl

lemma Course.found_mem (h : Course n strands r trace r') {a : ActionSet} {issues : List Issue}
    (hmem : .found a issues ∈ trace) : ∃ query, .search query a ∈ strands := by
  have hback {before after : List Strand} {s u : Strand} (hs : s ∈ before ++ after) :
      s ∈ before ++ u :: after := ((List.sublist_cons_self u after).append_left before).subset hs
  induction h with
  | done r => exact absurd hmem List.not_mem_nil
  | @found before after query _ _ _ _ _ _ _ ih =>
    rcases List.mem_cons.mp hmem with heq | hmem
    · obtain ⟨rfl, rfl⟩ := Move.found.inj heq
      exact ⟨query, List.mem_append_right _ List.mem_cons_self⟩
    · obtain ⟨query', hsearch⟩ := ih hmem
      exact ⟨query', hback (by simpa using hsearch)⟩
  | ended _ _ ih =>
    obtain ⟨query, hsearch⟩ := ih hmem
    exact ⟨query, hback hsearch⟩
  | performed _ _ ih =>
    obtain ⟨query, hsearch⟩ := ih ((List.mem_cons.mp hmem).resolve_left (by rintro ⟨⟩))
    exact ⟨query, hback (by simpa using hsearch)⟩

end Course

end Sweep

end Triage
