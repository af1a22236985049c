import Mathlib
import Triage.Proofs.ActionOutcomes
import Triage.Rule.Marks

/-!
# Marks at once and one by one

Marks that are applied together all see the issue as it was before the first of them. State and lock come
out as if each mark had been applied to the issue as the marks before had left it. Labels and assignees
do so unless a mark computes them from the labels or assignees it sees.
-/

namespace Triage

/-- The disposition after marks, each of which sees some view of the issue as it is in its turn. -/
def settleAll (view : Disposition → Disposition) (marks : List ActionSet) (d : Disposition) :
    Disposition :=
  marks.foldl (fun d a => a.settle (view d) d) d

namespace ActionSet

/-- Whether an action set computes all labels anew. -/
def Overwrites (a : ActionSet) : Prop :=
  given a.replaceLabels ≠ none ∨ given a.removeLabels ≠ none

/-- Whether an action set decides by name if someone is assigned. -/
def Mentions (a : ActionSet) (login : String) : Prop :=
  login ∈ a.removeAssignees.getD [] ∨ login ∈ a.addAssignees.getD []

end ActionSet

open ActionSet (given)

/-- Whether marks leave the same labels under two views of the issue: where the last mark that overwrites
them does so by removal, both views agree in its turn on every label that it keeps and that no mark from
there on adds. -/
def ViewsMeet (view view' : Disposition → Disposition) (marks : List ActionSet) (d : Disposition) : Prop :=
  ∀ front a rest targets, marks = front ++ a :: rest → given a.replaceLabels = none →
    given a.removeLabels = some targets → (∀ b ∈ rest, ¬b.Overwrites) →
    ∀ l, l ∉ targets → (∀ b ∈ a :: rest, l ∉ b.addLabels.getD []) →
      (l ∈ (view (settleAll view front d)).labels ↔ l ∈ (view' (settleAll view' front d)).labels)

/-- Whether marks leave the same labels at once and one by one: where the last mark that overwrites them
does so by removal, every label that it keeps and that no mark from there on adds was there in the
beginning just when it is there in the mark's turn. -/
def LabelsMeet (marks : List ActionSet) (d : Disposition) : Prop :=
  ∀ front a rest targets, marks = front ++ a :: rest → given a.replaceLabels = none →
    given a.removeLabels = some targets → (∀ b ∈ rest, ¬b.Overwrites) →
    ∀ l, l ∉ targets → (∀ b ∈ a :: rest, l ∉ b.addLabels.getD []) →
      (l ∈ d.labels ↔ l ∈ (settleAll id front d).labels)

/-- Whether marks leave the same assignees at once and one by one: the last mark that takes all of them
off finds nobody who was assigned after the beginning, except for those whom it adds itself or a later
mark mentions. -/
def AssigneesMeet (marks : List ActionSet) (d : Disposition) : Prop :=
  ∀ front a rest, marks = front ++ a :: rest → a.removesAllAssignees = true →
    (∀ b ∈ rest, b.removesAllAssignees = false) →
    ∀ l, l ∉ d.assignees → l ∈ (settleAll (fun _ => d) front d).assignees →
      l ∈ a.addAssignees.getD [] ∨ ∃ b ∈ rest, b.Mentions l

section Settle

variable {view view' : Disposition → Disposition} {d e : Disposition}

lemma exists_last {α : Type} (p : α → Prop) (l : List α) :
    (∀ b ∈ l, ¬p b) ∨ ∃ front a rest, l = front ++ a :: rest ∧ p a ∧ ∀ b ∈ rest, ¬p b := by
  induction l with
  | nil => exact .inl fun b hb => absurd hb List.not_mem_nil
  | cons x l ih =>
    rcases ih with hnone | ⟨front, a, rest, rfl, ha, hrest⟩
    · by_cases hx : p x
      · exact .inr ⟨[], x, l, rfl, hx, hnone⟩
      · exact .inl (List.forall_mem_cons.mpr ⟨hx, hnone⟩)
    · exact .inr ⟨x :: front, a, rest, rfl, ha, hrest⟩

lemma settleAll_append_cons (front rest : List ActionSet) (a : ActionSet) :
    settleAll view (front ++ a :: rest) d =
      settleAll view rest (a.settle (view (settleAll view front d)) (settleAll view front d)) := by
  unfold settleAll
  rw [List.foldl_append, List.foldl_cons]

lemma settleAll_state_lock (view view' : Disposition → Disposition) (marks : List ActionSet)
    (hstate : d.state = e.state) (hlock : d.lock = e.lock) :
    (settleAll view marks d).state = (settleAll view' marks e).state ∧
      (settleAll view marks d).lock = (settleAll view' marks e).lock := by
  induction marks generalizing d e with
  | nil => exact ⟨hstate, hlock⟩
  | cons a marks ih =>
    apply ih
    · change a.setState.elim d.state _ = a.setState.elim e.state _
      rw [hstate]
    · change a.setLocked.elim d.lock _ = a.setLocked.elim e.lock _
      rw [hlock]

lemma relabel_of_not_overwrites {a : ActionSet} (ha : ¬a.Overwrites) (seen labels : Finset String) :
    a.relabel seen labels = labels ∪ (a.addLabels.getD []).toFinset := by
  unfold ActionSet.Overwrites at ha
  rw [not_or, not_not, not_not] at ha
  unfold ActionSet.relabel
  rw [ha.1, ha.2]

lemma mem_labels_of_not_overwrites {rest : List ActionSet} (hrest : ∀ b ∈ rest, ¬b.Overwrites)
    (l : String) :
    l ∈ (settleAll view rest d).labels ↔ l ∈ d.labels ∨ ∃ b ∈ rest, l ∈ b.addLabels.getD [] := by
  induction rest generalizing d with
  | nil => simp [settleAll]
  | cons b rest ih =>
    have hb := relabel_of_not_overwrites (hrest b List.mem_cons_self)
    have hlater := ih (d := b.settle (view d) d) fun b' hb' => hrest b' (List.mem_cons_of_mem b hb')
    have hsettle : (b.settle (view d) d).labels = d.labels ∪ (b.addLabels.getD []).toFinset := hb _ _
    rw [hsettle, Finset.mem_union, List.mem_toFinset] at hlater
    refine hlater.trans ?_
    rw [List.exists_mem_cons_iff, or_assoc]

/-- Marks leave the same labels under two views exactly when their last overwriting one does not tell the
views apart. -/
theorem labels_eq_iff_viewsMeet (view view' : Disposition → Disposition) (marks : List ActionSet)
    (d : Disposition) :
    (settleAll view marks d).labels = (settleAll view' marks d).labels ↔ ViewsMeet view view' marks d := by
  -- with the last overwriting mark given, both sides come down to what it makes of the labels
  have hmem (view : Disposition → Disposition) (front rest : List ActionSet) (a : ActionSet)
      (hrest : ∀ b ∈ rest, ¬b.Overwrites) (l : String) :
      l ∈ (settleAll view (front ++ a :: rest) d).labels ↔
        l ∈ a.relabel (view (settleAll view front d)).labels (settleAll view front d).labels ∨
          ∃ b ∈ rest, l ∈ b.addLabels.getD [] := by
    rw [settleAll_append_cons]
    exact mem_labels_of_not_overwrites hrest l
  constructor
  · intro heq front a rest targets hmarks hreplace hremove hrest l hl hadds
    rw [List.forall_mem_cons] at hadds
    have hnone : ¬∃ b ∈ rest, l ∈ b.addLabels.getD [] := fun ⟨b, hb, hlb⟩ => hadds.2 b hb hlb
    have hkept (seen labels : Finset String) : l ∈ a.relabel seen labels ↔ l ∈ seen := by
      unfold ActionSet.relabel
      rw [hreplace, hremove]
      simp [hl, hadds.1]
    have hboth := Finset.ext_iff.mp heq l
    rw [hmarks, hmem _ _ _ _ hrest, hmem _ _ _ _ hrest, or_iff_left hnone, or_iff_left hnone, hkept,
      hkept] at hboth
    exact hboth
  · intro hmeet
    ext l
    rcases exists_last ActionSet.Overwrites marks with hnone | ⟨front, a, rest, rfl, ha, hrest⟩
    · rw [mem_labels_of_not_overwrites hnone, mem_labels_of_not_overwrites hnone]
    · rw [hmem _ _ _ _ hrest, hmem _ _ _ _ hrest]
      unfold ActionSet.relabel
      cases hreplace : given a.replaceLabels with
      | some replacement => rfl
      | none =>
        cases hremove : given a.removeLabels with
        | none => exact absurd ha (by simp [ActionSet.Overwrites, hreplace, hremove])
        | some targets =>
          have hl := hmeet front a rest targets rfl hreplace hremove hrest l
          rw [List.forall_mem_cons] at hl
          simp only [Finset.mem_union, Finset.mem_sdiff, List.mem_toFinset]
          by_cases hadds : l ∈ a.addLabels.getD [] ∨ ∃ b ∈ rest, l ∈ b.addLabels.getD []
          · tauto
          · rw [not_or] at hadds
            have hnone : ∀ b ∈ rest, l ∉ b.addLabels.getD [] := fun b hb hlb => hadds.2 ⟨b, hb, hlb⟩
            tauto

/-- Marks leave the same labels in both ways exactly when their last overwriting one does not tell the
labels it sees from those that are there. -/
theorem labels_eq_iff (marks : List ActionSet) (d : Disposition) :
    (settleAll (fun _ => d) marks d).labels = (settleAll id marks d).labels ↔ LabelsMeet marks d :=
  labels_eq_iff_viewsMeet (fun _ => d) id marks d

/-- After marks that take nobody off without a name, two dispositions agree on a login that one of the
marks mentions, and on any other as they did before. -/
lemma assignees_agree_iff {rest : List ActionSet}
    (hrest : ∀ b ∈ rest, b.removesAllAssignees = false) (l : String) :
    (l ∈ (settleAll view rest d).assignees ↔ l ∈ (settleAll view' rest e).assignees) ↔
      (∃ b ∈ rest, b.Mentions l) ∨ (l ∈ d.assignees ↔ l ∈ e.assignees) := by
  induction rest generalizing d e with
  | nil => simp [settleAll]
  | cons b rest ih =>
    have hb := hrest b List.mem_cons_self
    have hlater := ih (d := b.settle (view d) d) (e := b.settle (view' e) e)
      fun b' hb' => hrest b' (List.mem_cons_of_mem b hb')
    have hsettle (seen now : Disposition) : l ∈ (b.settle seen now).assignees ↔
        (l ∈ now.assignees ∧ l ∉ b.removeAssignees.getD []) ∨ l ∈ b.addAssignees.getD [] := by
      have hdropped : b.dropped seen.assignees = (b.removeAssignees.getD []).toFinset := by
        unfold ActionSet.dropped
        rw [hb, if_neg Bool.false_ne_true]
      change l ∈ now.assignees \ b.dropped seen.assignees ∪ _ ↔ _
      rw [hdropped, Finset.mem_union, Finset.mem_sdiff, List.mem_toFinset, List.mem_toFinset]
    rw [hsettle, hsettle] at hlater
    refine hlater.trans ?_
    rw [List.exists_mem_cons_iff]
    by_cases hmentions : b.Mentions l
    · have hnow : (l ∈ d.assignees ∧ l ∉ b.removeAssignees.getD []) ∨ l ∈ b.addAssignees.getD [] ↔
          (l ∈ e.assignees ∧ l ∉ b.removeAssignees.getD []) ∨ l ∈ b.addAssignees.getD [] := by
        rcases hmentions with hremove | hadd
        · simp [hremove]
        · simp [hadd]
      exact iff_of_true (.inr hnow) (.inl (.inl hmentions))
    · have hnot := hmentions
      unfold ActionSet.Mentions at hnot
      rw [not_or] at hnot
      simp [hmentions, hnot.1, hnot.2]

/-- Marks leave the same assignees in both ways exactly when their last one that takes all assignees off
does not miss any by looking at the first snapshot. -/
theorem assignees_eq_iff (marks : List ActionSet) (d : Disposition) :
    (settleAll (fun _ => d) marks d).assignees = (settleAll id marks d).assignees ↔
      AssigneesMeet marks d := by
  have hagree (front rest : List ActionSet) (a : ActionSet) (ha : a.removesAllAssignees = true)
      (hrest : ∀ b ∈ rest, b.removesAllAssignees = false) (l : String) :
      (l ∈ (settleAll (fun _ => d) (front ++ a :: rest) d).assignees ↔
          l ∈ (settleAll id (front ++ a :: rest) d).assignees) ↔
        (∃ b ∈ rest, b.Mentions l) ∨ (l ∉ d.assignees →
          l ∈ (settleAll (fun _ => d) front d).assignees → l ∈ a.addAssignees.getD []) := by
    have hsettle (seen now : Disposition) : l ∈ (a.settle seen now).assignees ↔
        (l ∈ now.assignees ∧ l ∉ seen.assignees) ∨ l ∈ a.addAssignees.getD [] := by
      change l ∈ now.assignees \ a.dropped seen.assignees ∪ _ ↔ _
      unfold ActionSet.dropped
      rw [if_pos ha, Finset.mem_union, Finset.mem_sdiff, List.mem_toFinset]
    rw [settleAll_append_cons, settleAll_append_cons, assignees_agree_iff hrest, hsettle, hsettle]
    apply or_congr_right
    rw [id]
    tauto
  constructor
  · intro heq front a rest hmarks ha hrest l hl hfront
    have hboth := Finset.ext_iff.mp heq l
    rw [hmarks, hagree front rest a ha hrest] at hboth
    rcases hboth with hmentions | hadds
    · exact .inr hmentions
    · exact .inl (hadds hl hfront)
  · intro hmeet
    ext l
    rcases exists_last (fun a => a.removesAllAssignees = true) marks with
      hnone | ⟨front, a, rest, rfl, ha, hrest⟩
    · have hnamed : ∀ b ∈ marks, b.removesAllAssignees = false := fun b hb =>
        Bool.eq_false_iff.mpr (hnone b hb)
      exact (assignees_agree_iff hnamed l).mpr (.inr Iff.rfl)
    · have hnamed : ∀ b ∈ rest, b.removesAllAssignees = false := fun b hb =>
        Bool.eq_false_iff.mpr (hrest b hb)
      rw [hagree front rest a ha hnamed]
      by_cases hmentions : ∃ b ∈ rest, b.Mentions l
      · exact .inl hmentions
      · refine .inr fun hl hfront => ?_
        exact (hmeet front a rest rfl ha hnamed l hl hfront).resolve_right hmentions

end Settle

namespace MarkReport

/-- Applies marks one at a time, each of them to the issue read anew. -/
def oneByOne (c : Configuration) (n : Int) (names : List String) : Op Failure (List MarkReport) :=
  Op.each (fun name => do ofNames c (← Tracker.getIssue n) [name]) names

lemma step_applied {marks : Blocks} {issue : Issue} {name : String} {a : ActionSet} {execution : Execution}
    {t : Tracker} {h h' : Host} (ha : marks.mark? name = .ok (some a))
    (hexecute : a.execute issue t h = (.ok execution, h')) (report : MarkReport) :
    step marks issue report name t h = (.ok { report with applied := report.applied ++ [name] }, h') := by
  have hattempt : (Op.ofStep (a.execute issue).attempt : Op Failure _) t h = (.ok (.ok execution), h') := by
    rw [Op.ofStep, Op.attempt, hexecute]
  rw [step, ha]
  exact (Op.bind_ok hattempt _).trans rfl

lemma ofNames_eq {c : Configuration} {marks : Blocks} (hblocks : c.markBlocks = .ok marks) (issue : Issue)
    (names : List String) (t : Tracker) (h : Host) :
    ofNames c issue names t h = stepAll marks issue {} names t h := by
  rw [ofNames, hblocks]
  rfl

lemma ofNames_unnamed {c : Configuration} {e : Failure} (hblocks : c.markBlocks = .error e)
    (issue : Issue) (names : List String) (t : Tracker) (h : Host) :
    ofNames c issue names t h = (.error e, h) := by
  rw [ofNames, hblocks]
  rfl

section Runs

variable {t : Tracker} {h : Host} {n : Int} {r s : Record} {marks : Blocks}
  (hs : t.scope.fullName = t.home) (ht : ∀ log, t.fails log = none)

include hs ht

lemma step_ok (hr : h.record? n = some r) (hn : s.number = n) {name : String} {a : ActionSet}
    (ha : marks.mark? name = .ok (some a)) (report : MarkReport) :
    ∃ h' r', step marks s.issue report name t h =
        (.ok { report with applied := report.applied ++ [name] }, h') ∧
      h'.record? n = some r' ∧ r'.disposition = a.settle s.disposition r.disposition := by
  obtain ⟨h', calls, hexecute, hadv, hd⟩ := ActionSet.execute_ok hs ht hr a hn
  have hr' := hadv.record? hr
  refine ⟨h', _, step_applied ha hexecute report, hr', ?_⟩
  rw [Host.disposition?, hr'] at hd
  exact Option.some.inj hd

lemma stepAll_ok {names : List String} {actions : List ActionSet} (hn : s.number = n)
    (hvalid : List.Forall₂ (fun name a => marks.mark? name = .ok (some a)) names actions)
    (hr : h.record? n = some r) (report : MarkReport) :
    ∃ h' r', stepAll marks s.issue report names t h =
        (.ok { report with applied := report.applied ++ names }, h') ∧
      h'.record? n = some r' ∧
      r'.disposition = settleAll (fun _ => s.disposition) actions r.disposition := by
  induction hvalid generalizing h r report with
  | nil => exact ⟨h, r, by rw [List.append_nil]; rfl, hr, rfl⟩
  | @cons name a names actions ha _ ih =>
    obtain ⟨h₁, r₁, hfirst, hr₁, hd₁⟩ := step_ok hs ht hr hn ha report
    obtain ⟨h₂, r₂, hrest, hr₂, hd₂⟩ := ih hr₁ { report with applied := report.applied ++ [name] }
    refine ⟨h₂, r₂, ?_, hr₂, ?_⟩
    · rw [stepAll]
      refine (Op.bind_ok hfirst _).trans (hrest.trans ?_)
      rw [List.append_assoc, List.singleton_append]
    · rw [hd₂, hd₁]
      rfl

lemma ofNames_ok {c : Configuration} {names : List String} {actions : List ActionSet}
    (hblocks : c.markBlocks = .ok marks) (hn : s.number = n)
    (hvalid : List.Forall₂ (fun name a => marks.mark? name = .ok (some a)) names actions)
    (hr : h.record? n = some r) :
    ∃ h' r', ofNames c s.issue names t h = (.ok { applied := names }, h') ∧
      h'.record? n = some r' ∧
      r'.disposition = settleAll (fun _ => s.disposition) actions r.disposition := by
  obtain ⟨h', r', hall, hr', hd⟩ := stepAll_ok hs ht hn hvalid hr {}
  exact ⟨h', r', (ofNames_eq hblocks _ names t h).trans hall, hr', hd⟩

lemma oneByOne_ok {c : Configuration} {names : List String} {actions : List ActionSet}
    (hblocks : c.markBlocks = .ok marks)
    (hvalid : List.Forall₂ (fun name a => marks.mark? name = .ok (some a)) names actions)
    (hr : h.record? n = some r) :
    ∃ h' r', oneByOne c n names t h = (.ok (names.map fun name => { applied := [name] }), h') ∧
      h'.record? n = some r' ∧ r'.disposition = settleAll id actions r.disposition := by
  induction hvalid generalizing h r with
  | nil => exact ⟨h, r, rfl, hr, rfl⟩
  | @cons name a names actions ha _ ih =>
    have hn : r.number = n := (Host.record?_eq_some_iff.mp hr).2
    have hfetched : (h.logged (.fetch n)).record? n = some r := hr
    obtain ⟨h₁, r₁, hfirst, hr₁, hd₁⟩ := ofNames_ok hs ht hblocks hn (.cons ha .nil) hfetched
    obtain ⟨h₂, r₂, hrest, hr₂, hd₂⟩ := ih hr₁
    refine ⟨h₂, r₂, ?_, hr₂, ?_⟩
    · have hread := (Op.bind_ok (Tracker.getIssue_ok hs ht hr) fun i => ofNames c i [name]).trans hfirst
      exact (Op.bind_ok hread _).trans ((Op.bind_ok hrest _).trans rfl)
    · rw [hd₂, hd₁]
      rfl

end Runs

/-- Valid marks are all applied, at once as well as one by one. The issue has the same state and lock
after both, and the same labels and assignees exactly when the marks do not compute them from a snapshot
in which the marks before are missing. -/
theorem ofNames_eq_oneByOne_iff (c : Configuration) (t : Tracker) (h : Host) (n : Int) (r : Record)
    (marks : Blocks) (names : List String) (actions : List ActionSet)
    (hs : t.scope.fullName = t.home) (ht : ∀ log, t.fails log = none) (hr : h.record? n = some r)
    (hblocks : c.markBlocks = .ok marks)
    (hvalid : List.Forall₂ (fun name a => marks.mark? name = .ok (some a)) names actions) :
    ∃ snapshot h₀ report h₁ reports h₂ atOnce inTurn,
      Tracker.getIssue n t h = (.ok snapshot, h₀) ∧
      ofNames c snapshot names t h₀ = (.ok report, h₁) ∧ report = { applied := names } ∧
      oneByOne c n names t h = (.ok reports, h₂) ∧
      reports = names.map (fun name => { applied := [name] }) ∧
      h₁.disposition? n = some atOnce ∧ h₂.disposition? n = some inTurn ∧
      atOnce.state = inTurn.state ∧ atOnce.lock = inTurn.lock ∧
      (atOnce.labels = inTurn.labels ↔ LabelsMeet actions r.disposition) ∧
      (atOnce.assignees = inTurn.assignees ↔ AssigneesMeet actions r.disposition) := by
  have hn : r.number = n := (Host.record?_eq_some_iff.mp hr).2
  have hfetched : (h.logged (.fetch n)).record? n = some r := hr
  obtain ⟨h₁, r₁, honce, hr₁, hd₁⟩ := ofNames_ok hs ht hblocks hn hvalid hfetched
  obtain ⟨h₂, r₂, hturn, hr₂, hd₂⟩ := oneByOne_ok hs ht hblocks hvalid hr
  have hsame := settleAll_state_lock (fun _ => r.disposition) id actions
    (rfl : r.disposition.state = _) rfl
  refine ⟨r.issue, _, _, h₁, _, h₂, r₁.disposition, r₂.disposition, Tracker.getIssue_ok hs ht hr, honce,
    rfl, hturn, rfl, ?_, ?_, ?_, ?_, ?_, ?_⟩
  · rw [Host.disposition?, hr₁, Option.map_some]
  · rw [Host.disposition?, hr₂, Option.map_some]
  · rw [hd₁, hd₂]
    exact hsame.1
  · rw [hd₁, hd₂]
    exact hsame.2
  · rw [hd₁, hd₂]
    exact labels_eq_iff actions r.disposition
  · rw [hd₁, hd₂]
    exact assignees_eq_iff actions r.disposition

def takeBlock : Value := .map [
  (.str (.ofString "add_labels"), .list [.str (.ofString "taken")]),
  (.str (.ofString "add_assignees"), .str (.ofString "eve"))]

def tidyBlock : Value := .map [
  (.str (.ofString "remove_labels"), .str (.ofString "stale")),
  (.str (.ofString "remove_assignees"), .str (.ofString "all"))]

def deskMarks : Configuration where
  marks := [(.str (.ofString "take"), takeBlock), (.str (.ofString "tidy"), tidyBlock)]

def deskBlocks : Blocks := [("take", takeBlock), ("tidy", tidyBlock)]

def take : ActionSet where
  addLabels := some ["taken"]
  addAssignees := some ["eve"]

def tidy : ActionSet where
  removeLabels := some ["stale"]
  removeAssignees := some ["all"]

/-- Tidying before taking comes to the same in both ways. -/
theorem ofNames_eq_oneByOne_tidy_take :
    ∃ snapshot h₀ report h₁ reports h₂ d,
      Tracker.getIssue 4 quietTracker crowdedHost = (.ok snapshot, h₀) ∧
      ofNames deskMarks snapshot ["tidy", "take"] quietTracker h₀ = (.ok report, h₁) ∧
      oneByOne deskMarks 4 ["tidy", "take"] quietTracker crowdedHost = (.ok reports, h₂) ∧
      h₁.disposition? 4 = some d ∧ h₂.disposition? 4 = some d := by
  obtain ⟨snapshot, h₀, report, h₁, reports, h₂, once, each, hread, honce, -, heach, -, hd₁, hd₂, hstate,
    hlock, hlabels, hassignees⟩ :=
    ofNames_eq_oneByOne_iff deskMarks quietTracker crowdedHost 4 crowdedRecord deskBlocks
      ["tidy", "take"] [tidy, take] rfl (fun _ => rfl) rfl rfl (.cons rfl (.cons rfl .nil))
  -- only the first of the two looks at the snapshot
  have hfront {front rest : List ActionSet} {a : ActionSet} (h : [tidy, take] = front ++ a :: rest)
      (ha : a ≠ take) : front = [] := by
    rcases front with - | ⟨b, - | ⟨b', front⟩⟩
    · rfl
    · obtain ⟨-, h⟩ := List.cons.inj h
      exact absurd (List.cons.inj h).1.symm ha
    · simp at h
  have hmeet : LabelsMeet [tidy, take] crowdedRecord.disposition := by
    intro front a rest targets h _ hremove _ l _ _
    obtain rfl := hfront h fun ha => by rw [ha] at hremove; cases hremove
    rfl
  have hmeet' : AssigneesMeet [tidy, take] crowdedRecord.disposition := by
    intro front a rest h hall _ l hl hin
    obtain rfl := hfront h fun ha => by rw [ha] at hall; cases hall
    exact absurd hin hl
  have hsame : each = once := by
    ext1
    · exact (hlabels.mpr hmeet).symm
    · exact (hassignees.mpr hmeet').symm
    · exact hstate.symm
    · exact hlock.symm
  exact ⟨snapshot, h₀, report, h₁, reports, h₂, once, hread, honce, heach, hd₁, hsame ▸ hd₂⟩

/-- Taking before tidying does not: at once, the new label is lost and the new assignee stays. -/
theorem ofNames_ne_oneByOne_take_tidy :
    deskMarks.markBlocks = .ok deskBlocks ∧ deskBlocks.mark? "take" = .ok (some take) ∧
      deskBlocks.mark? "tidy" = .ok (some tidy) ∧
      (ofNames deskMarks crowdedRecord.issue ["take", "tidy"] quietTracker crowdedHost).2.disposition? 4 =
        some ⟨{"kept", "bug"}, {"eve"}, "open", false, none⟩ ∧
      (oneByOne deskMarks 4 ["take", "tidy"] quietTracker crowdedHost).2.disposition? 4 =
        some ⟨{"kept", "bug", "taken"}, ∅, "open", false, none⟩ := by
  refine ⟨rfl, rfl, rfl, ?_, ?_⟩
  · decide +kernel
  · decide +kernel

end MarkReport

end Triage
