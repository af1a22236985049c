import Mathlib
import Triage.Event
import Triage.Proofs.TrackerCalls

/-!
# One label of each namespace

When a label is attached, the labels that begin with its namespace give way. That is not the same as having
its namespace, since the namespace of a label may go on behind the first colon, but it covers all labels
that have it. What the namespace of a label is can be seen in its text. So an issue on which no two labels share a namespace stays such an issue, however many labels
are attached to it one after another.
-/

namespace Triage.Labels

/-- The namespace of a label is what its first line has up to the last colon, with that colon. A label with
nothing in front of that colon has none. -/
def IsNamespace (ns label : String) : Prop :=
  ∃ front rest, label.toList.takeWhile (· ≠ '\n') = front ++ ':' :: rest ∧ ':' ∉ rest ∧ front ≠ [] ∧
    ns.toList = front ++ [':']

lemma exists_last_colon {cs : List Char} (h : ':' ∈ cs) :
    ∃ front rest, cs = front ++ ':' :: rest ∧ ':' ∉ rest := by
  obtain ⟨rest, front, hcut, hlast⟩ := List.eq_append_cons_of_mem (List.mem_reverse.mpr h)
  refine ⟨front.reverse, rest.reverse, ?_, by simpa using hlast⟩
  rw [← cs.reverse_reverse, hcut]
  simp

lemma rdropWhile_colon {cs : List Char} (h : ':' ∉ cs) : cs.rdropWhile (· ≠ ':') = [] := by
  rw [List.rdropWhile_eq_nil_iff]
  intro c hc
  simpa using fun hcolon : c = ':' => h (hcolon ▸ hc)

lemma rdropWhile_append_colon (a b : List Char) :
    (a ++ ':' :: b).rdropWhile (· ≠ ':') = a ++ ':' :: b.rdropWhile (· ≠ ':') := by
  induction b using List.reverseRecOn with
  | nil => exact List.rdropWhile_concat_neg _ _ _ (by simp)
  | append_singleton b c ih =>
    have hassoc : a ++ ':' :: (b ++ [c]) = (a ++ ':' :: b) ++ [c] := by simp
    rw [hassoc]
    by_cases hc : c = ':'
    · rw [List.rdropWhile_concat_neg _ _ _ (by simp [hc]), List.rdropWhile_concat_neg _ _ _ (by simp [hc])]
      exact hassoc.symm
    · rw [List.rdropWhile_concat_pos _ _ _ (by simp [hc]), List.rdropWhile_concat_pos _ _ _ (by simp [hc])]
      exact ih

lemma upToLastColon_cons (c : Char) (cs : List Char) :
    upToLastColon (c :: cs) = if ':' ∈ cs then some (c :: cs.rdropWhile (· ≠ ':')) else none := by
  induction cs generalizing c with
  | nil => simp [upToLastColon]
  | cons d ds ih =>
    rw [upToLastColon, ih d]
    by_cases hds : ':' ∈ ds
    · obtain ⟨a, b, rfl⟩ := List.append_of_mem hds
      have hlater := rdropWhile_append_colon (d :: a) b
      rw [List.cons_append] at hlater
      rw [if_pos hds, if_pos (List.mem_cons_of_mem d hds), hlater, rdropWhile_append_colon]
      rfl
    · rw [if_neg hds]
      by_cases hd : d = ':'
      · have hlast := rdropWhile_append_colon [] ds
        rw [List.nil_append, List.nil_append, rdropWhile_colon hds] at hlast
        rw [hd, hlast]
        simp
      · simp [hd, hds, Ne.symm hd]

lemma namespace?_of_isNamespace {ns label : String} (h : IsNamespace ns label) : namespace? label = some ns := by
  obtain ⟨front, rest, hline, hlast, hne, hns⟩ := h
  obtain ⟨c, front, rfl⟩ := List.exists_cons_of_ne_nil hne
  rw [namespace?, hline, List.cons_append, upToLastColon_cons, if_pos (by simp), rdropWhile_append_colon,
    rdropWhile_colon hlast, Option.map_some, Option.some.injEq, ← String.toList_inj, String.toList_ofList, hns]
  rfl

theorem namespace?_eq_some_iff {ns label : String} : namespace? label = some ns ↔ IsNamespace ns label := by
  refine ⟨fun h => ?_, namespace?_of_isNamespace⟩
  cases hline : label.toList.takeWhile (· ≠ '\n') with
  | nil =>
    rw [namespace?, hline] at h
    cases h
  | cons c cs =>
    by_cases hcolon : ':' ∈ cs
    · obtain ⟨front, rest, rfl, hlast⟩ := exists_last_colon hcolon
      have hfound : IsNamespace (String.ofList (c :: front ++ [':'])) label :=
        ⟨c :: front, rest, hline, hlast, List.cons_ne_nil _ _, String.toList_ofList⟩
      have hsame := (namespace?_of_isNamespace hfound).symm.trans h
      rwa [Option.some.inj hsame] at hfound
    · rw [namespace?, hline, upToLastColon_cons, if_neg hcolon] at h
      cases h

instance (label : String) (p : String → Prop) [DecidablePred p] :
    Decidable (∀ ns, IsNamespace ns label → p ns) :=
  decidable_of_iff (∀ ns ∈ namespace? label, p ns) (by simp only [Option.mem_def, namespace?_eq_some_iff])

/-- Labels of which no two different ones share a namespace. -/
def Exclusive (labels : List String) : Prop :=
  ∀ a ∈ labels, ∀ b ∈ labels, ∀ ns, IsNamespace ns a → IsNamespace ns b → a = b

/-- Whether a label has nothing to do with the namespace of an attached one. -/
def isApart (attached label : String) : Bool :=
  decide (∀ ns, IsNamespace ns attached → ¬ns.toList <+: label.toList)

/-- Whether another one of some labels begins with the namespace of an attached one. -/
def Crowds (attached : String) (labels : List String) : Prop :=
  ∃ ns, IsNamespace ns attached ∧ ∃ other ∈ labels, other ≠ attached ∧ ns.toList <+: other.toList

/-- Labels after one was attached. -/
def withLabel (labels : List String) (label : String) : List String :=
  if label ∈ labels then labels else labels ++ [label]

variable {attached label : String} {labels : List String}

lemma mem_withLabel {l : String} : l ∈ withLabel labels label ↔ l ∈ labels ∨ l = label := by
  unfold withLabel
  split_ifs with hmem
  · exact ⟨.inl, fun h => h.elim id fun hl => hl ▸ hmem⟩
  · simp

lemma sublist_withLabel (labels : List String) (label : String) :
    labels.Sublist (withLabel labels label) := by
  unfold withLabel
  split_ifs
  · exact List.Sublist.refl _
  · exact List.sublist_append_left _ _

lemma crowds_withLabel : Crowds label (withLabel labels label) ↔ Crowds label labels := by
  refine exists_congr fun ns => and_congr_right fun _ => exists_congr fun other => ?_
  rw [mem_withLabel, or_and_right]
  exact or_iff_left fun h => h.2.1 h.1

lemma isIn_iff {ns : String} : isIn ns label = true ↔ ns.toList <+: label.toList :=
  List.isPrefixOf_iff_prefix

lemma IsNamespace.unique {ns ns' : String} (h : IsNamespace ns label) (h' : IsNamespace ns' label) :
    ns = ns' :=
  Option.some.inj ((namespace?_of_isNamespace h).symm.trans (namespace?_of_isNamespace h'))

lemma isApart_eq {ns : String} (hns : IsNamespace ns attached) : isApart attached label = !isIn ns label := by
  rw [Bool.eq_iff_iff, isApart, decide_eq_true_eq, Bool.not_eq_true', ← Bool.not_eq_true, isIn_iff]
  refine ⟨fun h => h ns hns, fun hout ns' hns' => ?_⟩
  rwa [hns'.unique hns]

/-- A label begins with its namespace. -/
lemma IsNamespace.isPrefix {ns : String} (h : IsNamespace ns label) : ns.toList <+: label.toList := by
  obtain ⟨front, rest, hline, -, -, hns⟩ := h
  have hfront : ns.toList <+: label.toList.takeWhile (· ≠ '\n') :=
    ⟨rest, by rw [hline, hns, List.append_assoc, List.singleton_append]⟩
  exact hfront.trans (List.takeWhile_prefix _)

/-- Attaching a label that crowds nobody out keeps the labels exclusive. -/
lemma Exclusive.attach {more : List String} (h : Exclusive labels) (hcrowds : ¬Crowds attached labels)
    (hmore : ∀ l ∈ more, l ∈ labels ∨ l = attached) : Exclusive more := by
  have hpeer {l ns : String} (hl : l ∈ labels) (hns : IsNamespace ns attached)
      (hlns : IsNamespace ns l) : l = attached := by
    by_contra hne
    exact hcrowds ⟨ns, hns, l, hl, hne, hlns.isPrefix⟩
  intro a ha b hb ns hans hbns
  rcases hmore a ha with ha | rfl <;> rcases hmore b hb with hb | rfl
  · exact h a ha b hb ns hans hbns
  · exact hpeer ha hbns hans
  · exact (hpeer hb hans hbns).symm
  · rfl

/-- Without the labels that begin with its namespace, an attached label crowds nobody out. -/
lemma not_crowds_filter {ns : String} (hns : IsNamespace ns attached) :
    ¬Crowds attached (labels.filter (!isIn ns ·)) := by
  rintro ⟨ns', hns', other, hother, -, hin⟩
  obtain rfl := hns.unique hns'
  simp [isIn_iff.mpr hin] at hother

lemma Exclusive.mono {fewer : List String} (h : Exclusive labels) (hfewer : ∀ l ∈ fewer, l ∈ labels) :
    Exclusive fewer :=
  fun a ha b hb => h a (hfewer a ha) b (hfewer b hb)

lemma sameSet_iff {a b : List String} : sameSet a b = true ↔ ∀ l, l ∈ a ↔ l ∈ b := by
  simp only [sameSet, Bool.and_eq_true, List.all_eq_true, decide_eq_true_eq]
  exact ⟨fun h l => ⟨h.1 l, h.2 l⟩, fun h => ⟨fun l => (h l).mp, fun l => (h l).mpr⟩⟩

end Triage.Labels

namespace Triage.PeerLabels

open Labels (Exclusive Crowds IsNamespace isApart isIn namespace? withLabel mem_withLabel sublist_withLabel)

variable {issue : Issue} {attached : String}

lemma change?_eq_none_iff : change? issue attached = none ↔ ¬Crowds attached issue.labelNames := by
  unfold change? Labels.exclusive?
  simp only [Crowds, ← Labels.namespace?_eq_some_iff, ← Labels.isIn_iff]
  cases hns : namespace? attached with
  | none => simp
  | some ns =>
    have hself := Labels.isIn_iff.mpr (Labels.namespace?_eq_some_iff.mp hns).isPrefix
    simp only [Option.map_some, Option.filter_eq_none_iff, Option.some.injEq, forall_eq',
      Bool.not_eq_true', Bool.not_eq_false, Labels.sameSet_iff, exists_eq_left']
    constructor
    · rintro hsame ⟨other, hother, hne, hin⟩
      have hmem := (hsame other).mpr (List.mem_append_left _ hother)
      simp [hin, hne] at hmem
    · intro hnone l
      by_cases hl : l = attached
      · simp [hl]
      · have hout : l ∈ issue.labelNames → isIn ns l = false := fun hmem =>
          Bool.eq_false_iff.mpr fun hin => hnone ⟨l, hmem, hl, hin⟩
        simp only [List.mem_append, List.mem_filter, List.mem_singleton, hl, or_false]
        exact ⟨fun h => h.1, fun h => ⟨h, by rw [hout h]; rfl⟩⟩

lemma change?_eq_some {labels : List String} (h : change? issue attached = some labels) :
    ∃ ns, IsNamespace ns attached ∧
      labels = issue.labelNames.filter (!isIn ns ·) ++ [attached] := by
  obtain ⟨hlabels, -⟩ := Option.filter_eq_some_iff.mp h
  obtain ⟨ns, hns, rfl⟩ := Option.map_eq_some_iff.mp hlabels
  exact ⟨ns, Labels.namespace?_eq_some_iff.mp hns, rfl⟩

/-- A host after a label was attached to one of its issues. -/
def attach (n : Int) (label : String) (h : Host) : Host :=
  (h.record? n).elim h fun r => h.put (r.after (.addLabels [label]))

/-- An event that says which label was attached to the issue of a snapshot. -/
structure Announces (event : String) (payload : Json) (issue : Issue) (label : String) : Prop where
  key : Event.key event payload = .ok "issues.labeled"
  present : Payload.holds "issue" payload = .ok true
  snapshot : (do Issue.ofJson (← Payload.get "issue" payload)) = .ok issue
  attached : ∃ name : CodeText, name.string = label ∧
    (do Payload.get "name" (← Payload.get "label" payload)) = .ok (.str name)

/-- A snapshot with the labels that an issue has at this moment. -/
structure IsCurrent (h : Host) (n : Int) (issue : Issue) : Prop where
  number : issue.number = n
  labels : (h.record? n).map (·.issue.labelNames) = some issue.labelNames

/-- Labels are attached to an issue one after another, and the delivery about each is handled before the
next. -/
inductive Run (c : Configuration) (t : Tracker) (n : Int) (start : Host) : List String → Host → Prop
  | start : Run c t n start [] start
  | snoc {labels : List String} {label event : String} {payload : Json} {issue : Issue} {h h' : Host}
      {result : Except Failure (Option String)} (now : Moment) (hrun : Run c t n start labels h)
      (hevent : Announces event payload issue label) (hissue : IsCurrent (attach n label h) n issue)
      (hhandle : Event.handle event payload c now t (attach n label h) = (result, h')) :
      Run c t n start (labels ++ [label]) h'

/-- What becomes of the labels of an issue when one is attached, and which calls are made for it. -/
structure Keeps (n : Int) (label : String) (before after : List String) (calls : List Call) : Prop where
  exclusive : Exclusive after
  attached : label ∈ after
  /-- The labels apart from the attached one's namespace are left, in their order. -/
  apart : (before.filter (isApart label)).Sublist after
  replaces : (∃ labels, Call.change n (.setLabels labels) ∈ calls) ↔ Crowds label before

variable {c : Configuration} {t : Tracker} {n : Int} {label : String} {h : Host} {r : Record}

lemma labelNames_addLabel (label : String) (r : Record) :
    (r.after (.addLabels [label])).issue.labelNames = withLabel r.issue.labelNames label := by
  have hattach : (r.after (.addLabels [label])).issue.labels =
      if label ∈ r.issue.labelNames then r.issue.labels else r.issue.labels ++ [.named label] := rfl
  rw [Issue.labelNames, hattach, withLabel]
  split_ifs
  · rfl
  · simp [Issue.labelNames, Label.named]

lemma labelNames_setLabels (labels : List String) (r : Record) :
    (r.after (.setLabels labels)).issue.labelNames = labels := by
  have hnames : (r.after (.setLabels labels)).issue.labelNames =
      (labels.map Label.named).map (·.name) := rfl
  rw [hnames, List.map_map]
  exact List.map_id _

/-- Where nobody is crowded out, the labels stay as they are with the attached one. -/
lemma keeps_withLabel {before : List String} (h : Exclusive before) (hfree : ¬Crowds label before) :
    Keeps n label before (withLabel before label) [] where
  exclusive := h.attach hfree fun _ hl => mem_withLabel.mp hl
  attached := mem_withLabel.mpr (.inr rfl)
  apart := List.filter_sublist.trans (sublist_withLabel before label)
  replaces := iff_of_false (by simp) hfree

/-- Otherwise those that begin with the attached label's namespace give way. -/
lemma keeps_replaced {before : List String} {ns : String} (h : Exclusive before)
    (hns : IsNamespace ns label) (hcrowds : Crowds label before) :
    let after := (withLabel before label).filter (!isIn ns ·) ++ [label]
    Keeps n label before after [.fetch n, .change n (.setLabels after)] where
  exclusive := by
    have hleft : ∀ l ∈ (withLabel before label).filter (!isIn ns ·), l ∈ before := by
      intro l hl
      obtain ⟨hmem, hout⟩ := List.mem_filter.mp hl
      refine (mem_withLabel.mp hmem).resolve_right ?_
      rintro rfl
      simp [Labels.isIn_iff.mpr hns.isPrefix] at hout
    refine (h.mono hleft).attach (Labels.not_crowds_filter hns) fun l hl => ?_
    exact (List.mem_append.mp hl).imp_right List.mem_singleton.mp
  attached := List.mem_append_right _ (List.mem_singleton_self label)
  apart := by
    have hapart : isApart label = (!isIn ns ·) := funext fun _ => Labels.isApart_eq hns
    rw [hapart]
    exact ((sublist_withLabel before label).filter _).trans (List.sublist_append_left _ _)
  replaces := iff_of_true ⟨_, List.mem_cons_of_mem _ (List.mem_singleton_self _)⟩ hcrowds

lemma record?_attach (hr : h.record? n = some r) (label : String) :
    (attach n label h).record? n = some (r.after (.addLabels [label])) := by
  have hadv := Host.advances_put hr (.addLabels [label])
  have hput := hadv.record? hr
  rw [Record.only_of_eq (Host.record?_eq_some_iff.mp hr).2] at hput
  rw [attach, hr]
  exact hput

lemma log_attach (n : Int) (label : String) (h : Host) : (attach n label h).log = h.log := by
  unfold attach
  cases h.record? n <;> rfl

/-- The delivery about an attached label comes to the removal of its peers. -/
lemma handle_labeled {event : String} {payload : Json} {issue : Issue} {removed : Option (List String)}
    {h' : Host} (hevent : Announces event payload issue label)
    (hremove : remove c.peerLabels issue label t h = (.ok removed, h')) (now : Moment) :
    Event.handle event payload c now t h = (.ok (some "issues.labeled"), h') := by
  obtain ⟨name, rfl, hname⟩ := hevent.attached
  have hlabel : Event.handleLabel c issue payload t h = (.ok (), h') := by
    unfold Event.handleLabel
    rw [hname]
    exact Op.bind_ok hremove _
  have hreact : Event.react "issues.labeled" c issue payload now t h = (.ok true, h') :=
    Op.bind_ok hlabel _
  unfold Event.handle
  rw [hevent.key, hevent.present, hevent.snapshot]
  exact Op.bind_ok hreact _

section Calm

variable (hscope : t.scope.fullName = t.home) (hcalm : ∀ log, t.fails log = none)

include hscope hcalm

/-- The removal of peers writes what the snapshot gives, or nothing, whatever labels the issue has. -/
lemma remove_writes (label : String) {issue : Issue} (hr : h.record? issue.number = some r) :
    ∃ removed h' r', remove true issue label t h = (.ok removed, h') ∧
      h'.record? issue.number = some r' ∧
      r'.issue.labelNames = (change? issue label).getD r.issue.labelNames ∧
      h'.log = h.log ++ (change? issue label).elim [] fun labels =>
        [.fetch issue.number, .change issue.number (.setLabels labels)] := by
  cases hchange : change? issue label with
  | none =>
    refine ⟨none, h, r, ?_, hr, rfl, (List.append_nil _).symm⟩
    simp only [remove, hchange, if_true]
    rfl
  | some labels =>
    obtain ⟨h', hreplace, hadv⟩ := Tracker.alter_ok (c := .setLabels labels) hscope hr rfl
      (Tracker.spares_of_fails hcalm _) (.replaceLabels issue.number)
    have hreplaced := hadv.record? hr
    rw [Record.only_of_eq (Host.record?_eq_some_iff.mp hr).2] at hreplaced
    refine ⟨some labels, h', _, ?_, hreplaced, labelNames_setLabels labels r, hadv.log⟩
    simp only [remove, hchange, if_true]
    exact (Op.bind_ok hreplace _).trans rfl

/-- The removal of peers for a current snapshot. -/
lemma remove_keeps {issue : Issue} (hissue : IsCurrent (attach n label h) n issue)
    (hr : h.record? n = some r) (hexclusive : Exclusive r.issue.labelNames) :
    ∃ removed h' r' calls, remove true issue label t (attach n label h) = (.ok removed, h') ∧
      h'.record? n = some r' ∧ h'.log = h.log ++ calls ∧
      Keeps n label r.issue.labelNames r'.issue.labelNames calls := by
  have hattached := record?_attach hr label
  have hnames : issue.labelNames = withLabel r.issue.labelNames label := by
    have hlabels := hissue.labels
    rw [hattached, Option.map_some, labelNames_addLabel] at hlabels
    exact (Option.some.inj hlabels).symm
  have hcrowds : Crowds label issue.labelNames ↔ Crowds label r.issue.labelNames := by
    rw [hnames, Labels.crowds_withLabel]
  obtain rfl := hissue.number
  obtain ⟨removed, h', r', hremove, hr', hlabels, hlog⟩ :=
    remove_writes hscope hcalm label hattached
  rw [log_attach] at hlog
  refine ⟨removed, h', r', _, hremove, hr', hlog, ?_⟩
  rw [hlabels, labelNames_addLabel]
  cases hchange : change? issue label with
  | none => exact keeps_withLabel hexclusive (hcrowds.not.mp (change?_eq_none_iff.mp hchange))
  | some labels =>
    have hcrowded : Crowds label r.issue.labelNames := by
      by_contra hfree
      rw [← hcrowds, ← change?_eq_none_iff, hchange] at hfree
      cases hfree
    obtain ⟨ns, hns, hwritten⟩ := change?_eq_some hchange
    rw [hnames] at hwritten
    rw [hwritten]
    exact keeps_replaced hexclusive hns hcrowded

/-- What one step keeps, and that it goes through. -/
lemma step_keeps {event : String} {payload : Json} {issue : Issue} (hpeers : c.peerLabels = true)
    (hr : h.record? n = some r) (hexclusive : Exclusive r.issue.labelNames)
    (hevent : Announces event payload issue label) (hissue : IsCurrent (attach n label h) n issue)
    (now : Moment) :
    ∃ h' r' calls, Event.handle event payload c now t (attach n label h) =
        (.ok (some "issues.labeled"), h') ∧
      h'.record? n = some r' ∧ h'.log = h.log ++ calls ∧
      Keeps n label r.issue.labelNames r'.issue.labelNames calls := by
  obtain ⟨removed, h', r', calls, hremove, hr', hlog, hkeeps⟩ :=
    remove_keeps hscope hcalm hissue hr hexclusive
  rw [← hpeers] at hremove
  exact ⟨h', r', calls, handle_labeled hevent hremove now, hr', hlog, hkeeps⟩

lemma run_exclusive {start : Host} {labels : List String} (hpeers : c.peerLabels = true)
    (hr : start.record? n = some r) (hstart : Exclusive r.issue.labelNames)
    (hrun : Run c t n start labels h) :
    ∃ r', h.record? n = some r' ∧ Exclusive r'.issue.labelNames := by
  induction hrun with
  | start => exact ⟨r, hr, hstart⟩
  | snoc now _ hevent hissue hhandle ih =>
    obtain ⟨u, hu, hexclusive⟩ := ih
    obtain ⟨h', r', calls, hok, hr', -, hkeeps⟩ :=
      step_keeps hscope hcalm hpeers hu hexclusive hevent hissue now
    obtain rfl := (Prod.mk.inj (hhandle.symm.trans hok)).2
    exact ⟨r', hr', hkeeps.exclusive⟩

end Calm

/-- From an issue on which no two labels share a namespace, any labels may be attached one after another,
with the delivery about each handled in between. The next one is handled as well, it is on the issue
afterwards, no two labels share a namespace, the labels apart from its namespace are left in their order,
and the labels are replaced exactly when another label begins with its namespace. -/
theorem attachments_stay_exclusive (c : Configuration) (t : Tracker) (n : Int) {start h : Host}
    {first : Record} {labels : List String} (hpeers : c.peerLabels = true)
    (hscope : t.scope.fullName = t.home) (hcalm : ∀ log, t.fails log = none)
    (hfirst : start.record? n = some first) (hstart : Exclusive first.issue.labelNames)
    (hrun : Run c t n start labels h) :
    ∃ r, h.record? n = some r ∧ Exclusive r.issue.labelNames ∧
      ∀ label event payload issue now, Announces event payload issue label →
        IsCurrent (attach n label h) n issue →
        ∃ h' r' calls, Event.handle event payload c now t (attach n label h) =
            (.ok (some "issues.labeled"), h') ∧
          h'.record? n = some r' ∧ h'.log = h.log ++ calls ∧
          Keeps n label r.issue.labelNames r'.issue.labelNames calls := by
  obtain ⟨r, hr, hexclusive⟩ := run_exclusive hscope hcalm hpeers hfirst hstart hrun
  exact ⟨r, hr, hexclusive, fun label event payload issue now hevent hissue =>
    step_keeps hscope hcalm hpeers hr hexclusive hevent hissue now⟩

def shelfTracker : Tracker where
  scope := ⟨"acme", "desk"⟩
  home := "acme/desk"
  find _ issues := issues

def shelfRecord : Record where
  issue := { number := 4, state := "open", labels := [.named "a:b:c", .named "bug"] }

def shelfHost : Host where
  records := [shelfRecord]
  distinct := by decide

/-- The event about an attached label, with an issue that has nothing but a number and labels. -/
def labeledPayload (n : Int) (labels : List String) (label : String) : Json :=
  .obj [("action", .str "labeled"),
    ("issue", .obj [("number", .int n), ("state", .str "open"),
      ("labels", .arr (labels.map fun l => .obj [("name", .str l)]))]),
    ("label", .obj [("name", .str label)])]

def shelfIssue (labels : List String) : Issue where
  number := 4
  state := "open"
  labels := labels.map fun name => { name }

lemma announces_labeledPayload {labels : List String} {label : String}
    (hlabels : (do Issue.ofJson (← Payload.get "issue" (labeledPayload 4 labels label))) =
      .ok (shelfIssue labels)) (hlabel : (label : CodeText).string = label) :
    Announces "issues" (labeledPayload 4 labels label) (shelfIssue labels) label :=
  ⟨rfl, rfl, hlabels, label, hlabel, rfl⟩

def shelfNow : Moment := ⟨0, none, Moment.maxTicks_pos⟩

/-- The label `a:d` displaces `a:b:c`, which begins with its namespace. The label `a:d:e`, whose namespace goes
on behind that of `a:d`, displaces nothing. -/
theorem attachments_stay_exclusive_nested :
    Exclusive shelfRecord.issue.labelNames ∧ shelfRecord.issue.labelNames = ["a:b:c", "bug"] ∧
      ∃ h, Run {} shelfTracker 4 shelfHost ["a:d"] h ∧
        (h.record? 4).map (·.issue.labelNames) = some ["bug", "a:d"] ∧
        ∃ h' r' calls, Event.handle "issues" (labeledPayload 4 ["bug", "a:d", "a:d:e"] "a:d:e") {} shelfNow
            shelfTracker (attach 4 "a:d:e" h) = (.ok (some "issues.labeled"), h') ∧
          h'.record? 4 = some r' ∧ h'.log = h.log ++ calls ∧
          Keeps 4 "a:d:e" ["bug", "a:d"] r'.issue.labelNames calls ∧
          r'.issue.labelNames = ["bug", "a:d", "a:d:e"] := by
  have hstart : Exclusive shelfRecord.issue.labelNames := by
    have hbug : ∀ ns, IsNamespace ns "bug" → False := by decide +kernel
    change Exclusive ["a:b:c", "bug"]
    intro a ha b hb ns hans hbns
    fin_cases ha <;> fin_cases hb
    · rfl
    · exact (hbug ns hbns).elim
    · exact (hbug ns hans).elim
    · rfl
  let h := (Event.handle "issues" (labeledPayload 4 ["a:b:c", "bug", "a:d"] "a:d") {} shelfNow
    shelfTracker (attach 4 "a:d" shelfHost)).2
  have hevent : Announces "issues" (labeledPayload 4 ["a:b:c", "bug", "a:d"] "a:d")
      (shelfIssue ["a:b:c", "bug", "a:d"]) "a:d" := announces_labeledPayload rfl (by decide +kernel)
  have hrun : Run {} shelfTracker 4 shelfHost ["a:d"] h := .snoc shelfNow .start hevent ⟨rfl, rfl⟩ rfl
  have hlabels : (h.record? 4).map (·.issue.labelNames) = some ["bug", "a:d"] := by decide +kernel
  obtain ⟨r, hr, -, hnext⟩ := attachments_stay_exclusive {} shelfTracker 4 rfl rfl (fun _ => rfl) rfl
    hstart hrun
  have hbefore := hlabels
  rw [hr, Option.map_some, Option.some.injEq] at hbefore
  rw [hbefore] at hnext
  obtain ⟨h', r', calls, hok, hr', hlog, hkeeps⟩ := hnext "a:d:e" "issues" _
    (shelfIssue ["bug", "a:d", "a:d:e"]) shelfNow (announces_labeledPayload rfl (by decide +kernel))
    ⟨rfl, by decide +kernel⟩
  have hafter : ((Event.handle "issues" (labeledPayload 4 ["bug", "a:d", "a:d:e"] "a:d:e") {} shelfNow
      shelfTracker (attach 4 "a:d:e" h)).2.record? 4).map (·.issue.labelNames) =
        some ["bug", "a:d", "a:d:e"] := by decide +kernel
  rw [hok, hr', Option.map_some, Option.some.injEq] at hafter
  exact ⟨hstart, rfl, h, hrun, hlabels, h', r', calls, hok, hr', hlog, hkeeps, hafter⟩

end Triage.PeerLabels
