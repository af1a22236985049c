import Mathlib
import Triage.Proofs.PredicateFields
import Triage.Proofs.RuleFaults
import Triage.Proofs.StoppedEffects

/-!
# Configured values

What a task configures narrows its query or changes the issues it finds. Empty texts and empty lists are
the exception: they pass the checks like other values, and then count as no values at all. Without its
blank predicates a task finds more issues than it asks for, and an empty list of labels replaces none.
-/

namespace Triage

namespace Predicates

/-- How many clauses the value of a field stands for: one, or one for each item of a list. There are none
to count when the field has no value. -/
def share? (p : Predicates) : PredicateField → Option Nat
  | .type => p.type.map fun _ => 1
  | .state => p.state.map fun _ => 1
  | .created => p.created.map fun _ => 1
  | .updated => p.updated.map fun _ => 1
  | .label => p.label.map List.length
  | .noLabel => p.noLabel.map List.length
  | .author => p.author.map fun _ => 1
  | .notAuthor => p.notAuthor.map fun _ => 1
  | .assignee => p.assignee.map fun _ => 1
  | .notAssigned => p.notAssigned.map fun _ => 1
  | .comments => p.comments.map fun _ => 1
  | .review => p.review.map fun _ => 1
  | .reviewedBy => p.reviewedBy.map fun _ => 1
  | .linked => p.linked.map fun _ => 1
  | .noLinked => p.noLinked.map fun _ => 1

/-- Whether the value of a field is an empty text or an empty list. A duration is neither. -/
def isBlank (p : Predicates) : PredicateField → Bool
  | .label => p.label == some []
  | .noLabel => p.noLabel == some []
  | .author => p.author == some ""
  | .notAuthor => p.notAuthor == some ""
  | .assignee => p.assignee == some ""
  | .notAssigned => p.notAssigned == some ""
  | .reviewedBy => p.reviewedBy == some ""
  | _ => false

end Predicates

namespace Query

/-- Clauses that a value makes: none without a value or for a blank one, and otherwise its share. -/
structure Heeds (share? : Option Nat) (blank : Bool) (cs : List Clause) : Prop where
  silent : share? = none ∨ blank = true → cs = []
  full : ∀ k, share? = some k → blank = false → cs.length = k ∧ 0 < k

variable {p : Predicates} {repository : Repository} {now : Moment} {cs : List Clause}

lemma heeds_fixed {α : Type} (make : α → Clause) (v : Option α) :
    Heeds (v.map fun _ => 1) false (v.map make).toList := by
  cases v with
  | none => exact ⟨fun _ => rfl, nofun⟩
  | some a => exact ⟨by simp, by simp⟩

lemma heeds_text (make : String → Clause) (v : Option String) :
    Heeds (v.map fun _ => 1) (v == some "") (textClause make v) := by
  cases v with
  | none => exact ⟨fun _ => rfl, nofun⟩
  | some s => by_cases hs : s = "" <;> constructor <;> simp [textClause, hs]

lemma heeds_labels (negated : Bool) (v : Option (List String)) :
    Heeds (v.map List.length) (v == some []) (labelClauses negated (v.getD [])) := by
  cases v with
  | none => exact ⟨fun _ => rfl, nofun⟩
  | some labels => cases labels <;> constructor <;> simp [labelClauses]

lemma heeds_time {field : TimeField} {v : Option String} (hv : v ≠ some "")
    (h : timeClause field now v = .ok cs) : Heeds (v.map fun _ => 1) false cs := by
  have hlength : cs.length = v.toList.countP (· ≠ "") := (makes_time (p := {}) h).1
  cases v with
  | none => exact ⟨fun _ => List.eq_nil_of_length_eq_zero hlength, nofun⟩
  | some s =>
    have hs : s ≠ "" := fun hs => hv (congrArg some hs)
    exact ⟨by simp, by simpa [hs] using hlength⟩

lemma heeds_field (hcreated : p.created ≠ some "") (hupdated : p.updated ≠ some "")
    {f : PredicateField} (h : fieldClauses p now f = .ok cs) : Heeds (p.share? f) (p.isBlank f) cs := by
  cases f with
  | created => exact heeds_time hcreated h
  | updated => exact heeds_time hupdated h
  | comments =>
    rw [commentsClause_ok h]
    exact heeds_fixed _ _
  | type | state | review | linked | noLinked =>
    obtain rfl := Except.ok.inj h
    exact heeds_fixed _ _
  | label | noLabel =>
    obtain rfl := Except.ok.inj h
    exact heeds_labels _ _
  | author | notAuthor | assignee | notAssigned | reviewedBy =>
    obtain rfl := Except.ok.inj h
    exact heeds_text _ _

/-- The clauses behind the repository's are the shares of the fields whose values are not blank. -/
theorem clauses_heed {query : String} (hcreated : p.created ≠ some "") (hupdated : p.updated ≠ some "")
    (hquery : compile p repository now = .ok query) :
    ∃ cs, clauses p repository now = .ok (.repository repository :: cs) ∧
      query = render (.repository repository :: cs) ∧
      (∀ f, Heeds (p.share? f) (p.isBlank f) (cs.filter fun c => c.field? = some f)) ∧
      ∀ c ∈ cs, ∃ f, c.field? = some f := by
  cases hall : clauses p repository now with
  | error e =>
    rw [compile, hall] at hquery
    cases hquery
  | ok all =>
    rw [compile, hall] at hquery
    obtain rfl := Except.ok.inj hquery
    obtain ⟨parts, hparts, rfl⟩ := clauses_eq_flatMap hall
    refine ⟨_, rfl, rfl, fun f => ?_, fun c hc => ?_⟩
    · have hfield := fieldClauses_ok hall f
      rw [List.filter_cons_of_neg (by simp [Clause.field?])] at hfield
      exact heeds_field hcreated hupdated hfield
    · obtain ⟨f, -, hcf⟩ := List.mem_flatMap.mp hc
      exact ⟨f, field?_of_mem (hparts f) hcf⟩

end Query

/-- The fields of action sets in the order of their effects. -/
inductive ActionField where
  | removeLabels
  | addLabels
  | replaceLabels
  | comment
  | setState
  | setLocked
  | removeAssignees
  | addAssignees
  deriving DecidableEq, Repr

def ActionField.all : List ActionField :=
  [removeLabels, addLabels, replaceLabels, comment, setState, setLocked, removeAssignees, addAssignees]

namespace ActionSet

/-- The effect that the value of a field calls for. To take off all assignees calls for none when there
are none. -/
def asked (a : ActionSet) (issue : Issue) : ActionField → Option Effect
  | .removeLabels => a.removeLabels.map fun targets =>
    .replaceLabels (Labels.without issue.labelNames targets)
  | .addLabels => a.addLabels.map .addLabels
  | .replaceLabels => a.replaceLabels.map .replaceLabels
  | .comment => a.comment.map fun template => .comment (Template.render template issue)
  | .setState => a.setState.map .setState
  | .setLocked => a.setLocked.map lockEffect
  | .removeAssignees =>
    if a.removesAllAssignees then
      if issue.assigneeLogins = [] then none else some (.unassign issue.assigneeLogins)
    else a.removeAssignees.map .unassign
  | .addAssignees => a.addAssignees.map .assign

/-- Whether the value of a field is an empty text or an empty list. -/
def isBlank (a : ActionSet) : ActionField → Bool
  | .removeLabels => a.removeLabels == some []
  | .addLabels => a.addLabels == some []
  | .replaceLabels => a.replaceLabels == some []
  | .comment => a.comment == some ""
  | .setState => false
  | .setLocked => false
  | .removeAssignees => a.removeAssignees == some []
  | .addAssignees => a.addAssignees == some []

/-- What one field adds to a plan: the effect that it calls for, unless its value is blank. -/
def heeded (a : ActionSet) (issue : Issue) (f : ActionField) : List Effect :=
  if a.isBlank f then [] else (a.asked issue f).toList

lemma toList_given (items : Option (List String)) (make : List String → Effect) :
    ((given items).map make).toList = if items == some [] then [] else (items.map make).toList := by
  cases items with
  | none => rfl
  | some l => cases l <;> rfl

lemma toList_comment (a : ActionSet) (issue : Issue) :
    ((a.comment.filter (· ≠ "")).map fun template =>
      Effect.comment (Template.render template issue)).toList = a.heeded issue .comment := by
  unfold heeded isBlank asked
  cases a.comment with
  | none => rfl
  | some text => by_cases htext : text = "" <;> simp [Option.filter, htext]

lemma toList_assigneesToRemove (a : ActionSet) (issue : Issue) :
    ((a.assigneesToRemove issue).map Effect.unassign).toList = a.heeded issue .removeAssignees := by
  unfold heeded isBlank asked assigneesToRemove removesAllAssignees
  cases a.removeAssignees with
  | none => rfl
  | some logins =>
    cases logins with
    | nil => rfl
    | cons login logins =>
      have hgiven : given (some (login :: logins)) = some (login :: logins) := rfl
      rw [hgiven, Option.map_some]
      by_cases hall : (some (login :: logins) == some [allAssignees]) = true
      · rw [if_pos hall, if_pos hall]
        cases issue.assigneeLogins <;> rfl
      · rw [if_neg hall, if_neg hall]
        rfl

/-- The plan has the effect of each field in order, but for blank values. -/
theorem plan_eq_flatMap (a : ActionSet) (issue : Issue) :
    a.plan issue = ActionField.all.flatMap (a.heeded issue) := by
  rw [plan, toList_given, toList_given, toList_given, toList_comment, toList_assigneesToRemove,
    toList_given]
  simp only [ActionField.all, List.flatMap_cons, List.flatMap_nil, List.append_assoc, List.append_nil]
  rfl

/-- An empty list of new labels is as good as none. -/
lemma relabel_eq_toFinset_iff {a : ActionSet} {labels : List String} (h : a.replaceLabels = some labels)
    (seen current : Finset String) : a.relabel seen current = labels.toFinset ↔
      (labels = [] → { a with replaceLabels := none }.relabel seen current = ∅) := by
  cases labels with
  | nil =>
    have hnone : { a with replaceLabels := none }.relabel seen current = a.relabel seen current := by
      simp only [relabel, h]
      rfl
    rw [hnone]
    exact ⟨fun hlabels _ => hlabels, fun hlabels => hlabels rfl⟩
  | cons label labels =>
    have hsome : a.relabel seen current = (label :: labels).toFinset := by
      simp only [relabel, h]
      rfl
    exact iff_of_true hsome nofun

/-- When no call fails, an execution makes the calls of the fields in order, but for blank values. -/
theorem execute_heeds {t : Tracker} {h : Host} {n : Int} {r s : Record} (a : ActionSet)
    (hs : t.scope.fullName = t.home) (ht : ∀ log, t.fails log = none) (hr : h.record? n = some r)
    (hn : s.number = n) :
    ∃ h' d, a.execute s.issue t h = (.ok ⟨n, a.plan s.issue⟩, h') ∧
      h'.log = h.log ++ ActionField.all.flatMap (fun f =>
        (a.heeded s.issue f).flatMap (Effect.calls n)) ∧
      h'.disposition? n = some d ∧ d.labels = a.relabel s.disposition.labels r.disposition.labels := by
  obtain ⟨h', calls, hexecute, -, hd⟩ := execute_ok hs ht hr a hn
  obtain ⟨outcome, h'', hends, hends'⟩ := execute_ends a s.issue t h
  have hsame := hexecute.symm.trans hends'
  obtain ⟨houtcome, rfl⟩ := Prod.mk.inj hsame
  refine ⟨h', _, hexecute, ?_, hd, rfl⟩
  cases hends with
  | done hgo hadv =>
    have hnumber : s.issue.number = n := hn
    rw [hadv.log, plan_eq_flatMap, List.flatMap_assoc, hnumber]
  | stopped => cases houtcome

end ActionSet

namespace Rule

lemma created_ne_empty {rule : Rule} (h : Timely rule) :
    rule.predicates.created ≠ some "" ∧ rule.predicates.updated ≠ some "" := by
  have hempty : ¬∃ d, Duration.parse "" = .ok d := by
    rintro ⟨d, hd⟩
    cases hd
  exact ⟨fun hc => hempty (h "" (.inl hc)), fun hu => hempty (h "" (.inr hu))⟩

/-- Of the values of a task that was accepted, exactly those that are blank are passed over. Every other
value of a predicate makes its share of the query's clauses, so that the query is for all issues exactly
when there are no other values, and every other value of an action leads to its calls. New labels take
the place of the old ones unless the list is empty and the other actions leave some. -/
theorem values_heeded {name : String} {raw : Value} {rule : Rule} (hparse : parse name raw = .ok rule) :
    (∀ repository now query, Query.compile rule.predicates repository now = .ok query →
      ∃ cs, Query.clauses rule.predicates repository now = .ok (.repository repository :: cs) ∧
        query = Query.render (.repository repository :: cs) ∧
        (∀ f k, rule.predicates.share? f = some k →
          ((cs.filter fun c => c.field? = some f).length = k ∧ 0 < k ↔
            rule.predicates.isBlank f = false)) ∧
        (cs = [] ↔ ∀ f, rule.predicates.share? f = none ∨ rule.predicates.isBlank f = true)) ∧
    ∀ (t : Tracker) (h : Host) (n : Int) (r s : Record), t.scope.fullName = t.home →
      (∀ log, t.fails log = none) → h.record? n = some r → s.number = n →
      ∃ h' d, rule.actions.execute s.issue t h = (.ok ⟨n, rule.actions.plan s.issue⟩, h') ∧
        h'.log = h.log ++ ActionField.all.flatMap (fun f =>
          if rule.actions.isBlank f then []
          else (rule.actions.asked s.issue f).toList.flatMap (Effect.calls n)) ∧
        h'.disposition? n = some d ∧
        ∀ labels, rule.actions.replaceLabels = some labels →
          (d.labels = labels.toFinset ↔ (labels = [] → { rule.actions with replaceLabels := none }.relabel
            s.disposition.labels r.disposition.labels = ∅)) := by
  have hparsed := parsed_parse name raw
  rw [hparse] at hparsed
  obtain ⟨-, htimely⟩ := hparsed
  obtain ⟨hcreated, hupdated⟩ := created_ne_empty htimely
  constructor
  · intro repository now query hquery
    obtain ⟨cs, hclauses, hrender, hheeds, hfields⟩ := Query.clauses_heed hcreated hupdated hquery
    refine ⟨cs, hclauses, hrender, fun f k hk => ?_, ?_, ?_⟩
    · cases hblank : rule.predicates.isBlank f with
      | false => exact iff_of_true ((hheeds f).full k hk hblank) rfl
      | true =>
        have hsilent := (hheeds f).silent (.inr hblank)
        rw [hsilent, List.length_nil]
        exact iff_of_false (fun hlength => hlength.2.ne hlength.1) (by simp)
    · rintro rfl f
      by_contra hnot
      rw [not_or, Bool.not_eq_true] at hnot
      obtain ⟨k, hk⟩ := Option.ne_none_iff_exists'.mp hnot.1
      obtain ⟨hlength, hpos⟩ := (hheeds f).full k hk hnot.2
      exact hpos.ne hlength
    · intro hpassed
      refine List.eq_nil_iff_forall_not_mem.mpr fun c hc => ?_
      obtain ⟨f, hf⟩ := hfields c hc
      have hmem : c ∈ cs.filter fun c => c.field? = some f := List.mem_filter.mpr ⟨hc, decide_eq_true hf⟩
      rw [(hheeds f).silent (hpassed f)] at hmem
      cases hmem
  · intro t h n r s hs ht hr hn
    obtain ⟨h', d, hexecute, hlog, hd, hlabels⟩ := rule.actions.execute_heeds hs ht hr hn
    refine ⟨h', d, hexecute, ?_, hd, fun labels hreplace => ?_⟩
    · rw [hlog]
      refine congrArg _ (List.flatMap_congr fun f _ => ?_)
      unfold ActionSet.heeded
      split_ifs <;> rfl
    · rw [hlabels]
      exact ActionSet.relabel_eq_toFinset_iff hreplace _ _

/-- A task with two labels that it looks for and one that it adds, and a blank value of either kind. -/
def mixedBlock : Value :=
  .map [(.str "if_label", .list [.str "help wanted", .str "no"]), (.str "if_author", .str ""),
    (.str "replace_labels", .list []), (.str "add_labels", .str "new")]

def mixedRule : Rule where
  name := "mixed"
  predicates := { label := some ["help wanted", "no"], author := some "" }
  actions := { replaceLabels := some [], addLabels := some ["new"] }

theorem values_heeded_mixedRule :
    parse "mixed" mixedBlock = .ok mixedRule ∧
      (∃ cs, Query.clauses mixedRule.predicates ⟨"octo", "widgets"⟩ Query.firstDay =
          .ok (.repository ⟨"octo", "widgets"⟩ :: cs) ∧
        Query.compile mixedRule.predicates ⟨"octo", "widgets"⟩ Query.firstDay =
          .ok (Query.render (.repository ⟨"octo", "widgets"⟩ :: cs)) ∧
        (cs.filter fun c => c.field? = some .label).length = 2 ∧ cs ≠ []) ∧
      ∃ h' d, mixedRule.actions.execute crowdedRecord.issue quietTracker crowdedHost =
          (.ok ⟨4, mixedRule.actions.plan crowdedRecord.issue⟩, h') ∧
        h'.log = [.fetch 4, .change 4 (.addLabels ["new"])] ∧ h'.disposition? 4 = some d ∧
        d.labels ≠ ∅ := by
  have hparse : parse "mixed" mixedBlock = .ok mixedRule := rfl
  have hquery : Query.compile mixedRule.predicates ⟨"octo", "widgets"⟩ Query.firstDay =
      .ok "repo:octo/widgets label:\"help wanted\" no:label" := rfl
  obtain ⟨hpredicates, hactions⟩ := values_heeded hparse
  obtain ⟨cs, hclauses, hrender, hshare, hnone⟩ := hpredicates _ _ _ hquery
  obtain ⟨h', d, hexecute, hlog, hd, hlabels⟩ :=
    hactions quietTracker crowdedHost 4 crowdedRecord crowdedRecord rfl (fun _ => rfl) rfl rfl
  refine ⟨hparse, ⟨cs, hclauses, hquery.trans (congrArg _ hrender), ((hshare .label 2 rfl).mpr rfl).1,
    fun hcs => ?_⟩, h', d, hexecute, hlog.trans (by decide +kernel), hd, fun hd => ?_⟩
  · rcases hnone.mp hcs .label with hlabel | hlabel
    · cases hlabel
    · cases hlabel
  · exact absurd ((hlabels [] rfl).mp hd rfl) (by decide +kernel)

/-- A task that asks for an author without a name and for no label. -/
def blankBlock : Value :=
  .map [(.str "if_author", .str ""), (.str "if_label", .list []), (.str "replace_labels", .list [])]

/-- Such a task is accepted, finds all issues, and leaves their labels as they are. -/
theorem values_ignored_blankBlock :
    ∃ rule, parse "blank" blankBlock = .ok rule ∧ rule.predicates.author = some "" ∧
      rule.predicates.label = some [] ∧ rule.actions.replaceLabels = some [] ∧
      Query.compile rule.predicates ⟨"octo", "widgets"⟩ Query.firstDay = .ok "repo:octo/widgets" ∧
      rule.actions.execute crowdedRecord.issue quietTracker crowdedHost = (.ok ⟨4, []⟩, crowdedHost) ∧
      crowdedRecord.issue.labelNames = ["stale", "kept", "bug"] :=
  ⟨⟨"blank", { author := some "", label := some [] }, { replaceLabels := some [] }⟩, rfl, rfl, rfl, rfl,
    rfl, rfl, rfl⟩

end Rule

end Triage
