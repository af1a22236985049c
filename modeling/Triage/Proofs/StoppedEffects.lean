import Mathlib
import Triage.Proofs.ActionOutcomes

/-!
# Effects that stop

The effects of an action set are performed in the order of their plan. Those in front of the first that
fails stay done, its failure is that of the whole, and those behind it are never asked for. Which one that
is can be read off the calls that fail, since every effect makes the same two calls whatever happened
before.
-/

namespace Triage

open ActionSet (given)

namespace Tracker

/-- Whether none of some calls fails, when they are made after a log. -/
def Serves (t : Tracker) : List Call → List Call → Prop
  | _, [] => True
  | log, c :: cs => t.fails (log ++ [c]) = none ∧ Serves t (log ++ [c]) cs

variable {t : Tracker} {h h' : Host} {n : Int}

lemma serves_append (log calls more : List Call) :
    t.Serves log (calls ++ more) ↔ t.Serves log calls ∧ t.Serves (log ++ calls) more := by
  induction calls generalizing log with
  | nil => simp [Serves]
  | cons c calls ih => simp [Serves, ih, and_assoc]

lemma Serves.spares {log calls : List Call} (h : t.Serves log calls) (n : Int) :
    t.spares n log calls = true := by
  induction calls generalizing log with
  | nil => rfl
  | cons c calls ih => simp [Tracker.spares, h.1, ih h.2]

lemma knows_of_advances {calls : List Call} {f : Record → Record} (ha : h.Advances h' calls f) :
    t.Knows h' n ↔ t.Knows h n := by
  refine and_congr_right fun _ => ⟨fun ⟨r, hr⟩ => ?_, fun ⟨r, hr⟩ => ⟨_, ha.record? hr⟩⟩
  rw [Host.record?_eq_some_iff, ha.records] at hr
  obtain ⟨s, hs, rfl⟩ := List.mem_map.mp hr.1
  exact ⟨s, Host.record?_eq_some_iff.mpr ⟨hs, (ha.number s).symm.trans hr.2⟩⟩

/-- A change that every record takes is made when the issue is known and both calls are answered.
Otherwise the first call that is not answered, or that does not find the issue, is the last. -/
theorem alter_cases {c : Change} (hc : ∀ r : Record, ∃ s, r.apply c = some s) (a : Activity) :
    (t.Knows h n ∧ t.Serves h.log [.fetch n, .change n c] ∧ ∃ h', alter a n c t h = (.ok (), h') ∧
        h.Advances h' [.fetch n, .change n c] (Record.only n (Record.after c))) ∨
      (¬(t.Knows h n ∧ t.Serves h.log [.fetch n, .change n c]) ∧ ∃ e h' tried,
        alter a n c t h = (.error e, h') ∧ tried ≠ [] ∧ tried <+: [.fetch n, .change n c] ∧
        h.Advances h' tried id) := by
  have hfetch : [Call.fetch n] <+: [.fetch n, .change n c] := ⟨[.change n c], rfl⟩
  by_cases hknown : t.Knows h n
  · obtain ⟨hs, r, hr⟩ := hknown
    obtain ⟨s, happly⟩ := hc r
    cases hfirst : t.fails (h.log ++ [.fetch n]) with
    | some fault =>
      obtain ⟨e, he⟩ := recordFor_error (h := h) hfirst a
      refine .inr ⟨fun hall => ?_, e, _, [.fetch n], Op.bind_error he _, List.cons_ne_nil _ _, hfetch,
        h.advances_logged _⟩
      exact absurd (hfirst.symm.trans hall.2.1) (by rintro ⟨⟩)
    | none =>
      have hfetched := recordFor_ok hs hr hfirst a
      cases hsecond : t.fails (h.log ++ [.fetch n] ++ [.change n c]) with
      | none =>
        have hserved : t.Serves h.log [.fetch n, .change n c] := ⟨hfirst, hsecond, trivial⟩
        exact .inl ⟨⟨hs, r, hr⟩, hserved, alter_ok hs hr happly (hserved.spares n) a⟩
      | some fault =>
        have hchange := change_error (h := h.logged (.fetch n)) hsecond
        refine .inr ⟨fun hall => ?_, fault.during a, _, [.fetch n, .change n c], ?_,
          List.cons_ne_nil _ _, List.prefix_rfl, (h.advances_logged _).trans (Host.advances_logged _ _)⟩
        · exact absurd (hsecond.symm.trans hall.2.2.1) (by rintro ⟨⟩)
        · refine (Op.bind_ok hfetched _).trans ?_
          rw [Op.mapError, hchange]
          rfl
  · obtain ⟨e, he⟩ := recordFor_stranger hknown a
    exact .inr ⟨fun hall => hknown hall.1, e, _, [.fetch n], Op.bind_error he _, List.cons_ne_nil _ _,
      hfetch, h.advances_logged _⟩

end Tracker

namespace Effect

/-- The calls that an effect on an issue makes. -/
def calls (n : Int) (e : Effect) : List Call := [.fetch n, .change n e.change]

/-- Whether effects on an issue go through: the issue is known, and none of their calls fails. -/
def GoThrough (t : Tracker) (h : Host) (n : Int) (effects : List Effect) : Prop :=
  (effects ≠ [] → t.Knows h n) ∧ t.Serves h.log (effects.flatMap (calls n))

/-- How effects on an issue end. -/
inductive Ends (t : Tracker) (h : Host) (n : Int) (effects : List Effect) :
    Except Failure Unit → Host → Prop where
  /-- All of them are performed. -/
  | done {h' : Host} : GoThrough t h n effects →
      h.Advances h' (effects.flatMap (calls n)) (Record.only n (applyAll effects)) →
      Ends t h n effects (.ok ()) h'
  /-- The effect `e` is the first that does not go through, and the last that is tried. -/
  | stopped {front rest : List Effect} {e : Effect} {failure : Failure} {h₁ h₂ : Host}
      {tried : List Call} : effects = front ++ e :: rest → GoThrough t h n front →
      ¬GoThrough t h n (front ++ [e]) → performAll n front t h = (.ok (), h₁) →
      h.Advances h₁ (front.flatMap (calls n)) (Record.only n (applyAll front)) →
      perform n e t h₁ = (.error failure, h₂) → tried ≠ [] → tried <+: calls n e →
      h₁.Advances h₂ tried id → Ends t h n effects (.error failure) h₂

variable {t : Tracker} {h h₁ : Host} {n : Int}

lemma goThrough_nil : GoThrough t h n [] := ⟨fun hne => absurd rfl hne, trivial⟩

lemma goThrough_singleton (e : Effect) :
    GoThrough t h n [e] ↔ t.Knows h n ∧ t.Serves h.log (calls n e) := by
  simp [GoThrough]

lemma GoThrough.front {front rest : List Effect} (hall : GoThrough t h n (front ++ rest)) :
    GoThrough t h n front := by
  refine ⟨fun hne => hall.1 (List.append_ne_nil_of_left_ne_nil hne rest), ?_⟩
  have hserved := hall.2
  rw [List.flatMap_append, Tracker.serves_append] at hserved
  exact hserved.1

lemma Ends.ok_iff {effects : List Effect} {outcome : Except Failure Unit}
    (hends : Ends t h n effects outcome h₁) : outcome = .ok () ↔ GoThrough t h n effects := by
  cases hends with
  | done hgo => exact ⟨fun _ => hgo, fun _ => rfl⟩
  | @stopped front rest e failure _ _ _ heq _ hstop =>
    constructor
    · rintro ⟨⟩
    · intro hall
      rw [heq, List.append_cons] at hall
      exact absurd hall.front hstop

/-- Effects go through after one that did when they do so where it left the host. -/
lemma goThrough_cons {e : Effect} {effects : List Effect} (hfirst : GoThrough t h n [e])
    (ha : h.Advances h₁ (calls n e) (Record.only n (Record.after e.change))) :
    GoThrough t h n (e :: effects) ↔ GoThrough t h₁ n effects := by
  rw [goThrough_singleton] at hfirst
  simp only [GoThrough, Tracker.knows_of_advances ha, ha.log, List.flatMap_cons,
    Tracker.serves_append, hfirst.1, hfirst.2, implies_true, true_and]

/-- An effect is performed, or one of its calls is the last. -/
lemma perform_cases (e : Effect) :
    (GoThrough t h n [e] ∧ ∃ h', e.perform n t h = (.ok (), h') ∧
        h.Advances h' (calls n e) (Record.only n (Record.after e.change))) ∨
      (¬GoThrough t h n [e] ∧ ∃ failure h' tried, e.perform n t h = (.error failure, h') ∧
        tried ≠ [] ∧ tried <+: calls n e ∧ h.Advances h' tried id) := by
  obtain ⟨activity, hperform⟩ := exists_perform_eq n e
  rw [goThrough_singleton, hperform]
  rcases Tracker.alter_cases (t := t) (h := h) (n := n) (fun r => ⟨_, apply_change e r⟩) activity with
    ⟨hknown, hserved, hdone⟩ | hstopped
  · exact .inl ⟨⟨hknown, hserved⟩, hdone⟩
  · exact .inr hstopped

/-- Effects on an issue are all performed, or up to the first that does not go through. -/
theorem performAll_ends (effects : List Effect) (h : Host) :
    ∃ outcome h', performAll n effects t h = (outcome, h') ∧ Ends t h n effects outcome h' := by
  induction effects generalizing h with
  | nil =>
    refine ⟨.ok (), h, rfl, .done goThrough_nil ?_⟩
    rw [only_applyAll_nil]
    exact h.advances_refl
  | cons e effects ih =>
    rcases perform_cases (t := t) (h := h) (n := n) e with
      ⟨hthrough, h₁, hperform, ha⟩ | ⟨hnot, failure, h₁, tried, hperform, htried⟩
    · have hall (more : List Effect) : performAll n (e :: more) t h = performAll n more t h₁ :=
        Op.bind_ok hperform _
      obtain ⟨outcome, h', hrest, hends⟩ := ih h₁
      refine ⟨outcome, h', (hall effects).trans hrest, ?_⟩
      cases hends with
      | done hgo hadv =>
        have hboth := ha.trans hadv
        rw [only_applyAll_cons] at hboth
        exact .done ((goThrough_cons hthrough ha).mpr hgo) hboth
      | @stopped front rest e' _ h₂ _ _ heq hgo hstop hfront hadv hlast hne hprefix hsame =>
        have hboth := ha.trans hadv
        rw [only_applyAll_cons] at hboth
        have hsplit : e :: effects = (e :: front) ++ e' :: rest := congrArg (e :: ·) heq
        refine .stopped hsplit ((goThrough_cons hthrough ha).mpr hgo) ?_ ((hall front).trans hfront)
          hboth hlast hne hprefix hsame
        rw [List.cons_append, goThrough_cons hthrough ha]
        exact hstop
    · refine ⟨.error failure, h₁, Op.bind_error hperform _, ?_⟩
      have hsplit : e :: effects = [] ++ e :: effects := rfl
      have hnone : h.Advances h ([].flatMap (calls n)) (Record.only n (applyAll [])) := by
        rw [only_applyAll_nil]
        exact h.advances_refl
      exact .stopped hsplit goThrough_nil hnot rfl hnone hperform htried.1 htried.2.1 htried.2.2

end Effect

namespace ActionSet

/-- All eight effects in their order. Those that are not configured have something in their place. -/
def slots (a : ActionSet) (issue : Issue) : List Effect :=
  [.replaceLabels (Labels.without issue.labelNames (a.removeLabels.getD [])),
    .addLabels (a.addLabels.getD []),
    .replaceLabels (a.replaceLabels.getD []),
    .comment (Template.render (a.comment.getD "") issue),
    .setState (a.setState.getD .opened),
    lockEffect (a.setLocked.getD .unlock),
    .unassign ((a.assigneesToRemove issue).getD []),
    .assign (a.addAssignees.getD [])]

lemma toList_map_sublist {α : Type} {o g : Option α} (h : ∀ x, g = some x → o = some x)
    (f : α → Effect) (default : α) : (g.map f).toList.Sublist [f (o.getD default)] := by
  cases g with
  | none => exact List.nil_sublist _
  | some x =>
    rw [h x rfl]
    exact .refl _

theorem plan_sublist_slots (a : ActionSet) (issue : Issue) : (a.plan issue).Sublist (a.slots issue) := by
  have hlist (items : Option (List String)) (f : List String → Effect) :
      ((given items).map f).toList.Sublist [f (items.getD [])] :=
    toList_map_sublist (fun _ h => eq_some_of_given h) f []
  have hremove := hlist a.removeLabels fun targets =>
    .replaceLabels (Labels.without issue.labelNames targets)
  have hadd := hlist a.addLabels .addLabels
  have hreplace := hlist a.replaceLabels .replaceLabels
  have hcomment := toList_map_sublist (o := a.comment) (g := a.comment.filter (· ≠ ""))
    (fun _ h => (Option.filter_eq_some_iff.mp h).1)
    (fun template => .comment (Template.render template issue)) ""
  have hstate := toList_map_sublist (o := a.setState) (fun _ h => h) .setState IssueState.opened
  have hlock := toList_map_sublist (o := a.setLocked) (fun _ h => h) lockEffect LockChange.unlock
  have hunassign := toList_map_sublist (o := a.assigneesToRemove issue) (fun _ h => h) .unassign []
  have hassign := hlist a.addAssignees .assign
  exact ((((((hremove.append hadd).append hreplace).append hcomment).append hstate).append
    hlock).append hunassign).append hassign

lemma execute_ends (a : ActionSet) (issue : Issue) (t : Tracker) (h : Host) :
    ∃ outcome h', Effect.Ends t h issue.number (a.plan issue) outcome h' ∧
      a.execute issue t h = (outcome.map fun _ => ⟨issue.number, a.plan issue⟩, h') := by
  obtain ⟨outcome, h', hall, hends⟩ := Effect.performAll_ends (t := t) (n := issue.number) (a.plan issue) h
  refine ⟨outcome, h', hends, ?_⟩
  cases outcome with
  | ok _ => exact Op.bind_ok hall _
  | error _ => exact Op.bind_error hall _

/-- An execution performs its plan, a selection of the eight effects in their order. It returns the plan
when all of it goes through. Otherwise it is stopped by the first effect that does not, with the failure
of that effect, and the host is as the effects in front of it left it. -/
theorem execute_stops (a : ActionSet) (issue : Issue) (t : Tracker) (h : Host) :
    (a.plan issue).Sublist (a.slots issue) ∧
      ∃ outcome h', a.execute issue t h = (outcome.map fun _ => ⟨issue.number, a.plan issue⟩, h') ∧
        (outcome = .ok () ↔ Effect.GoThrough t h issue.number (a.plan issue)) ∧
        Effect.Ends t h issue.number (a.plan issue) outcome h' := by
  obtain ⟨outcome, h', hends, hexecute⟩ := a.execute_ends issue t h
  exact ⟨a.plan_sublist_slots issue, outcome, h', hexecute, hends.ok_iff, hends⟩

-- The label stays when the comment fails, and nobody asks for the issue to be closed.
example :
    let a : ActionSet := { addLabels := some ["new"], comment := some "Hi", setState := some .closed }
    let t : Tracker := { quietTracker with
      fails := fun log => if log.getLast? = some (.change 4 (.comment "Hi")) then
        some (.unreachable "reset") else none }
    (a.execute crowdedRecord.issue t crowdedHost).2.log =
      [.fetch 4, .change 4 (.addLabels ["new"]), .fetch 4, .change 4 (.comment "Hi")] := by
  decide +kernel

end ActionSet

end Triage
