import Mathlib
import Triage.Proofs.QueryTokens

/-!
# The clauses of one field

Every clause of a query but the repository's comes from one field of the predicates and shows which one.
So the clauses can be sorted by field again, and what a field contributes depends on its value alone.
-/

namespace Triage

/-- The fields of predicates in the order of their clauses. -/
inductive PredicateField where
  | type
  | state
  | created
  | updated
  | label
  | noLabel
  | author
  | notAuthor
  | assignee
  | notAssigned
  | comments
  | review
  | reviewedBy
  | linked
  | noLinked
  deriving DecidableEq, Repr

namespace PredicateField

def all : List PredicateField :=
  [type, state, created, updated, label, noLabel, author, notAuthor, assignee, notAssigned, comments,
    review, reviewedBy, linked, noLinked]

lemma mem_all (f : PredicateField) : f ∈ all := by
  cases f <;> decide

lemma nodup_all : all.Nodup := by decide

end PredicateField

/-- The field that a clause comes from; none for the repository's. -/
def Clause.field? : Clause → Option PredicateField
  | .repository _ => none
  | .type _ => some .type
  | .state _ => some .state
  | .olderThan .created _ => some .created
  | .olderThan .updated _ => some .updated
  | .label negated _ | .noLabel negated => some (if negated then .noLabel else .label)
  | .author negated _ => some (if negated then .notAuthor else .author)
  | .noAssignee => some .assignee
  | .assignee negated _ => some (if negated then .notAssigned else .assignee)
  | .commentsAtMost _ => some .comments
  | .review _ => some .review
  | .reviewedBy _ => some .reviewedBy
  | .linked negated _ => some (if negated then .noLinked else .linked)

namespace Query

/-- The timestamp that a duration resolves to; none when there is no such. -/
def deadline? (now : Moment) (duration : Option String) : Option String :=
  duration.bind fun s =>
    (Duration.parse s).toOption.bind fun d => (now.minus? d).bind Moment.timestamp?

/-- The clauses that one field contributes. -/
def fieldClauses (p : Predicates) (now : Moment) : PredicateField → Except Failure (List Clause)
  | .type => .ok (p.type.map Clause.type).toList
  | .state => .ok (p.state.map Clause.state).toList
  | .created => timeClause .created now p.created
  | .updated => timeClause .updated now p.updated
  | .label => .ok (labelClauses false (p.label.getD []))
  | .noLabel => .ok (labelClauses true (p.noLabel.getD []))
  | .author => .ok (textClause (.author false) p.author)
  | .notAuthor => .ok (textClause (.author true) p.notAuthor)
  | .assignee => .ok (textClause assigneeClause p.assignee)
  | .notAssigned => .ok (textClause (.assignee true) p.notAssigned)
  | .comments => commentsClause p.comments
  | .review => .ok (p.review.map Clause.review).toList
  | .reviewedBy => .ok (textClause .reviewedBy p.reviewedBy)
  | .linked => .ok (p.linked.map (Clause.linked false)).toList
  | .noLinked => .ok (p.noLinked.map (Clause.linked true)).toList

variable {p : Predicates} {repository : Repository} {now : Moment} {cs : List Clause}

section Fields

lemma textClause_eq (make : String → Clause) (v : Option String) :
    textClause make v = ((v.filter (· ≠ "")).map make).toList := by
  cases v with
  | none => rfl
  | some s => by_cases hs : s = "" <;> simp [textClause, Option.filter, hs]

lemma commentsClause_ok {v : Option Int} (h : commentsClause v = .ok cs) :
    cs = (v.map Clause.commentsAtMost).toList := by
  cases v with
  | none => exact (Except.ok.inj h).symm
  | some n =>
    dsimp only [commentsClause] at h
    split at h
    · cases h
    · exact (Except.ok.inj h).symm

lemma timeClause_ok {field : TimeField} {v : Option String} (h : timeClause field now v = .ok cs) :
    cs = ((deadline? now v).map (Clause.olderThan field)).toList := by
  cases v with
  | none => exact (Except.ok.inj h).symm
  | some s =>
    rw [timeClause] at h
    split_ifs at h with hs
    · subst hs
      exact (Except.ok.inj h).symm
    · cases hc : olderThan field s now with
      | error e => rw [hc] at h; cases h
      | ok c =>
        rw [hc] at h
        obtain rfl := Except.ok.inj h
        unfold olderThan at hc
        split at hc
        · cases hc
        · cases hc
        · rename_i d hd
          split at hc
          · rename_i t ht
            obtain rfl := Except.ok.inj hc
            have hdeadline : deadline? now (some s) = some t := by
              rw [deadline?, Option.bind_some, hd]
              exact ht
            rw [hdeadline]
            rfl
          · cases hc

lemma field?_assigneeClause (login : String) : (assigneeClause login).field? = some .assignee := by
  unfold assigneeClause
  split_ifs <;> rfl

lemma field?_labelClauses {negated : Bool} {labels : List String} {c : Clause}
    (h : c ∈ labelClauses negated labels) :
    c.field? = some (if negated then .noLabel else .label) := by
  obtain ⟨l, -, rfl⟩ := List.mem_map.mp h
  by_cases hl : l = noValue
  · rw [if_pos hl]
    rfl
  · rw [if_neg hl]
    rfl

/-- The clauses of a field are of that field. -/
lemma field?_of_mem {f : PredicateField} (h : fieldClauses p now f = .ok cs) {c : Clause} (hc : c ∈ cs) :
    c.field? = some f := by
  have hmade {α : Type} {make : α → Clause} {v : Option α} (hmake : ∀ a, (make a).field? = some f)
      (hcs : cs = (v.map make).toList) : c.field? = some f := by
    rw [hcs, Option.mem_toList] at hc
    obtain ⟨a, -, rfl⟩ := Option.map_eq_some_iff.mp hc
    exact hmake a
  cases f with
  | type | state | review | linked | noLinked => exact hmade (fun _ => rfl) (Except.ok.inj h).symm
  | created | updated => exact hmade (fun _ => rfl) (timeClause_ok h)
  | comments => exact hmade (fun _ => rfl) (commentsClause_ok h)
  | label | noLabel =>
    obtain rfl := Except.ok.inj h
    exact field?_labelClauses hc
  | assignee =>
    exact hmade field?_assigneeClause ((Except.ok.inj h).symm.trans (textClause_eq assigneeClause _))
  | author | notAuthor | notAssigned | reviewedBy =>
    exact hmade (fun _ => rfl) ((Except.ok.inj h).symm.trans (textClause_eq _ _))

end Fields

/-- The clauses of predicates are those of their fields in order. -/
lemma clauses_eq_flatMap {all : List Clause} (h : clauses p repository now = .ok all) :
    ∃ parts : PredicateField → List Clause, (∀ f, fieldClauses p now f = .ok (parts f)) ∧
      all = .repository repository :: PredicateField.all.flatMap parts := by
  unfold clauses at h
  cases hcreated : timeClause .created now p.created with
  | error e => rw [hcreated] at h; cases h
  | ok created =>
  cases hupdated : timeClause .updated now p.updated with
  | error e => rw [hcreated, hupdated] at h; cases h
  | ok updated =>
  cases hcomments : commentsClause p.comments with
  | error e => rw [hcreated, hupdated, hcomments] at h; cases h
  | ok comments =>
  rw [hcreated, hupdated, hcomments] at h
  obtain rfl := Except.ok.inj h
  refine ⟨fun f => (fieldClauses p now f).toOption.getD [], fun f => ?_, ?_⟩
  · cases f <;> simp [fieldClauses, hcreated, hupdated, hcomments, Except.toOption]
  · simp [PredicateField.all, fieldClauses, hcreated, hupdated, hcomments, Except.toOption]

lemma filter_flatMap {parts : PredicateField → List Clause}
    (hparts : ∀ f, ∀ c ∈ parts f, c.field? = some f) {fields : List PredicateField}
    (hnodup : fields.Nodup) {f : PredicateField} (hf : f ∈ fields) :
    (fields.flatMap parts).filter (fun c => c.field? = some f) = parts f := by
  induction fields with
  | nil => cases hf
  | cons g fields ih =>
    obtain ⟨hg, hnodup⟩ := List.nodup_cons.mp hnodup
    rw [List.flatMap_cons, List.filter_append]
    rcases List.mem_cons.mp hf with rfl | hf
    · have hown : (parts f).filter (fun c => c.field? = some f) = parts f :=
        List.filter_eq_self.mpr fun c hc => decide_eq_true (hparts f c hc)
      have hlater : (fields.flatMap parts).filter (fun c => c.field? = some f) = [] := by
        refine List.filter_eq_nil_iff.mpr fun c hc hcf => hg ?_
        obtain ⟨g, hgf, hcg⟩ := List.mem_flatMap.mp hc
        have hsame := (hparts g c hcg).symm.trans (of_decide_eq_true hcf)
        exact Option.some.inj hsame ▸ hgf
      rw [hown, hlater, List.append_nil]
    · have hother : (parts g).filter (fun c => c.field? = some f) = [] := by
        refine List.filter_eq_nil_iff.mpr fun c hc hcf => hg ?_
        have hsame := (hparts g c hc).symm.trans (of_decide_eq_true hcf)
        exact Option.some.inj hsame ▸ hf
      rw [hother, List.nil_append]
      exact ih hnodup hf

/-- The clauses of a field are those among all clauses that are of it. -/
theorem fieldClauses_ok {all : List Clause} (h : clauses p repository now = .ok all)
    (f : PredicateField) : fieldClauses p now f = .ok (all.filter fun c => c.field? = some f) := by
  obtain ⟨parts, hparts, rfl⟩ := clauses_eq_flatMap h
  have hown : ∀ f, ∀ c ∈ parts f, c.field? = some f := fun f _ hc => field?_of_mem (hparts f) hc
  rw [hparts f, List.filter_cons_of_neg (by simp [Clause.field?]),
    filter_flatMap hown PredicateField.nodup_all f.mem_all]

end Query

end Triage
